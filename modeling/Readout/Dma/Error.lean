import Readout.Text.Hex

/-! Why a superpage or a page report is refused. -/

namespace Readout

inductive DmaError where
  | notStarted
  | transferQueueFull
  | readyQueueEmpty
  | emptySuperpage
  | sizeNotPageMultiple (size pageSize : Nat)
  | outOfRange (offset size bufferSize : Nat)
  | misalignedOffset (offset : Nat)
  | offsetInUse (offset : Nat)
  | receivedRollback (current requested : Nat)
  | receivedOverflow (requested size : Nat)
  | readyRollback (offset : Nat)
  | unexpectedArrival
  | pageOverrun (length pageSize : Nat)
  deriving DecidableEq

def DmaError.message : DmaError → String
  | .notStarted => "DMA is not started"
  | .transferQueueFull => "could not push superpage, transfer queue was full"
  | .readyQueueEmpty => "ready queue was empty"
  | .emptySuperpage => "could not enqueue superpage, size == 0"
  | .sizeNotPageMultiple size pageSize =>
    s!"superpage size {size} is not a multiple of the DMA page size {pageSize}"
  | .outOfRange offset size bufferSize =>
    s!"superpage {Text.hex offset}+{Text.hex size} is outside the buffer of " ++
      s!"{Text.hex bufferSize} bytes"
  | .misalignedOffset offset => s!"superpage offset {Text.hex offset} is not 32-bit aligned"
  | .offsetInUse offset => s!"offset {Text.hex offset} already in use by another superpage"
  | .receivedRollback current requested =>
    s!"received bytes cannot go back from {current} to {requested}"
  | .receivedOverflow requested size => s!"received bytes {requested} exceed superpage size {size}"
  | .readyRollback offset => s!"superpage {Text.hex offset} is already ready"
  | .unexpectedArrival => "page acknowledgement without an outstanding page"
  | .pageOverrun length pageSize => s!"page reported {length} bytes, page size is {pageSize}"

end Readout
