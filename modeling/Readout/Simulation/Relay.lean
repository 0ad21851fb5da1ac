import Readout.Dma.Tracker

/-! Superpages whose pages arrive as soon as they are handed out. -/

namespace Readout.Dma.Tracker

/-- How many pages are still to be handed out. -/
def pagesToPush (tracker : Tracker) : Nat :=
  total (fun transfer => transfer.pages - transfer.pushed) tracker.transfer

/-- Hands out at most `n` pages, each of which arrives at once with `length` bytes. -/
def relayPages (length : Nat) :
    Nat → Tracker → Except CountOverflow (List (Nat × Except DmaError Unit)) × Tracker
  | 0, tracker => (.ok [], tracker)
  | n + 1, tracker =>
    match tracker.nextPage with
    | none => (.ok [], tracker)
    | some offset =>
      match tracker.pagePushed.pageArrived length with
      | (.error overflow, tracker) => (.error overflow, tracker)
      | (.ok credited, tracker) =>
        let (rest, tracker) := relayPages length n tracker
        (rest.map ((offset, credited) :: ·), tracker)

/-- Hands out every page; the answer is where each began and how its arrival went. -/
def relay (tracker : Tracker) (length : Nat) :
    Except CountOverflow (List (Nat × Except DmaError Unit)) × Tracker :=
  relayPages length tracker.pagesToPush tracker

end Readout.Dma.Tracker
