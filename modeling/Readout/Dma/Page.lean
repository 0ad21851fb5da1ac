/-! One DMA page as it is handed to a transport. -/

namespace Readout.Dma

/-- The slots of the page in the FIFO and in the buffer ring, and the bytes that it covers. -/
structure Page where
  fifoIndex : Nat
  bufferIndex : Nat
  offset : Nat
  size : Nat
  deriving DecidableEq

end Readout.Dma
