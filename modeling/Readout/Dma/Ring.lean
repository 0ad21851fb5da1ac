/-! The buffer ring and the completion FIFO, which take up and give back slots together. -/

namespace Readout.Dma

/-- A run of `size` occupied slots from `tail` on, going round. -/
structure Slots where
  tail : Nat
  size : Nat
  deriving DecidableEq

namespace Slots

def none : Slots := ⟨0, 0⟩

/-- The slot behind the run, in a circle of `capacity` slots. -/
def head (slots : Slots) (capacity : Nat) : Nat :=
  if capacity = 0 then 0 else (slots.tail + slots.size) % capacity

def pushHead (slots : Slots) : Slots := { slots with size := slots.size + 1 }

def popTail (slots : Slots) (capacity : Nat) : Slots :=
  ⟨(slots.tail + 1) % capacity, slots.size - 1⟩

end Slots

/-- A buffer ring of `capacity` pages beside a FIFO of `depth` entries. -/
structure Ring (depth : Nat) where
  capacity : Nat
  buffer : Slots
  fifo : Slots
  deriving DecidableEq

/-- A use of the rings that their state does not allow. -/
inductive RingFault where
  | resized (outstanding : Nat)
  | bufferFull (capacity : Nat)
  | fifoFull (depth : Nat)
  | bufferEmpty
  | fifoEmpty
  deriving DecidableEq

def RingFault.message : RingFault → String
  | .resized outstanding => s!"buffer capacity changed with {outstanding} pages outstanding"
  | .bufferFull capacity => s!"buffer ring full ({capacity} pages)"
  | .fifoFull depth => s!"FIFO full ({depth} entries)"
  | .bufferEmpty => "buffer ring empty"
  | .fifoEmpty => "FIFO empty"

namespace Ring

variable {depth : Nat}

def withCapacity (capacity : Nat) : Ring depth := ⟨capacity, .none, .none⟩

def empty : Ring depth := withCapacity 0

def bufferFree (ring : Ring depth) : Nat := ring.capacity - ring.buffer.size

def fifoFree (ring : Ring depth) : Nat := depth - ring.fifo.size

/-- How many more pages both rings can take. -/
def free (ring : Ring depth) : Nat := min ring.bufferFree ring.fifoFree

def bufferHead (ring : Ring depth) : Nat := ring.buffer.head ring.capacity

def fifoHead (ring : Ring depth) : Nat := ring.fifo.head depth

def isBufferEmpty (ring : Ring depth) : Bool := ring.buffer.size == 0

def isFifoEmpty (ring : Ring depth) : Bool := ring.fifo.size == 0

/-- The oldest page of the buffer has no FIFO entry any more. -/
def isBufferTailOutOfFifo (ring : Ring depth) : Bool := decide (depth < ring.buffer.size)

/-- Only an empty buffer ring can be given another capacity. -/
def setCapacity (ring : Ring depth) (capacity : Nat) : Except RingFault (Ring depth) :=
  if ring.buffer.size = 0 then
    .ok { ring with capacity := capacity, buffer := { ring.buffer with tail := 0 } }
  else .error (.resized ring.buffer.size)

/-- Both rings emptied; the capacity stays. -/
def reset (ring : Ring depth) : Ring depth := withCapacity ring.capacity

/-- One slot taken in each ring. -/
def advanceHead (ring : Ring depth) : Except RingFault (Ring depth) :=
  if ring.bufferFree = 0 then .error (.bufferFull ring.capacity)
  else if ring.fifoFree = 0 then .error (.fifoFull depth)
  else .ok { ring with buffer := ring.buffer.pushHead, fifo := ring.fifo.pushHead }

/-- The oldest slot given back in each ring. -/
def advanceTail (ring : Ring depth) : Except RingFault (Ring depth) :=
  if ring.buffer.size = 0 then .error .bufferEmpty
  else if ring.fifo.size = 0 then .error .fifoEmpty
  else .ok { ring with
    buffer := ring.buffer.popTail ring.capacity
    fifo := ring.fifo.popTail depth }

theorem advanceHead_eq_ok {ring : Ring depth} (h : 0 < ring.free) :
    ring.advanceHead =
      .ok { ring with buffer := ring.buffer.pushHead, fifo := ring.fifo.pushHead } := by
  have : ring.bufferFree ≠ 0 := by simp only [free] at h; omega
  have : ring.fifoFree ≠ 0 := by simp only [free] at h; omega
  simp [advanceHead, *]

theorem advanceTail_eq_ok {ring : Ring depth} (hb : 0 < ring.buffer.size)
    (hf : 0 < ring.fifo.size) :
    ring.advanceTail = .ok { ring with
      buffer := ring.buffer.popTail ring.capacity
      fifo := ring.fifo.popTail depth } := by
  simp [advanceTail, Nat.ne_of_gt hb, Nat.ne_of_gt hf]

end Ring

end Readout.Dma
