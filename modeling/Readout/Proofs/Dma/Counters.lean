import Readout.Dma.Ring
import Readout.Proofs.Attempt

/-!
The two rings are a pair of counters, the slots taken and the slots given back: whatever is asked of
them, what they hold and answer is told by the two numbers, and no step of theirs is undefined.
-/

namespace Readout.Dma

namespace Ring

/-- A use of the rings that changes them. -/
inductive Use where
  | advanceHead
  | advanceTail
  | setCapacity (capacity : Nat)
  | reset
  deriving DecidableEq

/-- Where a use ends early: at an assertion, or at a sum that has no result. -/
inductive Halt where
  | asserted (fault : RingFault)
  | underflow
  | zeroDivisor
  deriving DecidableEq

/-- Work on the rings, one assignment after the other; those before a halt stay. -/
abbrev Work (depth : Nat) (α : Type) := Attempt (Ring depth) Halt α

variable {depth : Nat}

namespace Work

/-- The difference, where it is a number. -/
def minus (number other : Nat) : Work depth Nat :=
  if number < other then throw .underflow else pure (number - other)

/-- The remainder, where there is something to divide by. -/
def modulo (number divisor : Nat) : Work depth Nat :=
  if divisor = 0 then throw .zeroDivisor else pure (number % divisor)

def bufferFree : Work depth Nat := do
  let ring ← get
  minus ring.capacity ring.buffer.size

def fifoFree : Work depth Nat := do
  let ring ← get
  minus depth ring.fifo.size

/-- How many more pages both rings can take. -/
def free : Work depth Nat := do
  let buffer ← bufferFree
  let fifo ← fifoFree
  pure (min buffer fifo)

def advanceHead : Work depth Unit := do
  let ring ← get
  let buffer ← bufferFree
  Attempt.require (0 < buffer) (.asserted (.bufferFull ring.capacity))
  let fifo ← fifoFree
  Attempt.require (0 < fifo) (.asserted (.fifoFull depth))
  modify fun ring => { ring with buffer.size := ring.buffer.size + 1 }
  modify fun ring => { ring with fifo.size := ring.fifo.size + 1 }

def advanceTail : Work depth Unit := do
  let ring ← get
  Attempt.require (0 < ring.buffer.size) (.asserted .bufferEmpty)
  Attempt.require (0 < ring.fifo.size) (.asserted .fifoEmpty)
  let tail ← modulo (ring.buffer.tail + 1) ring.capacity
  modify fun ring => { ring with buffer.tail := tail }
  let size ← minus ring.buffer.size 1
  modify fun ring => { ring with buffer.size := size }
  let tail ← modulo (ring.fifo.tail + 1) depth
  modify fun ring => { ring with fifo.tail := tail }
  let size ← minus ring.fifo.size 1
  modify fun ring => { ring with fifo.size := size }

def setCapacity (capacity : Nat) : Work depth Unit := do
  let ring ← get
  Attempt.require (ring.buffer.size = 0) (.asserted (.resized ring.buffer.size))
  modify fun ring => { ring with capacity := capacity }
  modify fun ring => { ring with buffer.tail := 0 }

def reset : Work depth Unit := do
  modify fun ring => { ring with buffer := .none }
  modify fun ring => { ring with fifo := .none }

theorem on_minus {number other : Nat} (h : other ≤ number) (ring : Ring depth) :
    (minus number other).on ring = (.ok (number - other), ring) := by
  unfold minus
  rw [if_neg (by omega)]
  rfl

theorem on_modulo {number divisor : Nat} (h : 0 < divisor) (ring : Ring depth) :
    (modulo number divisor).on ring = (.ok (number % divisor), ring) := by
  unfold modulo
  rw [if_neg (by omega)]
  rfl

end Work

/-- Neither ring holds more than it has slots for. -/
structure Sized (ring : Ring depth) : Prop where
  buffer_le : ring.buffer.size ≤ ring.capacity
  fifo_le : ring.fifo.size ≤ depth

namespace Use

/-- The use as work on the rings. -/
def work : Use → Work depth Unit
  | advanceHead => Work.advanceHead
  | advanceTail => Work.advanceTail
  | setCapacity capacity => Work.setCapacity capacity
  | reset => Work.reset

/-- What the use makes of the rings. -/
def apply (ring : Ring depth) : Use → Except RingFault (Ring depth)
  | advanceHead => ring.advanceHead
  | advanceTail => ring.advanceTail
  | setCapacity capacity => ring.setCapacity capacity
  | reset => .ok ring.reset

end Use

variable {ring : Ring depth}

theorem Sized.on_bufferFree (h : ring.Sized) :
    Work.bufferFree.on ring = (.ok ring.bufferFree, ring) := by
  rw [Work.bufferFree, Attempt.on_bind_of_ok (Attempt.on_get ring), Work.on_minus h.buffer_le]
  rfl

theorem Sized.on_fifoFree (h : ring.Sized) :
    Work.fifoFree.on ring = (.ok ring.fifoFree, ring) := by
  rw [Work.fifoFree, Attempt.on_bind_of_ok (Attempt.on_get ring), Work.on_minus h.fifo_le]
  rfl

theorem Sized.on_free (h : ring.Sized) : Work.free.on ring = (.ok ring.free, ring) := by
  rw [Work.free, Attempt.on_bind_of_ok h.on_bufferFree, Attempt.on_bind_of_ok h.on_fifoFree]
  rfl

theorem Sized.on_advanceHead (h : ring.Sized) :
    Work.advanceHead.on ring = Attempt.carried .asserted ring ring.advanceHead := by
  rw [Work.advanceHead, Attempt.on_bind_of_ok (Attempt.on_get ring),
    Attempt.on_bind_of_ok h.on_bufferFree]
  by_cases hb : 0 < ring.bufferFree
  · rw [Attempt.on_bind_of_ok (Attempt.on_require hb _ ring), Attempt.on_bind_of_ok h.on_fifoFree]
    by_cases hf : 0 < ring.fifoFree
    · have hfree : 0 < ring.free := Nat.lt_min.mpr ⟨hb, hf⟩
      rw [Attempt.on_bind_of_ok (Attempt.on_require hf _ ring), advanceHead_eq_ok hfree]
      rfl
    · rw [Attempt.on_bind_of_error (Attempt.on_require_of_not hf _ ring), Ring.advanceHead,
        if_neg (by omega), if_pos (by omega)]
      rfl
  · rw [Attempt.on_bind_of_error (Attempt.on_require_of_not hb _ ring), Ring.advanceHead,
      if_pos (by omega)]
    rfl

/-- A ring that holds a page has slots, so the tail can go round. -/
theorem Sized.on_advanceTail (h : ring.Sized) :
    Work.advanceTail.on ring = Attempt.carried .asserted ring ring.advanceTail := by
  have hbuffer := h.buffer_le
  have hfifo := h.fifo_le
  rw [Work.advanceTail, Attempt.on_bind_of_ok (Attempt.on_get ring)]
  by_cases hb : 0 < ring.buffer.size
  · rw [Attempt.on_bind_of_ok (Attempt.on_require hb _ ring)]
    by_cases hf : 0 < ring.fifo.size
    · rw [Attempt.on_bind_of_ok (Attempt.on_require hf _ ring),
        Attempt.on_bind_of_ok (Work.on_modulo (by omega) ring),
        Attempt.on_bind_of_ok (Attempt.on_modify _ ring),
        Attempt.on_bind_of_ok (Work.on_minus hb _),
        Attempt.on_bind_of_ok (Attempt.on_modify _ _),
        Attempt.on_bind_of_ok (Work.on_modulo (by omega) _),
        Attempt.on_bind_of_ok (Attempt.on_modify _ _),
        Attempt.on_bind_of_ok (Work.on_minus hf _), advanceTail_eq_ok hb hf]
      rfl
    · rw [Attempt.on_bind_of_error (Attempt.on_require_of_not hf _ ring), Ring.advanceTail,
        if_neg (by omega), if_pos (by omega)]
      rfl
  · rw [Attempt.on_bind_of_error (Attempt.on_require_of_not hb _ ring), Ring.advanceTail,
      if_pos (by omega)]
    rfl

theorem on_setCapacity (ring : Ring depth) (capacity : Nat) :
    (Work.setCapacity capacity).on ring =
      Attempt.carried .asserted ring (ring.setCapacity capacity) := by
  rw [Work.setCapacity, Attempt.on_bind_of_ok (Attempt.on_get ring), Ring.setCapacity]
  by_cases hb : ring.buffer.size = 0
  · rw [Attempt.on_bind_of_ok (Attempt.on_require hb _ ring), if_pos hb]
    rfl
  · rw [Attempt.on_bind_of_error (Attempt.on_require_of_not hb _ ring), if_neg hb]
    rfl

/-- No assignment is made before a use is refused, and no sum on the way is undefined. -/
theorem Sized.on_work (h : ring.Sized) (use : Use) :
    use.work.on ring = Attempt.carried .asserted ring (use.apply ring) := by
  cases use with
  | advanceHead => exact h.on_advanceHead
  | advanceTail => exact h.on_advanceTail
  | setCapacity capacity => exact ring.on_setCapacity capacity
  | reset => rfl

/-- The number of a slot after so many moves round a circle of `capacity` slots. -/
def slot (capacity moves : Nat) : Nat := if capacity = 0 then 0 else moves % capacity

@[simp] theorem slot_zero (capacity : Nat) : slot capacity 0 = 0 := by
  rw [slot, Nat.zero_mod, ite_self]

theorem slot_le (capacity moves : Nat) : slot capacity moves ≤ capacity := by
  unfold slot
  split
  · exact Nat.zero_le capacity
  · exact Nat.le_of_lt (Nat.mod_lt moves (by omega))

theorem slot_add_slot (capacity moves more : Nat) :
    (if capacity = 0 then 0 else (slot capacity moves + more) % capacity) =
      slot capacity (moves + more) := by
  unfold slot
  by_cases h : capacity = 0
  · rw [if_pos h, if_pos h]
  · rw [if_neg h, if_neg h, if_neg h, Nat.mod_add_mod]

/--
What has been asked of the rings since they were reset: the slots taken, those given back, and of
these the ones given back since the capacity was set.
-/
structure Tally where
  capacity : Nat
  heads : Nat
  tails : Nat
  rebased : Nat
  deriving DecidableEq

namespace Tally

/-- Nothing asked of rings with a buffer of `capacity` pages. -/
def fresh (capacity : Nat) : Tally := ⟨capacity, 0, 0, 0⟩

/-- The slots taken and not given back. -/
def out (tally : Tally) : Nat := tally.heads - tally.tails

/-- One more use that went through. -/
def count (tally : Tally) : Use → Tally
  | .advanceHead => { tally with heads := tally.heads + 1 }
  | .advanceTail => { tally with tails := tally.tails + 1, rebased := tally.rebased + 1 }
  | .setCapacity capacity => { tally with capacity := capacity, rebased := 0 }
  | .reset => fresh tally.capacity

/-- No more was given back than taken, and no more is out than both rings can hold. -/
structure Fits (tally : Tally) (depth : Nat) : Prop where
  tails_le : tally.tails ≤ tally.heads
  out_le : tally.out ≤ min tally.capacity depth

/-- The rings of which so much has been asked. -/
def rings (tally : Tally) (depth : Nat) : Ring depth :=
  { capacity := tally.capacity
    buffer := ⟨slot tally.capacity tally.rebased, tally.out⟩
    fifo := ⟨slot depth tally.tails, tally.out⟩ }

/-- The use asks for a slot that neither counter can give. -/
def Bars (tally : Tally) (depth : Nat) : Use → Prop
  | .advanceHead => tally.out = min tally.capacity depth
  | .advanceTail => tally.heads = tally.tails
  | .setCapacity _ => tally.heads ≠ tally.tails
  | .reset => False

theorem rings_fresh (capacity depth : Nat) :
    (fresh capacity).rings depth = withCapacity capacity := by
  simp only [rings, fresh, slot_zero, out]
  rfl

theorem fits_fresh (capacity depth : Nat) : (fresh capacity).Fits depth :=
  ⟨Nat.le_refl 0, Nat.zero_le _⟩

variable {tally : Tally}

theorem Fits.sized (h : tally.Fits depth) : (tally.rings depth).Sized := by
  have hout := h.out_le
  constructor
  · show tally.out ≤ tally.capacity
    omega
  · show tally.out ≤ depth
    omega

theorem Fits.free_eq (h : tally.Fits depth) :
    (tally.rings depth).free = min tally.capacity depth - tally.out := by
  have hout := h.out_le
  show min (tally.capacity - tally.out) (depth - tally.out) = _
  omega

theorem bufferHead_eq (tally : Tally) (depth : Nat) :
    (tally.rings depth).bufferHead = slot tally.capacity (tally.rebased + tally.out) :=
  slot_add_slot tally.capacity tally.rebased tally.out

theorem fifoHead_eq (tally : Tally) (depth : Nat) :
    (tally.rings depth).fifoHead = slot depth (tally.tails + tally.out) :=
  slot_add_slot depth tally.tails tally.out

theorem Fits.count (h : tally.Fits depth) {use : Use} (hb : ¬ tally.Bars depth use) :
    (tally.count use).Fits depth := by
  have htails := h.tails_le
  have hout := h.out_le
  unfold out at hout
  cases use with
  | advanceHead =>
    simp only [Bars, out] at hb
    constructor
    · show tally.tails ≤ tally.heads + 1
      omega
    · show tally.heads + 1 - tally.tails ≤ min tally.capacity depth
      omega
  | advanceTail =>
    simp only [Bars] at hb
    constructor
    · show tally.tails + 1 ≤ tally.heads
      omega
    · show tally.heads - (tally.tails + 1) ≤ min tally.capacity depth
      omega
  | setCapacity capacity =>
    simp only [Bars] at hb
    constructor
    · exact htails
    · show tally.heads - tally.tails ≤ min capacity depth
      omega
  | reset => exact fits_fresh tally.capacity depth

theorem Fits.apply_of_not_bars (h : tally.Fits depth) {use : Use} (hb : ¬ tally.Bars depth use) :
    use.apply (tally.rings depth) = .ok ((tally.count use).rings depth) := by
  have htails := h.tails_le
  have hout := h.out_le
  cases use with
  | advanceHead =>
    have hfree : 0 < (tally.rings depth).free := by
      rw [h.free_eq]
      simp only [Bars] at hb
      omega
    have hsucc : tally.out + 1 = (tally.count .advanceHead).out := by
      show tally.heads - tally.tails + 1 = tally.heads + 1 - tally.tails
      omega
    show (tally.rings depth).advanceHead = _
    rw [advanceHead_eq_ok hfree]
    simp only [rings, Slots.pushHead, hsucc]
    rfl
  | advanceTail =>
    simp only [Bars] at hb
    have hpos : 0 < tally.out := by
      unfold out
      omega
    have hpred : tally.out - 1 = (tally.count .advanceTail).out := by
      show tally.heads - tally.tails - 1 = tally.heads - (tally.tails + 1)
      omega
    have hcapacity : tally.capacity ≠ 0 := by omega
    have hdepth : depth ≠ 0 := by omega
    have hbuffer := slot_add_slot tally.capacity tally.rebased 1
    have hfifo := slot_add_slot depth tally.tails 1
    rw [if_neg hcapacity] at hbuffer
    rw [if_neg hdepth] at hfifo
    show (tally.rings depth).advanceTail = _
    rw [advanceTail_eq_ok hpos hpos]
    simp only [rings, Slots.popTail, hpred, hbuffer, hfifo]
    rfl
  | setCapacity capacity =>
    simp only [Bars, Classical.not_not] at hb
    have hnone : tally.out = 0 := by
      unfold out
      omega
    have hbuffer : (tally.rings depth).buffer.size = 0 := hnone
    show (tally.rings depth).setCapacity capacity = _
    rw [Ring.setCapacity, if_pos hbuffer]
    show Except.ok (Ring.mk capacity ⟨0, tally.out⟩ ⟨slot depth tally.tails, tally.out⟩) =
      .ok ⟨capacity, ⟨slot capacity 0, tally.out⟩, ⟨slot depth tally.tails, tally.out⟩⟩
    rw [slot_zero]
  | reset => exact congrArg Except.ok (rings_fresh tally.capacity depth).symm

theorem Fits.exists_apply_of_bars (h : tally.Fits depth) {use : Use} (hb : tally.Bars depth use) :
    ∃ fault, use.apply (tally.rings depth) = .error fault := by
  have htails := h.tails_le
  cases use with
  | advanceHead =>
    have hfull : (tally.rings depth).bufferFree = 0 ∨ (tally.rings depth).fifoFree = 0 := by
      show tally.capacity - tally.out = 0 ∨ depth - tally.out = 0
      simp only [Bars] at hb
      omega
    show ∃ fault, (tally.rings depth).advanceHead = .error fault
    unfold advanceHead
    by_cases hbuffer : (tally.rings depth).bufferFree = 0
    · exact ⟨_, if_pos hbuffer⟩
    · rw [if_neg hbuffer]
      exact ⟨_, if_pos (hfull.resolve_left hbuffer)⟩
  | advanceTail =>
    have hnone : (tally.rings depth).buffer.size = 0 := by
      show tally.heads - tally.tails = 0
      simp only [Bars] at hb
      omega
    exact ⟨_, if_pos hnone⟩
  | setCapacity capacity =>
    have hsome : ¬ (tally.rings depth).buffer.size = 0 := by
      show ¬ tally.heads - tally.tails = 0
      simp only [Bars] at hb
      omega
    exact ⟨_, if_neg hsome⟩
  | reset => exact hb.elim

end Tally

/-- Rings with the tally that is kept of them. -/
structure Tallied (depth : Nat) where
  ring : Ring depth
  tally : Tally
  deriving DecidableEq

namespace Tallied

/-- New rings with a buffer of `capacity` pages. -/
def fresh (depth capacity : Nat) : Tallied depth := ⟨withCapacity capacity, .fresh capacity⟩

/-- The rings go on from where the use left them; it counts if it came to its end. -/
def after (tallied : Tallied depth) (use : Use) : Tallied depth :=
  match use.work.on tallied.ring with
  | (.ok (), ring) => ⟨ring, tallied.tally.count use⟩
  | (.error _, ring) => ⟨ring, tallied.tally⟩

/-- One use after the other, whether they come to their end or not. -/
def run (tallied : Tallied depth) (uses : List Use) : Tallied depth := uses.foldl after tallied

/-- The rings are those of their tally. -/
structure Agrees (tallied : Tallied depth) : Prop where
  fits : tallied.tally.Fits depth
  ring_eq : tallied.ring = tallied.tally.rings depth

variable {tallied : Tallied depth}

theorem agrees_fresh (depth capacity : Nat) : (fresh depth capacity).Agrees :=
  ⟨Tally.fits_fresh capacity depth, (Tally.rings_fresh capacity depth).symm⟩

theorem Agrees.on_work (h : tallied.Agrees) (use : Use) :
    use.work.on tallied.ring =
      Attempt.carried .asserted tallied.ring (use.apply tallied.ring) := by
  rw [h.ring_eq]
  exact h.fits.sized.on_work use

theorem Agrees.after (h : tallied.Agrees) (use : Use) : (tallied.after use).Agrees := by
  unfold Tallied.after
  rw [h.on_work, h.ring_eq]
  by_cases hb : tallied.tally.Bars depth use
  · obtain ⟨fault, happly⟩ := h.fits.exists_apply_of_bars hb
    rw [happly]
    exact ⟨h.fits, rfl⟩
  · rw [h.fits.apply_of_not_bars hb]
    exact ⟨h.fits.count hb, rfl⟩

theorem Agrees.run (h : tallied.Agrees) (uses : List Use) : (tallied.run uses).Agrees := by
  induction uses generalizing tallied with
  | nil => exact h
  | cons use rest ih => exact ih (h.after use)

/-- The rings hold and answer what the counters say, with no sum above twice a capacity. -/
structure Counted (tallied : Tallied depth) : Prop where
  tails_le : tallied.tally.tails ≤ tallied.tally.heads
  capacity : tallied.ring.capacity = tallied.tally.capacity
  bufferSize : tallied.ring.buffer.size = tallied.tally.heads - tallied.tally.tails
  fifoSize : tallied.ring.fifo.size = tallied.tally.heads - tallied.tally.tails
  size_le : tallied.tally.heads - tallied.tally.tails ≤ min tallied.ring.capacity depth
  fifoTail : tallied.ring.fifo.tail = slot depth tallied.tally.tails
  fifoHead : tallied.ring.fifoHead = slot depth tallied.tally.heads
  bufferTail : tallied.ring.buffer.tail = slot tallied.ring.capacity tallied.tally.rebased
  bufferHead : tallied.ring.bufferHead = slot tallied.ring.capacity
    (tallied.tally.rebased + tallied.tally.heads - tallied.tally.tails)
  free : tallied.ring.free =
    min tallied.ring.capacity depth - (tallied.tally.heads - tallied.tally.tails)
  tail_in_fifo : tallied.ring.isBufferTailOutOfFifo = false
  bufferSum_le : tallied.ring.buffer.tail + tallied.ring.buffer.size ≤ 2 * tallied.ring.capacity
  fifoSum_le : tallied.ring.fifo.tail + tallied.ring.fifo.size ≤ 2 * depth

theorem Agrees.counted (h : tallied.Agrees) : tallied.Counted := by
  obtain ⟨hfits, hring⟩ := h
  have htails := hfits.tails_le
  have hout := hfits.out_le
  constructor
  · exact htails
  · rw [hring]
    rfl
  · rw [hring]
    rfl
  · rw [hring]
    rfl
  · rw [hring]
    exact hout
  · rw [hring]
    rfl
  · rw [hring, Tally.fifoHead_eq, Tally.out, Nat.add_sub_cancel' htails]
  · rw [hring]
    rfl
  · rw [hring, Tally.bufferHead_eq, Tally.out, Nat.add_sub_assoc htails]
    rfl
  · rw [hring]
    exact hfits.free_eq
  · rw [hring]
    show decide (depth < tallied.tally.out) = false
    rw [decide_eq_false_iff_not]
    omega
  · have hslot := slot_le tallied.tally.capacity tallied.tally.rebased
    rw [hring]
    show slot tallied.tally.capacity tallied.tally.rebased + tallied.tally.out ≤
      2 * tallied.tally.capacity
    omega
  · have hslot := slot_le depth tallied.tally.tails
    rw [hring]
    show slot depth tallied.tally.tails + tallied.tally.out ≤ 2 * depth
    omega

end Tallied

/-- When a use of the rings is out of place. -/
def Use.Misplaced (ring : Ring depth) : Use → Prop
  | advanceHead => ring.free = 0
  | advanceTail => ring.isBufferEmpty = true ∧ ring.isFifoEmpty = true
  | setCapacity _ => ring.isBufferEmpty = false ∧ ring.isFifoEmpty = false
  | reset => False

/-- A use that is out of place ends at an assertion with the rings as they were, no other does. -/
structure Guarded (ring : Ring depth) : Prop where
  free_defined : Work.free.on ring = (.ok ring.free, ring)
  work_eq : ∀ use : Use, use.work.on ring = Attempt.carried .asserted ring (use.apply ring)
  halts_iff : ∀ use : Use, (∃ halt, (use.work.on ring).1 = .error halt) ↔ use.Misplaced ring
  asserted : ∀ (use : Use) (halt : Halt), (use.work.on ring).1 = .error halt →
    (∃ fault, halt = .asserted fault) ∧ (use.work.on ring).2 = ring

namespace Tallied

variable {tallied : Tallied depth}

theorem Agrees.misplaced_iff (h : tallied.Agrees) (use : Use) :
    use.Misplaced tallied.ring ↔ tallied.tally.Bars depth use := by
  have hcounted := h.counted
  have htails := hcounted.tails_le
  have hsize := hcounted.size_le
  have hcapacity := hcounted.capacity
  cases use with
  | advanceHead =>
    simp only [Use.Misplaced, Tally.Bars, Tally.out, hcounted.free]
    omega
  | advanceTail =>
    simp only [Use.Misplaced, Tally.Bars, isBufferEmpty, isFifoEmpty, hcounted.bufferSize,
      hcounted.fifoSize, beq_iff_eq]
    omega
  | setCapacity capacity =>
    simp only [Use.Misplaced, Tally.Bars, isBufferEmpty, isFifoEmpty, hcounted.bufferSize,
      hcounted.fifoSize, beq_eq_false_iff_ne]
    omega
  | reset => exact Iff.rfl

theorem Agrees.guarded (h : tallied.Agrees) : tallied.ring.Guarded := by
  constructor
  · rw [h.ring_eq]
    exact h.fits.sized.on_free
  · exact h.on_work
  · intro use
    rw [h.misplaced_iff, h.on_work, h.ring_eq]
    by_cases hb : tallied.tally.Bars depth use
    · obtain ⟨fault, happly⟩ := h.fits.exists_apply_of_bars hb
      rw [happly]
      exact ⟨fun _ => hb, fun _ => ⟨_, rfl⟩⟩
    · rw [h.fits.apply_of_not_bars hb]
      simp [Attempt.carried, hb]
  · intro use halt
    rw [h.on_work]
    exact Attempt.carried_eq_error

/--
Whatever is asked of new rings, the uses included that end at an assertion: they hold and answer
what the counters say, and only an assertion ends a use.
-/
theorem counted_of_run (depth capacity : Nat) (uses : List Use) :
    ((fresh depth capacity).run uses).Counted ∧
      ((fresh depth capacity).run uses).ring.Guarded := by
  have h := (agrees_fresh depth capacity).run uses
  exact ⟨h.counted, h.guarded⟩

example :
    ((fresh 2 3).run [.advanceHead, .advanceHead, .advanceHead, .advanceTail]).tally =
      ⟨3, 2, 1, 1⟩ := by
  decide

end Tallied

end Ring

end Readout.Dma
