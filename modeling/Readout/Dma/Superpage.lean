import Readout.Dma.Error

/-! A region of the DMA buffer that is handed over and given back as one. -/

namespace Readout.Dma

/-- One more than the largest offset, size or count of bytes. -/
def byteBound : Nat := 0x10000000000000000

/-- A count of bytes that `length` would take past the largest one. -/
structure CountOverflow where
  received : Nat
  length : Nat
  deriving DecidableEq

def CountOverflow.message (_ : CountOverflow) : String := "attempt to add with overflow"

structure Superpage where
  offset : Nat
  size : Nat
  received : Nat
  ready : Bool
  user : Nat
  deriving DecidableEq

namespace Superpage

/-- Nothing received yet and not ready. -/
def fresh (offset size : Nat) : Superpage := ⟨offset, size, 0, false, 0⟩

def withUser (superpage : Superpage) (user : Nat) : Superpage := { superpage with user := user }

def isFilled (superpage : Superpage) : Bool := superpage.received == superpage.size

/-- The count of received bytes only grows, up to the size. -/
def setReceived (superpage : Superpage) (received : Nat) : Except DmaError Superpage :=
  if received < superpage.received then .error (.receivedRollback superpage.received received)
  else if superpage.size < received then .error (.receivedOverflow received superpage.size)
  else .ok { superpage with received := received }

/-- The count of received bytes grows by `length`, if it is a count at all then. -/
def credit (superpage : Superpage) (length : Nat) :
    Except CountOverflow (Except DmaError Superpage) :=
  if byteBound ≤ superpage.received + length then .error ⟨superpage.received, length⟩
  else .ok (superpage.setReceived (superpage.received + length))

def markReady (superpage : Superpage) : Superpage := { superpage with ready := true }

/-- What is ready stays ready. -/
def setReady (superpage : Superpage) (ready : Bool) : Except DmaError Superpage :=
  if superpage.ready && !ready then .error (.readyRollback superpage.offset)
  else .ok { superpage with ready := ready }

@[simp] theorem ready_markReady (superpage : Superpage) : superpage.markReady.ready = true := rfl

theorem setReceived_eq_ok_iff {superpage next : Superpage} {received : Nat} :
    superpage.setReceived received = .ok next ↔
      superpage.received ≤ received ∧ received ≤ superpage.size ∧
        next = { superpage with received := received } := by
  unfold setReceived
  split
  · simp; omega
  · split
    · simp; omega
    · simp only [Except.ok.injEq]
      constructor
      · intro h
        exact ⟨by omega, by omega, h.symm⟩
      · rintro ⟨_, _, rfl⟩
        rfl

theorem credit_eq_ok {superpage : Superpage} {length : Nat}
    (h : superpage.received + length < byteBound) :
    superpage.credit length = .ok (superpage.setReceived (superpage.received + length)) := by
  simp [credit, Nat.not_le.mpr h]

end Superpage

end Readout.Dma
