import Readout.Register.Port

/-! Ports that are lent: whoever has a reference to one makes his accesses through it. -/

namespace Readout.Register

/-- A reference to a port, which passes every access on. -/
structure Lent (ρ : Type) where
  port : ρ

namespace Lent

variable {ρ α : Type}

/-- What an access to the port came to, for the one who has the reference. -/
def handBack (outcome : α × ρ) : α × Lent ρ := (outcome.1, ⟨outcome.2⟩)

variable [RegisterPort ρ]

instance : RegisterPort (Lent ρ) where
  read lent index := handBack (RegisterPort.read lent.port index)
  write lent index value := handBack (RegisterPort.write lent.port index value)

/-- A modification is passed on as one. -/
def modify (lent : Lent ρ) (index : Nat) (field : Field) (value : UInt32) :
    Except RegisterError Unit × Lent ρ :=
  handBack (RegisterPort.modify lent.port index field value)

/-- It would come to the same if its read and its write were passed on one by one. -/
theorem modify_eq (lent : Lent ρ) (index : Nat) (field : Field) (value : UInt32) :
    lent.modify index field value = RegisterPort.modify lent index field value := by
  rcases hread : RegisterPort.read lent.port index with ⟨error | word, next⟩
  · have hlent : RegisterPort.read lent index = (.error error, ⟨next⟩) := congrArg handBack hread
    rw [modify, RegisterPort.modify_of_read_error hread, RegisterPort.modify_of_read_error hlent]
    rfl
  · have hlent : RegisterPort.read lent index = (.ok word, ⟨next⟩) := congrArg handBack hread
    rw [modify, RegisterPort.modify_of_read_ok hread, RegisterPort.modify_of_read_ok hlent]
    rfl

end Lent

end Readout.Register
