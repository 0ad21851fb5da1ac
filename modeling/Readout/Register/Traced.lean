import Readout.Register.Port

/-! A register port that keeps the accesses made through it. -/

namespace Readout.Register

/-- An access with the answer that it got. -/
inductive Access where
  | read (index : Nat) (answer : Except RegisterError UInt32)
  | write (index : Nat) (value : UInt32) (answer : Except RegisterError Unit)

/-- What a failed access was answered with. -/
def Access.error? : Access → Option RegisterError
  | .read _ (.error error) => some error
  | .write _ _ (.error error) => some error
  | _ => none

/-- The register that was to be written, and the word, whether or not the write succeeded. -/
def Access.write? : Access → Option (Nat × UInt32)
  | .read _ _ => none
  | .write index value _ => some (index, value)

/-- The writes among the accesses, oldest first. -/
def writesIn (accesses : List Access) : List (Nat × UInt32) :=
  accesses.filterMap Access.write?

@[simp] theorem writesIn_append (accesses more : List Access) :
    writesIn (accesses ++ more) = writesIn accesses ++ writesIn more :=
  List.filterMap_append

/-- Accesses are kept oldest first; they change nothing in what the port answers. -/
structure Traced (ρ : Type) where
  port : ρ
  accesses : List Access

namespace Traced

variable {ρ : Type}

def on (port : ρ) : Traced ρ := ⟨port, []⟩

/-- The answer to an access, kept under the name of the access. -/
def keep {α : Type} (traced : Traced ρ) (access : Except RegisterError α → Access)
    (outcome : Except RegisterError α × ρ) : Except RegisterError α × Traced ρ :=
  (outcome.1, ⟨outcome.2, traced.accesses ++ [access outcome.1]⟩)

instance [RegisterPort ρ] : RegisterPort (Traced ρ) where
  read traced index := traced.keep (.read index) (RegisterPort.read traced.port index)
  write traced index value :=
    traced.keep (.write index value) (RegisterPort.write traced.port index value)

end Traced

end Readout.Register
