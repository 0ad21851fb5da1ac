import Readout.Register.Error
import Readout.Register.Field

/-! Anything behind which 32-bit registers are read and written by index. -/

namespace Readout

/-- A port answers each access and is left in a state of its own choosing. -/
class RegisterPort (ρ : Type) where
  read : ρ → Nat → Except RegisterError UInt32 × ρ
  write : ρ → Nat → UInt32 → Except RegisterError Unit × ρ

namespace RegisterPort

variable {ρ : Type} [RegisterPort ρ]

/-- Reads the register and writes it back with one field replaced; a failed read writes nothing. -/
def modify (port : ρ) (index : Nat) (field : Register.Field) (value : UInt32) :
    Except RegisterError Unit × ρ :=
  match read port index with
  | (.error error, port) => (.error error, port)
  | (.ok word, port) => write port index (field.insert word value)

theorem modify_of_read_ok {port next : ρ} {index : Nat} {word : UInt32}
    (h : read port index = (.ok word, next)) (field : Register.Field) (value : UInt32) :
    modify port index field value = write next index (field.insert word value) := by
  simp [modify, h]

theorem modify_of_read_error {port next : ρ} {index : Nat} {error : RegisterError}
    (h : read port index = (.error error, next)) (field : Register.Field) (value : UInt32) :
    modify port index field value = (.error error, next) := by
  simp [modify, h]

end RegisterPort

end Readout
