import Mathlib.Logic.Function.Basic
import Readout.Register.Mapped

/-!
Ports that are plain memory: a register answers by itself, and a write reaches no register but its
own. A mapped window is one, also where it is protected or ends.
-/

namespace Readout.Register

/-- How a register answers: what a read gives, and what becomes of a write. -/
structure Cell where
  content : Except RegisterError UInt32
  permit : Except RegisterError Unit

/-- The register after a write, which leaves it as it is when it is not permitted. -/
def Cell.after (cell : Cell) (value : UInt32) : Cell :=
  match cell.permit with
  | .ok _ => { cell with content := .ok value }
  | .error _ => cell

theorem Cell.after_of_ok {cell : Cell} (h : cell.permit = .ok ()) (value : UInt32) :
    cell.after value = { cell with content := .ok value } := by
  unfold after
  rw [h]

theorem Cell.after_of_error {cell : Cell} {error : RegisterError} (h : cell.permit = .error error)
    (value : UInt32) : cell.after value = cell := by
  unfold after
  rw [h]

/-- A read changes nothing, and a write changes its own register. -/
class PlainMemory (ρ : Type) [RegisterPort ρ] where
  cell : ρ → Nat → Cell
  read_eq : ∀ port index, RegisterPort.read port index = ((cell port index).content, port)
  answer_eq : ∀ port index value,
    (RegisterPort.write port index value).1 = (cell port index).permit
  cell_write : ∀ port index value, cell (RegisterPort.write port index value).2 =
    Function.update (cell port) index ((cell port index).after value)

namespace PlainMemory

variable {ρ : Type} [RegisterPort ρ] [PlainMemory ρ]

theorem cell_write_of_ne {port : ρ} {index other : Nat} (h : other ≠ index) (value : UInt32) :
    cell (RegisterPort.write port index value).2 other = cell port other := by
  rw [cell_write, Function.update_of_ne h]

theorem cell_write_self (port : ρ) (index : Nat) (value : UInt32) :
    cell (RegisterPort.write port index value).2 index = (cell port index).after value := by
  rw [cell_write, Function.update_self]

end PlainMemory

namespace MappedWindow

/-- Protection is checked before the range. -/
def permit (window : MappedWindow) (index : Nat) : Except RegisterError Unit :=
  if window.guards index then .error (.writeProtected index)
  else if index < window.size then .ok ()
  else .error (.outOfRange index window.size)

def cell (window : MappedWindow) (index : Nat) : Cell := ⟨window.read index, window.permit index⟩

/-- The window with another word at the index. -/
def put (window : MappedWindow) (index : Nat) (value : UInt32) : MappedWindow :=
  { window with
    memory := window.memory.setIfInBounds index value
    size_memory := by simp [window.size_memory] }

variable {window : MappedWindow} {index : Nat}

theorem read_eq (window : MappedWindow) (index : Nat) : window.read index =
    if index < window.size then .ok (window.memory[index]?.getD 0)
    else .error (.outOfRange index window.size) := by
  unfold read
  by_cases h : index < window.size
  · rw [dif_pos h, if_pos h, Array.getElem?_eq_getElem (lt_size_memory h), Option.getD_some]
  · rw [dif_neg h, if_neg h]

theorem write_eq (window : MappedWindow) (index : Nat) (value : UInt32) :
    window.write index value = (window.permit index).map fun _ => window.put index value := by
  unfold write permit
  cases window.guards index with
  | true => rfl
  | false =>
    by_cases h : index < window.size
    · rw [if_neg Bool.false_ne_true, if_neg Bool.false_ne_true, dif_pos h, if_pos h]
      simp [Except.map, put, Array.setIfInBounds, lt_size_memory h]
    · rw [if_neg Bool.false_ne_true, if_neg Bool.false_ne_true, dif_neg h, if_neg h]
      rfl

theorem lt_size_of_permit (h : window.permit index = .ok ()) : index < window.size := by
  unfold permit at h
  split at h
  · simp at h
  · split at h
    next hlt => exact hlt
    next => simp at h

/-- Another word at the index is seen by a read of the index only. -/
theorem cell_put (h : index < window.size) (value : UInt32) :
    (window.put index value).cell =
      Function.update window.cell index { window.cell index with content := .ok value } := by
  funext other
  have hread : (window.put index value).read other = if other < window.size then
      .ok ((window.memory.setIfInBounds index value)[other]?.getD 0)
      else .error (.outOfRange other window.size) := read_eq _ _
  by_cases ho : other = index
  · subst ho
    rw [Function.update_self]
    show Cell.mk _ (window.permit other) = _
    rw [hread, if_pos h, Array.getElem?_setIfInBounds_self_of_lt (lt_size_memory h),
      Option.getD_some]
    rfl
  · rw [Function.update_of_ne ho]
    show Cell.mk _ (window.permit other) = _
    rw [hread, Array.getElem?_setIfInBounds_ne (Ne.symm ho), ← read_eq]
    rfl

theorem cell_write (window : MappedWindow) (index : Nat) (value : UInt32) :
    cell (RegisterPort.write window index value).2 =
      Function.update window.cell index ((window.cell index).after value) := by
  simp only [RegisterPort.write, write_eq]
  cases hp : window.permit index with
  | error error =>
    have hafter : (window.cell index).after value = window.cell index := Cell.after_of_error hp value
    rw [hafter, Function.update_eq_self]
    rfl
  | ok _ =>
    have hafter : (window.cell index).after value =
        { window.cell index with content := .ok value } := Cell.after_of_ok hp value
    rw [hafter]
    exact cell_put (lt_size_of_permit hp) value

instance : PlainMemory MappedWindow where
  cell := cell
  read_eq _ _ := rfl
  answer_eq window index value := by
    simp only [RegisterPort.write, write_eq, cell]
    cases window.permit index <;> rfl
  cell_write := cell_write

end MappedWindow

end Readout.Register
