/-! Room that is set aside in memory for many items at once. -/

namespace Readout

/-- One more than the most bytes that can be set aside at once. -/
def memoryBound : Nat := 0x8000000000000000

/-- A request for more room than there can be. -/
structure CapacityOverflow where
  count : Nat
  itemBytes : Nat
  deriving DecidableEq

def CapacityOverflow.message (_ : CapacityOverflow) : String := "capacity overflow"

/-- Sets room aside for `count` items of `itemBytes` bytes each. -/
def reserve (count itemBytes : Nat) : Except CapacityOverflow Unit :=
  if memoryBound ≤ count * itemBytes then .error ⟨count, itemBytes⟩ else .ok ()

theorem reserve_eq_ok_iff {count itemBytes : Nat} :
    reserve count itemBytes = .ok () ↔ count * itemBytes < memoryBound := by
  unfold reserve
  split <;> simp <;> omega

end Readout
