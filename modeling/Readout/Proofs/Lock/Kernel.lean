import Mathlib.Data.Multiset.AddSub
import Readout.Simulation.LockTable

/-! A system that gives a name to one live socket at a time and takes it back when that closes. -/

namespace Readout

/--
`bound` are the names that live sockets hold, once for each. A bind succeeds if no live socket has
the name, closing the socket frees it, and no other call fails or changes who holds what.
-/
class Kernel (κ : Type) extends Sockets κ where
  bound : κ → Multiset String
  make_fst : ∀ kernel : κ, (Sockets.make kernel).1 = .ok ()
  bound_make : ∀ kernel : κ, bound (Sockets.make kernel).2 = bound kernel
  bind_fst : ∀ (kernel : κ) (name : String), (Sockets.bind kernel name).1 =
    if name ∈ bound kernel then .error .addressInUse else .ok ()
  bound_bind : ∀ (kernel : κ) (name : String), bound (Sockets.bind kernel name).2 =
    if name ∈ bound kernel then bound kernel else name ::ₘ bound kernel
  bound_close : ∀ (kernel : κ) (name : String),
    bound (Sockets.close kernel name) = (bound kernel).erase name
  bound_record : ∀ (kernel : κ) (record : Record),
    bound (Sockets.record kernel record) = bound kernel

namespace Simulation.LockTable

/-- A table of names is such a system. -/
instance : Kernel LockTable where
  bound table := table.bound
  make_fst _ := rfl
  bound_make _ := rfl
  bind_fst table name := by
    by_cases h : name ∈ table.bound <;> simp [Sockets.bind, LockTable.bind, h]
  bound_bind table name := by
    by_cases h : name ∈ table.bound <;> simp [Sockets.bind, LockTable.bind, h]
  bound_close _ _ := rfl
  bound_record _ _ := rfl

end Simulation.LockTable

end Readout
