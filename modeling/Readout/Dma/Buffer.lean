/-! The memory that pages are written to, of which only the size is ever used. -/

namespace Readout.Dma

inductive Buffer where
  | memory (address size : Nat)
  | file (path : String) (size : Nat)
  | null
  deriving DecidableEq

namespace Buffer

/-- The absent buffer has no bytes. -/
def size : Buffer → Nat
  | .memory _ size => size
  | .file _ size => size
  | .null => 0

/-- No memory lies at address zero. -/
def isUsable : Buffer → Bool
  | .memory address _ => address != 0
  | .file _ _ => true
  | .null => true

end Buffer

end Readout.Dma
