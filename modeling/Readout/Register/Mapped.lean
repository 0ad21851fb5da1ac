import Readout.Memory
import Readout.Register.Port

/-! A window of mapped memory with an optional range of registers that no write reaches. -/

namespace Readout.Register

/-- The indices from `start` on and below `stop`; none when `stop ≤ start`. -/
structure Range where
  start : Nat
  stop : Nat
  deriving DecidableEq

def Range.contains (range : Range) (index : Nat) : Bool :=
  decide (range.start ≤ index) && decide (index < range.stop)

/-- `bytes` bytes of memory, kept as words; a last word that is only partly mapped has no register. -/
structure MappedWindow where
  bytes : Nat
  memory : Array UInt32
  guarded : Option Range
  size_memory : memory.size = (bytes + 3) / 4

namespace MappedWindow

/-- A window in which every word holds `word`. -/
def filled (bytes : Nat) (word : UInt32) (guarded : Option Range) : MappedWindow where
  bytes := bytes
  memory := Array.replicate ((bytes + 3) / 4) word
  guarded := guarded
  size_memory := by simp

/-- Room for the words is set aside before they are filled. -/
def allocate (bytes : Nat) (word : UInt32) (guarded : Option Range) :
    Except CapacityOverflow MappedWindow :=
  match reserve ((bytes + 3) / 4) 4 with
  | .ok _ => .ok (filled bytes word guarded)
  | .error overflow => .error overflow

/-- How many registers the window has. -/
def size (window : MappedWindow) : Nat := window.bytes / 4

def isEmpty (window : MappedWindow) : Bool := window.size == 0

def guards (window : MappedWindow) (index : Nat) : Bool :=
  window.guarded.any (·.contains index)

theorem lt_size_memory {window : MappedWindow} {index : Nat} (h : index < window.size) :
    index < window.memory.size := by
  have := window.size_memory
  simp only [size] at h
  omega

def read (window : MappedWindow) (index : Nat) : Except RegisterError UInt32 :=
  if h : index < window.size then
    have := lt_size_memory h
    .ok window.memory[index]
  else .error (.outOfRange index window.size)

/-- Protection is checked before the range. -/
def write (window : MappedWindow) (index : Nat) (value : UInt32) :
    Except RegisterError MappedWindow :=
  if window.guards index then .error (.writeProtected index)
  else if h : index < window.size then
    .ok { window with
      memory := window.memory.set index value (lt_size_memory h)
      size_memory := by simp [window.size_memory] }
  else .error (.outOfRange index window.size)

instance : RegisterPort MappedWindow where
  read window index := (window.read index, window)
  write window index value :=
    match window.write index value with
    | .ok window => (.ok (), window)
    | .error error => (.error error, window)

end MappedWindow

end Readout.Register
