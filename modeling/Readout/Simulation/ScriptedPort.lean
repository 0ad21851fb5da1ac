import Readout.Register.Port

/-! A register port that answers from a script and from memory, and keeps every access. -/

namespace Readout.Simulation

/-- A read knows whether its word came from the memory or from the script. -/
inductive Access where
  | read (index : Nat) (word : UInt32) (fromMemory : Bool)
  | write (index : Nat) (word : UInt32)
  | failedRead (index : Nat)
  | failedWrite (index : Nat) (word : UInt32)
  deriving DecidableEq

/--
Scripted words answer the next reads of their register; after them a register holds what was last
written to it. Accesses are kept newest first, and if `foldsRepeats` is set, a read from memory
that repeats the access before it is kept once.
-/
structure ScriptedPort where
  memory : List (Nat × UInt32)
  script : List (Nat × List UInt32)
  limit : Option Nat
  guarded : List Nat
  foldsRepeats : Bool
  accesses : List Access
  deriving DecidableEq

namespace ScriptedPort

/-- An unset register reads as zero. -/
def stored (port : ScriptedPort) (index : Nat) : UInt32 := (port.memory.lookup index).getD 0

def scripted (port : ScriptedPort) (index : Nat) : List UInt32 := (port.script.lookup index).getD []

def setStored (port : ScriptedPort) (index : Nat) (word : UInt32) : ScriptedPort :=
  { port with memory := (index, word) :: port.memory.filter (·.1 != index) }

def setScripted (port : ScriptedPort) (index : Nat) (words : List UInt32) : ScriptedPort :=
  { port with script := (index, words) :: port.script.filter (·.1 != index) }

/-- More words for the reads after those that already have one. -/
def addScripted (port : ScriptedPort) (index : Nat) (words : List UInt32) : ScriptedPort :=
  port.setScripted index (port.scripted index ++ words)

def keep (port : ScriptedPort) (access : Access) : ScriptedPort :=
  { port with accesses := access :: port.accesses }

/-- Whether the access says nothing that the one before it did not say. -/
def isRepeat (port : ScriptedPort) (access : Access) : Bool :=
  match access with
  | .read _ _ true => port.foldsRepeats && port.accesses.head? == some access
  | _ => false

def isOutside (port : ScriptedPort) (index : Nat) : Option Nat :=
  port.limit.filter (· ≤ index)

def read (port : ScriptedPort) (index : Nat) : Except RegisterError UInt32 × ScriptedPort :=
  match port.isOutside index with
  | some limit => (.error (.outOfRange index limit), port.keep (.failedRead index))
  | none =>
    match port.scripted index with
    | word :: rest => (.ok word, (port.setScripted index rest).keep (.read index word false))
    | [] =>
      let word := port.stored index
      let access := .read index word true
      (.ok word, if port.isRepeat access then port else port.keep access)

def write (port : ScriptedPort) (index : Nat) (word : UInt32) :
    Except RegisterError Unit × ScriptedPort :=
  match port.isOutside index with
  | some limit => (.error (.outOfRange index limit), port.keep (.failedWrite index word))
  | none =>
    if port.guarded.contains index then
      (.error (.writeProtected index), port.keep (.failedWrite index word))
    else (.ok (), (port.setStored index word).keep (.write index word))

instance : RegisterPort ScriptedPort := ⟨read, write⟩

end ScriptedPort

end Readout.Simulation
