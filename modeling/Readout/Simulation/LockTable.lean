import Readout.Lock.Basic

/-! A system in which a name can be bound once, with the locks that several holders have on it. -/

namespace Readout.Simulation

/-- When a holder is to let go of its lock: during which delay, counted from one. -/
structure Handover where
  delay : Nat
  holder : String
  deriving DecidableEq

/-- The names that are bound, the locks by holder, the delays asked for (newest first) and the records. -/
structure LockTable where
  bound : List String
  held : List (String × ChannelLock)
  delays : List Duration
  handover : Option Handover
  log : Log
  deriving DecidableEq

namespace LockTable

def empty : LockTable := ⟨[], [], [], none, []⟩

/-- A name can be bound as long as no open socket has it. -/
def bind (table : LockTable) (name : String) : Except Errno Unit × LockTable :=
  if table.bound.contains name then (.error .addressInUse, table)
  else (.ok (), { table with bound := table.bound ++ [name] })

def free (table : LockTable) (name : String) : LockTable :=
  { table with bound := table.bound.erase name }

instance : Sockets LockTable where
  make table := (.ok (), table)
  bind := bind
  close := free
  record table record := { table with log := table.log ++ [record] }

/-- The holder lets go of its lock, if it has one. -/
def release (table : LockTable) (holder : String) : LockTable :=
  match table.held.lookup holder with
  | none => table
  | some lock => lock.release { table with held := table.held.filter (·.1 != holder) }

/-- A delay passes, and with it perhaps a holder's time. -/
def wait (table : LockTable) (span : Duration) : LockTable :=
  let table := { table with delays := span :: table.delays }
  match table.handover with
  | none => table
  | some handover =>
    if handover.delay = table.delays.length then table.release handover.holder else table

instance : Host LockTable where
  delay := wait

/-- A lock the holder already had is given up once it has the new one. -/
def hold (table : LockTable) (holder : String) (lock : ChannelLock) : LockTable :=
  let table := table.release holder
  { table with held := table.held ++ [(holder, lock)] }

/-- A holder asks for a lock; if it is refused the holder keeps what it has. -/
def acquire (table : LockTable) (holder name : String) (mode : LockMode) (clock : Clock) :
    Except Deadline.Overflow (Except LockError ChannelLock) × LockTable :=
  let acquisition := ChannelLock.acquire name mode clock table
  match acquisition.result with
  | .ok (.ok lock) => (.ok (.ok lock), acquisition.host.hold holder lock)
  | refusal => (refusal, acquisition.host)

end LockTable

end Readout.Simulation
