import Readout.Lock.Error
import Readout.Lock.Host
import Readout.Lock.Name
import Readout.Time.Deadline

/-! A lock that is held for as long as a socket is bound to its name. -/

namespace Readout

/-- Whether a lock that is held makes an acquisition fail at once or after a time. -/
inductive LockMode where
  | immediate
  | wait (timeout : Duration)
  deriving DecidableEq

namespace LockMode

def defaultTimeout : Duration := .ofSeconds 5

def ofWaiting (waiting : Bool) : LockMode :=
  if waiting then .wait defaultTimeout else .immediate

end LockMode

/-- The pause after an attempt that finds the name in use. -/
def lockRetryInterval : Duration := .ofMicroseconds 1000

structure ChannelLock where
  name : String
  socketName : String
  deriving DecidableEq

/--
The outcome of an acquisition, with the clock and the host that it leaves. An overflow is the
outcome where the wait that is asked for has no end.
-/
structure Acquisition (η : Type) where
  result : Except Deadline.Overflow (Except LockError ChannelLock)
  clock : Clock
  host : η

namespace ChannelLock

variable {η : Type}

/-- The lock is given up by closing its socket. -/
def release [Sockets η] (lock : ChannelLock) (host : η) : η :=
  Sockets.close (Sockets.info host s!"Releasing lock {lock.name}") lock.socketName

variable [Host η]

/-- One attempt of a waiting acquisition: a name in use asks for a pause, other errors end it. -/
def attempt (socketName : String) (host : η) : Except LockError (Option Unit) × η :=
  match Sockets.bind host socketName with
  | (.ok _, host) => (.ok (some ()), host)
  | (.error errno, host) =>
    if errno = .addressInUse then (.ok none, Host.delay host lockRetryInterval)
    else (.error (.socket socketName errno), host)

/-- Binds the socket as the mode says; there is no attempt if the wait would have no end. -/
def claim (socketName : String) (mode : LockMode) (clock : Clock) (host : η) :
    Except Deadline.Overflow (Except LockError Unit) × Clock × η :=
  match mode with
  | .immediate =>
    match Sockets.bind host socketName with
    | (.ok _, host) => (.ok (.ok ()), clock, host)
    | (.error errno, host) =>
      (.ok (.error (.bindImmediateFailure socketName errno)), clock,
        Sockets.debug host s!"Lock {socketName} is held: {errno.message}")
  | .wait timeout =>
    match Deadline.after timeout clock with
    | (.error overflow, clock) => (.error overflow, clock, host)
    | (.ok deadline, clock) =>
      let wait := deadline.poll (attempt socketName) clock host
      match wait.result with
      | .ok (some _) => (.ok (.ok ()), wait.clock, wait.state)
      | .ok none => (.ok (.error (.bindTimeout socketName timeout)), wait.clock, wait.state)
      | .error error => (.ok (.error error), wait.clock, wait.state)

/-- A lock is acquired by binding the socket name that stands for its name. -/
def acquire (name : String) (mode : LockMode) (clock : Clock) (host : η) : Acquisition η :=
  let socketName := Lock.socketName name
  match Sockets.make host with
  | (.error errno, host) => ⟨.ok (.error (.socket socketName errno)), clock, host⟩
  | (.ok _, host) =>
    match claim socketName mode clock host with
    | (.error overflow, clock, host) => ⟨.error overflow, clock, host⟩
    | (.ok (.error error), clock, host) => ⟨.ok (.error error), clock, host⟩
    | (.ok (.ok _), clock, host) =>
      ⟨.ok (.ok ⟨name, socketName⟩), clock, Sockets.info host s!"Acquired lock {name}"⟩

end ChannelLock

end Readout
