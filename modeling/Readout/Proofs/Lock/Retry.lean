import Readout.Proofs.Lock.Acquisition
import Readout.Proofs.Time.Polling
import Readout.Simulation.LockTable

/-!
How often a lock is asked for. A party that waits pauses once after each attempt that finds the name
in use and then looks once whether its time is up; it ends with the first attempt that finds
anything else. A party that does not wait makes one attempt, and one whose wait has no end makes
none.
-/

namespace Readout

/-- A call to the system in which locks are acquired, with the answer that it got. -/
inductive HostCall where
  | make (answer : Except Errno Unit)
  | bind (name : String) (answer : Except Errno Unit)
  | close (name : String)
  | delay (span : Duration)

namespace HostCall

/-- The names that the caller holds after the call. -/
def held (names : List String) : HostCall → List String
  | .bind name (.ok _) => names ++ [name]
  | .close name => names.erase name
  | _ => names

end HostCall

section Counts

variable {name : String} {answer : Except Errno Unit} {span : Duration} {calls : List HostCall}

end Counts

/-- A system that keeps the calls made to it, oldest first; records are passed on without a note. -/
structure TracedHost (η : Type) where
  host : η
  calls : List HostCall

namespace TracedHost

variable {η : Type}

def on (host : η) : TracedHost η := ⟨host, []⟩

/-- The system after a call, with the call noted. -/
def keep (traced : TracedHost η) (call : HostCall) (host : η) : TracedHost η :=
  ⟨host, traced.calls ++ [call]⟩

instance [Sockets η] : Sockets (TracedHost η) where
  make traced :=
    let (answer, host) := Sockets.make traced.host
    (answer, traced.keep (.make answer) host)
  bind traced name :=
    let (answer, host) := Sockets.bind traced.host name
    (answer, traced.keep (.bind name answer) host)
  close traced name := traced.keep (.close name) (Sockets.close traced.host name)
  record traced record := { traced with host := Sockets.record traced.host record }

instance [Host η] : Host (TracedHost η) where
  delay traced span := traced.keep (.delay span) (Host.delay traced.host span)

end TracedHost

namespace ChannelLock

/-- The calls that an acquisition makes, oldest first. -/
def calls {η : Type} [Host η] (name : String) (mode : LockMode) (clock : Clock) (host : η) :
    List HostCall :=
  (acquire name mode clock (TracedHost.on host)).host.calls

namespace Tries

variable {name : String} {deadline : Deadline} {clock later : Clock} {calls : List HostCall}
  {result : Except LockError ChannelLock}

end Tries

/-! ## The calls of an acquisition -/

section Acquire

variable {η : Type} [Host η] {name : String} {timeout : Duration} {mode : LockMode} {clock : Clock}

section Given

variable {host : η} (h : (Sockets.make host).1 = .ok ())

include h

end Given

end Acquire

end ChannelLock

end Readout
