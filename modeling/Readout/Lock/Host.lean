import Readout.Lock.Errno
import Readout.Log
import Readout.Time.Duration

/-! What a lock needs from the system that it runs on. -/

namespace Readout

/-- Sockets are made, bound to a name and closed, which frees the name they were bound to. -/
class Sockets (η : Type) where
  make : η → Except Errno Unit × η
  bind : η → String → Except Errno Unit × η
  close : η → String → η
  record : η → Record → η

namespace Sockets

variable {η : Type} [Sockets η]

def debug (host : η) (text : String) : η := record host ⟨.debug, text⟩

def info (host : η) (text : String) : η := record host ⟨.info, text⟩

def recordAll (host : η) (log : Log) : η := log.foldl record host

end Sockets

/-- While a delay passes, others may bind and free names. -/
class Host (η : Type) extends Sockets η where
  delay : η → Duration → η

end Readout
