import Readout.Lock.Errno
import Readout.Time.Duration

/-! Why a lock is not acquired. -/

namespace Readout

inductive LockError where
  | socket (socketName : String) (errno : Errno)
  | bindTimeout (socketName : String) (timeout : Duration)
  | bindImmediateFailure (socketName : String) (errno : Errno)
  deriving DecidableEq

def LockError.message : LockError → String
  | .socket socketName errno => s!"couldn't create abstract socket {socketName}: {errno.message}"
  | .bindTimeout socketName timeout =>
    s!"bind to socket {socketName} timed out after {timeout.describe}"
  | .bindImmediateFailure socketName errno =>
    s!"couldn't bind to socket {socketName}: {errno.message}"

end Readout
