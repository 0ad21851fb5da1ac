import Readout.Register.Error
import Readout.Sca.Flags

/-! Why a slow-control operation fails. -/

namespace Readout

inductive ScaError where
  | busyTimeout
  | channelBusyTimeout
  | reservedTransactionId (id : UInt8)
  | hardware (flags : Sca.Flags)
  | linkOutOfRange (link links : UInt32)
  | register (error : RegisterError)
  deriving DecidableEq

def ScaError.message : ScaError → String
  | .busyTimeout => "exceeded timeout on busy wait"
  | .channelBusyTimeout => "exceeded timeout on channel busy wait"
  | .reservedTransactionId id => s!"invalid transaction ID {Text.hexPadded 2 id.toNat}"
  | .hardware flags => s!"SCA {flags.message}"
  | .linkOutOfRange link links =>
    s!"maximum link number exceeded: link {link.toNat}, card supports {links.toNat}"
  | .register error => s!"register access failed: {error.message}"

end Readout
