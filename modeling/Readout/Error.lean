import Readout.Dma.Error
import Readout.Lock.Error
import Readout.Sca.Error

/-! Everything that can go wrong on a channel. -/

namespace Readout

/-- What makes a channel's configuration unusable. -/
inductive ConfigError where
  | invalidChannel (channel : UInt32)
  | invalidPageSize (pageSize : Nat)
  | zeroQueueCapacity
  | invalidBuffer
  deriving DecidableEq

def ConfigError.message : ConfigError → String
  | .invalidChannel channel => s!"channel number {channel.toNat} not supported by this card type"
  | .invalidPageSize pageSize => s!"invalid DMA page size {pageSize}"
  | .zeroQueueCapacity => "queue capacity must be non-zero"
  | .invalidBuffer => "buffer parameters describe a null memory region"

inductive Error where
  | register (error : RegisterError)
  | sca (error : ScaError)
  | lock (error : LockError)
  | dma (error : DmaError)
  | config (error : ConfigError)
  deriving DecidableEq

/-- The domain in front of what went wrong there. -/
def Error.message : Error → String
  | .register error => s!"register: {error.message}"
  | .sca error => s!"sca: {error.message}"
  | .lock error => s!"lock: {error.message}"
  | .dma error => s!"dma: {error.message}"
  | .config error => s!"config: {error.message}"

end Readout
