import Readout.Time.Duration

/-! Delays as they are asked for: a count of a unit of time. -/

namespace Readout

inductive TimeUnit where
  | nanoseconds | microseconds | milliseconds
  deriving DecidableEq

/-- The span of `count` units; a delay lasts at least that long. -/
def TimeUnit.span (count : UInt32) : TimeUnit → Duration
  | .nanoseconds => ⟨count.toNat⟩
  | .microseconds => .ofMicroseconds count.toNat
  | .milliseconds => .ofMilliseconds count.toNat

end Readout
