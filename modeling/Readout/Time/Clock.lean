import Readout.Time.Duration

/-! Clocks that never go back and never stand still for ever. -/

namespace Readout

/--
The readings that a clock will give, in nanoseconds, and how many of them it has given.
`reach t` is a number of readings after which the clock shows `t` or later.
-/
structure Clock where
  reading : Nat → Nat
  given : Nat
  reach : Nat → Nat
  reading_le_succ : ∀ n, reading n ≤ reading (n + 1)
  le_reading_reach : ∀ t, t ≤ reading (reach t)

namespace Clock

/-- A clock that shows `step` nanoseconds more at each reading. -/
def ticking (step : Nat) (h : 0 < step) : Clock where
  reading n := step * n
  given := 0
  reach t := t
  reading_le_succ n := Nat.mul_le_mul_left step (Nat.le_succ n)
  le_reading_reach t := Nat.le_mul_of_pos_left t h

def now (clock : Clock) : Nat := clock.reading clock.given

/-- The clock after one more reading. -/
def tick (clock : Clock) : Clock := { clock with given := clock.given + 1 }

@[simp] theorem reading_tick (clock : Clock) : clock.tick.reading = clock.reading := rfl

@[simp] theorem reach_tick (clock : Clock) : clock.tick.reach = clock.reach := rfl

@[simp] theorem given_tick (clock : Clock) : clock.tick.given = clock.given + 1 := rfl

theorem reading_mono (clock : Clock) {m n : Nat} (h : m ≤ n) :
    clock.reading m ≤ clock.reading n := by
  induction h with
  | refl => exact Nat.le_refl _
  | step _ ih => exact Nat.le_trans ih (clock.reading_le_succ _)

/-- A clock that has not reached `t` still has readings to give before it does. -/
theorem given_lt_reach {clock : Clock} {t : Nat} (h : clock.now < t) :
    clock.given < clock.reach t := by
  apply Nat.lt_of_not_le
  intro le
  have := clock.reading_mono le
  have := clock.le_reading_reach t
  simp only [now] at h
  omega

end Clock

end Readout
