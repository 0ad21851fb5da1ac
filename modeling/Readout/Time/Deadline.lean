import Readout.Time.Clock

/-! Waits that end with an answer, an error or the passing of a deadline. -/

namespace Readout

/-- Points in time lie before this one, in nanoseconds: their whole seconds have 63 bits. -/
def Deadline.horizon : Nat := 0x8000000000000000 * 1000000000

/-- A span of time that has been running since `start` and ends at a point in time. -/
structure Deadline where
  start : Nat
  timeout : Duration
  finish_lt : start + timeout.nanoseconds < Deadline.horizon
  deriving DecidableEq

namespace Deadline

/-- A span whose end is no point in time. -/
structure Overflow where
  start : Nat
  timeout : Duration
  horizon_le : horizon ≤ start + timeout.nanoseconds
  deriving DecidableEq

def Overflow.message (_ : Overflow) : String := "overflow when adding duration to instant"

def finish (deadline : Deadline) : Nat := deadline.start + deadline.timeout.nanoseconds

def hasPassed (deadline : Deadline) (now : Nat) : Bool := decide (deadline.finish ≤ now)

def elapsed (deadline : Deadline) (now : Nat) : Duration := ⟨now - deadline.start⟩

/-- Nothing is left once the deadline has passed. -/
def remaining (deadline : Deadline) (now : Nat) : Duration := ⟨deadline.finish - now⟩

/-- The deadline that lies `timeout` after the clock's next reading, if there is such a point. -/
def after (timeout : Duration) (clock : Clock) : Except Overflow Deadline × Clock :=
  if h : clock.now + timeout.nanoseconds < horizon then (.ok ⟨clock.now, timeout, h⟩, clock.tick)
  else (.error ⟨clock.now, timeout, Nat.le_of_not_lt h⟩, clock.tick)

theorem after_of_lt {timeout : Duration} {clock : Clock}
    (h : clock.now + timeout.nanoseconds < horizon) :
    after timeout clock = (.ok ⟨clock.now, timeout, h⟩, clock.tick) := dif_pos h

theorem after_of_le {timeout : Duration} {clock : Clock}
    (h : horizon ≤ clock.now + timeout.nanoseconds) :
    after timeout clock = (.error ⟨clock.now, timeout, h⟩, clock.tick) := dif_neg (Nat.not_lt.2 h)

/-- What a wait came to, with the clock and the state that it leaves. -/
structure Wait (σ ε α : Type) where
  result : Except ε (Option α)
  clock : Clock
  state : σ

variable {σ ε α : Type}

/--
Asks `probe` until it has an answer or an error, at least once.
The clock is read only after the probe had neither; once the deadline has passed there is no answer.
-/
def poll (deadline : Deadline) (probe : σ → Except ε (Option α) × σ) (clock : Clock) (state : σ) :
    Wait σ ε α :=
  match probe state with
  | (.error error, state) => ⟨.error error, clock, state⟩
  | (.ok (some answer), state) => ⟨.ok (some answer), clock, state⟩
  | (.ok none, state) =>
    if deadline.finish ≤ clock.now then ⟨.ok none, clock.tick, state⟩
    else poll deadline probe clock.tick state
termination_by clock.reach deadline.finish - clock.given
decreasing_by
  have := Clock.given_lt_reach (Nat.lt_of_not_le ‹_›)
  simp only [Clock.reach_tick, Clock.given_tick]
  omega

theorem poll_of_error {deadline : Deadline} {probe : σ → Except ε (Option α) × σ} {clock : Clock}
    {state next : σ} {error : ε} (h : probe state = (.error error, next)) :
    deadline.poll probe clock state = ⟨.error error, clock, next⟩ := by
  rw [poll, h]

theorem poll_of_answer {deadline : Deadline} {probe : σ → Except ε (Option α) × σ} {clock : Clock}
    {state next : σ} {answer : α} (h : probe state = (.ok (some answer), next)) :
    deadline.poll probe clock state = ⟨.ok (some answer), clock, next⟩ := by
  rw [poll, h]

theorem poll_of_late {deadline : Deadline} {probe : σ → Except ε (Option α) × σ} {clock : Clock}
    {state next : σ} (h : probe state = (.ok none, next)) (late : deadline.finish ≤ clock.now) :
    deadline.poll probe clock state = ⟨.ok none, clock.tick, next⟩ := by
  rw [poll, h]
  simp [late]

theorem poll_of_early {deadline : Deadline} {probe : σ → Except ε (Option α) × σ} {clock : Clock}
    {state next : σ} (h : probe state = (.ok none, next)) (early : clock.now < deadline.finish) :
    deadline.poll probe clock state = deadline.poll probe clock.tick next := by
  rw [poll, h]
  simp [Nat.not_le.2 early]

end Deadline

end Readout
