import Readout.Time.Deadline

/-! How a wait comes to its end: its probes, with the readings of the clock between them. -/

namespace Readout.Deadline

variable {σ ε α : Type} {deadline : Deadline} {probe : σ → Except ε (Option α) × σ}

/-- A wait that begins with this clock in this state ends like that. -/
inductive Polled (deadline : Deadline) (probe : σ → Except ε (Option α) × σ) :
    Clock → σ → Wait σ ε α → Prop where
  | answered {clock : Clock} {state next : σ} {answer : α} :
      probe state = (.ok (some answer), next) →
      Polled deadline probe clock state ⟨.ok (some answer), clock, next⟩
  | failed {clock : Clock} {state next : σ} {error : ε} :
      probe state = (.error error, next) →
      Polled deadline probe clock state ⟨.error error, clock, next⟩
  | late {clock : Clock} {state next : σ} :
      probe state = (.ok none, next) → deadline.finish ≤ clock.now →
      Polled deadline probe clock state ⟨.ok none, clock.tick, next⟩
  | early {clock : Clock} {state next : σ} {wait : Wait σ ε α} :
      probe state = (.ok none, next) → clock.now < deadline.finish →
      Polled deadline probe clock.tick next wait → Polled deadline probe clock state wait

theorem polled_poll (deadline : Deadline) (probe : σ → Except ε (Option α) × σ) (clock : Clock)
    (state : σ) : Polled deadline probe clock state (deadline.poll probe clock state) := by
  induction clock, state using poll.induct deadline probe with
  | case1 clock state error next h =>
    rw [poll_of_error h]
    exact .failed h
  | case2 clock state answer next h =>
    rw [poll_of_answer h]
    exact .answered h
  | case3 clock state next h late =>
    rw [poll_of_late h late]
    exact .late h late
  | case4 clock state next h early ih =>
    rw [poll_of_early h (Nat.lt_of_not_le early)]
    exact .early h (Nat.lt_of_not_le early) ih

/-- A wait over a state that is seen as another comes to the same over that other. -/
theorem poll_view {σ σ' ε α : Type} {view : σ → σ'}
    {probe : σ → Except ε (Option α) × σ} {probe' : σ' → Except ε (Option α) × σ'}
    (h : ∀ state, probe' (view state) = ((probe state).1, view (probe state).2))
    (deadline : Deadline) (clock : Clock) (state : σ) :
    deadline.poll probe' clock (view state) =
      ⟨(deadline.poll probe clock state).result, (deadline.poll probe clock state).clock,
        view (deadline.poll probe clock state).state⟩ := by
  induction clock, state using poll.induct deadline probe with
  | case1 clock state error next hp =>
    rw [poll_of_error hp, poll_of_error (by rw [h, hp])]
  | case2 clock state answer next hp =>
    rw [poll_of_answer hp, poll_of_answer (by rw [h, hp])]
  | case3 clock state next hp late =>
    rw [poll_of_late hp late, poll_of_late (by rw [h, hp]) late]
  | case4 clock state next hp early ih =>
    have hlt := Nat.lt_of_not_le early
    rw [poll_of_early hp hlt, poll_of_early (by rw [h, hp]) hlt, ih]

end Readout.Deadline
