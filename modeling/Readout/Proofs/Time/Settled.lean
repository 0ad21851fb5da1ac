import Mathlib.Order.Monotone.Basic
import Readout.Proofs.Time.Polling

/-!
Which probe settles a wait. The answers that its probes would give and the readings that its clock
would show are two sequences of their own; the wait goes along both and ends at the first place where
there is an answer or an error, or where the deadline has passed.
-/

namespace Readout

/-! ## Readings as a sequence -/

namespace Clock

/-- The clock after `n` more readings. -/
def skip (clock : Clock) (n : Nat) : Clock := { clock with given := clock.given + n }

@[simp] theorem given_skip (clock : Clock) (n : Nat) : (clock.skip n).given = clock.given + n := rfl

@[simp] theorem reading_skip (clock : Clock) (n : Nat) : (clock.skip n).reading = clock.reading := rfl

theorem skip_skip (clock : Clock) (n more : Nat) : (clock.skip n).skip more = clock.skip (n + more) := by
  simp only [skip, Nat.add_assoc]

theorem skip_tick (clock : Clock) (n : Nat) : clock.tick.skip n = clock.skip (n + 1) := by
  simp only [skip, tick, Nat.add_assoc, Nat.add_comm 1]

/-- The next readings of the clock are these, up to the one numbered `reached`. -/
def Shows (clock : Clock) (reading : Nat → Nat) (reached : Nat) : Prop :=
  ∀ n ≤ reached, clock.reading (clock.given + n) = reading n

/-- A clock with these readings, which goes on after the last one by a nanosecond each time. -/
def passing (reading : Nat → Nat) (rises : ∀ n, reading n ≤ reading (n + 1)) (reached : Nat) :
    Clock where
  reading n := reading (min n reached) + (n - reached)
  given := 0
  reach t := reached + t
  reading_le_succ n := by
    by_cases h : n < reached
    · rw [Nat.min_eq_left (by omega), Nat.min_eq_left (by omega)]
      have := rises n
      omega
    · rw [Nat.min_eq_right (by omega), Nat.min_eq_right (by omega)]
      omega
  le_reading_reach t := by omega

variable {reading : Nat → Nat} {reached : Nat}

theorem shows_passing (rises : ∀ n, reading n ≤ reading (n + 1)) (reached : Nat) :
    (passing reading rises reached).Shows reading reached := by
  intro n hn
  show reading (min (0 + n) reached) + (0 + n - reached) = reading n
  rw [Nat.zero_add, Nat.min_eq_left hn]
  omega

/-- Where a time has been reached, the readings that are not given do not matter. -/
theorem Shows.le_iff {clock : Clock} (h : clock.Shows reading reached)
    (rises : ∀ n, reading n ≤ reading (n + 1)) {time : Nat} (ht : time ≤ reading reached) (n : Nat) :
    time ≤ clock.reading (clock.given + n) ↔ time ≤ reading n := by
  by_cases hn : n ≤ reached
  · rw [h n hn]
  -- neither sequence goes back, so both stay past the time
  · have hle : reached ≤ n := Nat.le_of_not_le hn
    have hraw : reading reached ≤ reading n := monotone_nat_of_le_succ rises hle
    have hclock : clock.reading (clock.given + reached) ≤ clock.reading (clock.given + n) :=
      clock.reading_mono (Nat.add_le_add_left hle _)
    rw [h reached (Nat.le_refl _)] at hclock
    exact ⟨fun _ => Nat.le_trans ht hraw, fun _ => Nat.le_trans ht hclock⟩

end Clock

/-! ## Answers as a sequence -/

namespace Deadline

variable {σ ε α : Type}

/-- What is probed, after `n` probes. -/
def stateAfter (probe : σ → Except ε (Option α) × σ) (state : σ) : Nat → σ
  | 0 => state
  | n + 1 => stateAfter probe (probe state).2 n

/-- What a probe answers that comes after `n` others. -/
def answerAfter (probe : σ → Except ε (Option α) × σ) (state : σ) (n : Nat) : Except ε (Option α) :=
  (probe (stateAfter probe state n)).1

/-- The probe that gives these answers one after the other and keeps count of them. -/
def inTurn (answers : Nat → Except ε (Option α)) (n : Nat) : Except ε (Option α) × Nat :=
  (answers n, n + 1)

theorem stateAfter_inTurn (answers : Nat → Except ε (Option α)) (begun n : Nat) :
    stateAfter (inTurn answers) begun n = begun + n := by
  induction n generalizing begun with
  | zero => rfl
  | succ n ih =>
    show stateAfter (inTurn answers) (begun + 1) n = _
    rw [ih, Nat.add_right_comm]
    rfl

/-- Every sequence of answers is that of a probe. -/
theorem answerAfter_inTurn (answers : Nat → Except ε (Option α)) :
    answerAfter (inTurn answers) 0 = answers := by
  funext n
  rw [answerAfter, stateAfter_inTurn, Nat.zero_add]
  rfl

/-- Only an answer that is not there yet is followed by a look at the clock. -/
def looksAfter : Except ε (Option α) → Nat
  | .ok none => 1
  | _ => 0

/-- The probe after `last` others is the first with an answer or an error, or with the time up. -/
structure SettledBy (answer : Nat → Except ε (Option α)) (finish : Nat) (check : Nat → Nat)
    (last : Nat) : Prop where
  waiting : ∀ n < last, answer n = .ok none
  early : ∀ n < last, check n < finish
  late : answer last = .ok none → finish ≤ check last

variable {answer : Nat → Except ε (Option α)} {finish : Nat} {check other : Nat → Nat} {last n : Nat}

theorem SettledBy.le (h : SettledBy answer finish check last) (hn : SettledBy answer finish check n) :
    last ≤ n := by
  apply Nat.le_of_not_lt
  intro hlt
  have hlate := hn.late (h.waiting n hlt)
  exact absurd (h.early n hlt) (Nat.not_lt.mpr hlate)

theorem SettledBy.unique (h : SettledBy answer finish check last)
    (hn : SettledBy answer finish check n) : last = n :=
  Nat.le_antisymm (h.le hn) (hn.le h)

theorem SettledBy.congr (h : SettledBy answer finish check last)
    (hc : ∀ n, finish ≤ check n ↔ finish ≤ other n) : SettledBy answer finish other last where
  waiting := h.waiting
  early n hn := Nat.lt_of_not_le fun hle => absurd (h.early n hn) (Nat.not_lt.mpr ((hc n).mpr hle))
  late hnone := (hc last).mp (h.late hnone)

theorem SettledBy.zero (h : answer 0 = .ok none → finish ≤ check 0) :
    SettledBy answer finish check 0 where
  waiting := nofun
  early := nofun
  late := h

/-- A probe that has no answer while there is time puts everything off by one. -/
theorem SettledBy.later (h : SettledBy (fun n => answer (n + 1)) finish (fun n => check (n + 1)) last)
    (hnone : answer 0 = .ok none) (hearly : check 0 < finish) :
    SettledBy answer finish check (last + 1) where
  waiting n hn := by
    cases n with
    | zero => exact hnone
    | succ n => exact h.waiting n (Nat.lt_of_succ_lt_succ hn)
  early n hn := by
    cases n with
    | zero => exact hearly
    | succ n => exact h.early n (Nat.lt_of_succ_lt_succ hn)
  late := h.late

variable {deadline : Deadline} {probe : σ → Except ε (Option α) × σ}

theorem answerAfter_zero {state next : σ} {answer : Except ε (Option α)}
    (h : probe state = (answer, next)) : answerAfter probe state 0 = answer := congrArg Prod.fst h

theorem stateAfter_one {state next : σ} {answer : Except ε (Option α)}
    (h : probe state = (answer, next)) : stateAfter probe state 1 = next := congrArg Prod.snd h

/-- A wait as it ends when that probe settles it. -/
def settled (probe : σ → Except ε (Option α) × σ) (clock : Clock) (state : σ) (last : Nat) :
    Wait σ ε α where
  result := answerAfter probe state last
  clock := clock.skip (last + looksAfter (answerAfter probe state last))
  state := stateAfter probe state (last + 1)

theorem settled_zero {clock : Clock} {state next : σ} {answer : Except ε (Option α)}
    (h : probe state = (answer, next)) :
    settled probe clock state 0 = ⟨answer, clock.skip (looksAfter answer), next⟩ := by
  rw [settled, answerAfter_zero h, stateAfter_one h, Nat.zero_add]

theorem settled_succ {clock : Clock} {state next : σ} {answer : Except ε (Option α)}
    (h : probe state = (answer, next)) (last : Nat) :
    settled probe clock state (last + 1) = settled probe clock.tick next last := by
  obtain rfl : (probe state).2 = next := congrArg Prod.snd h
  rw [settled, settled, Clock.skip_tick, Nat.add_right_comm]
  rfl

theorem exists_settled_of_polled {clock : Clock} {state : σ} {wait : Wait σ ε α}
    (h : deadline.Polled probe clock state wait) :
    ∃ last, SettledBy (answerAfter probe state) deadline.finish
        (fun n => clock.reading (clock.given + n)) last ∧
      wait = settled probe clock state last := by
  induction h with
  | answered hprobe =>
    refine ⟨0, .zero fun hnone => ?_, (settled_zero hprobe).symm⟩
    rw [answerAfter_zero hprobe] at hnone
    cases hnone
  | failed hprobe =>
    refine ⟨0, .zero fun hnone => ?_, (settled_zero hprobe).symm⟩
    rw [answerAfter_zero hprobe] at hnone
    cases hnone
  | late hprobe hlate => exact ⟨0, .zero fun _ => hlate, (settled_zero hprobe).symm⟩
  | @early clock state next wait hprobe hearly _ ih =>
    -- the rest of the wait has the same answers and readings, from the second one on
    obtain ⟨last, hsettled, hwait⟩ := ih
    refine ⟨last + 1, ?_, by rw [hwait, settled_succ hprobe]⟩
    obtain rfl : (probe state).2 = next := congrArg Prod.snd hprobe
    apply SettledBy.later _ (answerAfter_zero hprobe) hearly
    refine hsettled.congr fun n => ?_
    rw [Clock.reading_tick, Clock.given_tick, Nat.add_assoc, Nat.add_comm 1]

theorem exists_settled (deadline : Deadline) (probe : σ → Except ε (Option α) × σ) (clock : Clock)
    (state : σ) :
    ∃ last, SettledBy (answerAfter probe state) deadline.finish
        (fun n => clock.reading (clock.given + n)) last ∧
      deadline.poll probe clock state = settled probe clock state last :=
  exists_settled_of_polled (polled_poll deadline probe clock state)

/-! ## Probes that are counted -/

/-- The probe that also counts how often it was made. -/
def counted (probe : σ → Except ε (Option α) × σ) :
    σ × Nat → Except ε (Option α) × (σ × Nat)
  | (state, count) => ((probe state).1, ((probe state).2, count + 1))

theorem stateAfter_counted (probe : σ → Except ε (Option α) × σ) (state : σ) (count n : Nat) :
    stateAfter (counted probe) (state, count) n = (stateAfter probe state n, count + n) := by
  induction n generalizing state count with
  | zero => rfl
  | succ n ih =>
    show stateAfter (counted probe) ((probe state).2, count + 1) n = _
    rw [ih, Nat.add_right_comm]
    rfl

/-- Counting makes no difference to the answers. -/
theorem answerAfter_counted (probe : σ → Except ε (Option α) × σ) (state : σ) :
    answerAfter (counted probe) (state, 0) = answerAfter probe state := by
  funext n
  rw [answerAfter, stateAfter_counted]
  rfl

/-! ## Waits -/

/-- A wait that begins when the clock was read `pause` times since its deadline was set. -/
def waitFor (timeout : Duration) (pause : Nat) (probe : σ → Except ε (Option α) × σ) (clock : Clock)
    (state : σ) : Except Overflow (Wait σ ε α) :=
  match after timeout clock with
  | (.error overflow, _) => .error overflow
  | (.ok deadline, clock) => .ok (deadline.poll probe (clock.skip pause) state)

/-- How often a wait makes its probe. -/
def probesMade (timeout : Duration) (pause : Nat) (probe : σ → Except ε (Option α) × σ)
    (clock : Clock) (state : σ) : Nat :=
  match waitFor timeout pause (counted probe) clock (state, 0) with
  | .error _ => 0
  | .ok wait => wait.state.2

theorem waitFor_of_lt {timeout : Duration} {clock : Clock}
    (h : clock.now + timeout.nanoseconds < horizon) (pause : Nat)
    (probe : σ → Except ε (Option α) × σ) (state : σ) :
    waitFor timeout pause probe clock state =
      .ok (poll ⟨clock.now, timeout, h⟩ probe (clock.skip (1 + pause)) state) := by
  rw [waitFor, after_of_lt h, Nat.add_comm 1 pause, ← clock.skip_tick pause]

theorem waitFor_of_le {timeout : Duration} {clock : Clock}
    (h : horizon ≤ clock.now + timeout.nanoseconds) (pause : Nat)
    (probe : σ → Except ε (Option α) × σ) (state : σ) :
    waitFor timeout pause probe clock state = .error ⟨clock.now, timeout, h⟩ := by
  rw [waitFor, after_of_le h]

section Given

variable {reading : Nat → Nat} (rises : ∀ n, reading n ≤ reading (n + 1)) {timeout : Duration}
  {reached : Nat} (h : reading 0 + timeout.nanoseconds ≤ reading reached)

include rises h

theorem SettledBy.le_reached {pause : Nat}
    (hl : SettledBy answer (reading 0 + timeout.nanoseconds) (fun n => reading (1 + pause + n)) last) :
    last ≤ reached := by
  apply Nat.le_of_not_lt
  intro hlt
  have hmono : reading reached ≤ reading (1 + pause + reached) :=
    monotone_nat_of_le_succ rises (by omega)
  exact absurd (hl.early reached hlt) (Nat.not_lt.mpr (Nat.le_trans h hmono))

variable {clock : Clock} (hc : clock.Shows reading reached)
  (hlt : reading 0 + timeout.nanoseconds < horizon) (pause : Nat)

include hc hlt

theorem exists_settled_of_waitFor (probe : σ → Except ε (Option α) × σ) (state : σ) :
    ∃ last, SettledBy (answerAfter probe state) (reading 0 + timeout.nanoseconds)
        (fun n => reading (1 + pause + n)) last ∧
      waitFor timeout pause probe clock state =
        .ok (settled probe (clock.skip (1 + pause)) state last) := by
  have hnow : clock.now = reading 0 := hc 0 (Nat.zero_le _)
  rw [← hnow] at hlt
  obtain ⟨last, hsettled, hwait⟩ :=
    exists_settled ⟨clock.now, timeout, hlt⟩ probe (clock.skip (1 + pause)) state
  have hfinish : finish ⟨clock.now, timeout, hlt⟩ = reading 0 + timeout.nanoseconds :=
    congrArg (· + timeout.nanoseconds) hnow
  rw [hfinish] at hsettled
  refine ⟨last, hsettled.congr fun n => ?_, by rw [waitFor_of_lt hlt, hwait]⟩
  rw [Clock.reading_skip, Clock.given_skip, Nat.add_assoc]
  exact hc.le_iff rises h _

theorem probesMade_eq {probe : σ → Except ε (Option α) × σ} {state : σ}
    (hl : SettledBy (answerAfter probe state) (reading 0 + timeout.nanoseconds)
      (fun n => reading (1 + pause + n)) last) :
    probesMade timeout pause probe clock state = last + 1 := by
  obtain ⟨other, hother, hwait⟩ :=
    exists_settled_of_waitFor rises h hc hlt pause (counted probe) (state, 0)
  rw [answerAfter_counted] at hother
  rw [hl.unique hother, probesMade, hwait]
  dsimp only [settled]
  rw [stateAfter_counted, Nat.zero_add]

end Given

/--
Whatever is probed, whatever the timeout and whatever a clock shows that does not go back and
reaches the deadline at last: a wait is settled by some probe, no later than the clock reaches the
deadline. All before it had no answer, and behind each of them there was time left; its own answer is
what the wait comes to, and no probe follows. The wait ends without an answer exactly where a probe
in this order had none and the time was up behind it; and without any time there is a single probe.
Where the deadline would be no point in time there is no wait and no probe.
-/
theorem settled_of_wait {σ ε α : Type} {reading : Nat → Nat}
    (rises : ∀ n, reading n ≤ reading (n + 1)) {timeout : Duration} {reached : Nat}
    (h : reading 0 + timeout.nanoseconds ≤ reading reached) :
    (∃ clock : Clock, clock.Shows reading reached) ∧
    ∀ clock : Clock, clock.Shows reading reached →
    ∀ (pause : Nat) (probe : σ → Except ε (Option α) × σ) (state : σ),
      (reading 0 + timeout.nanoseconds < horizon →
        ∃ wait, waitFor timeout pause probe clock state = .ok wait ∧
        (∃ last ≤ reached,
          (∀ n < last, answerAfter probe state n = .ok none ∧
            reading (1 + pause + n) < reading 0 + timeout.nanoseconds) ∧
          (answerAfter probe state last = .ok none →
            reading 0 + timeout.nanoseconds ≤ reading (1 + pause + last)) ∧
          wait.result = answerAfter probe state last ∧
          wait.state = stateAfter probe state (last + 1) ∧
          wait.clock =
            clock.skip (1 + pause + (last + looksAfter (answerAfter probe state last))) ∧
          probesMade timeout pause probe clock state = last + 1) ∧
        (wait.result = .ok none ↔
          ∃ n, (∀ m < n, answerAfter probe state m = .ok none ∧
              reading (1 + pause + m) < reading 0 + timeout.nanoseconds) ∧
            answerAfter probe state n = .ok none ∧
            reading 0 + timeout.nanoseconds ≤ reading (1 + pause + n)) ∧
        (timeout.nanoseconds = 0 → probesMade timeout pause probe clock state = 1)) ∧
      (horizon ≤ reading 0 + timeout.nanoseconds →
        (∃ overflow, waitFor timeout pause probe clock state = .error overflow) ∧
        probesMade timeout pause probe clock state = 0) := by
  refine ⟨⟨_, Clock.shows_passing rises reached⟩, fun clock hc pause probe state => ⟨?_, ?_⟩⟩
  · intro hlt
    obtain ⟨last, hsettled, hwait⟩ := exists_settled_of_waitFor rises h hc hlt pause probe state
    have hmade := probesMade_eq rises h hc hlt pause hsettled
    refine ⟨_, hwait, ⟨last, hsettled.le_reached rises h, ?_, hsettled.late, rfl, rfl, ?_, hmade⟩,
      ⟨?_, ?_⟩, ?_⟩
    · exact fun n hn => ⟨hsettled.waiting n hn, hsettled.early n hn⟩
    · rw [settled, Clock.skip_skip]
    · intro hnone
      exact ⟨last, fun m hm => ⟨hsettled.waiting m hm, hsettled.early m hm⟩, hnone,
        hsettled.late hnone⟩
    · rintro ⟨n, hbefore, hnone, hlate⟩
      have hn : SettledBy (answerAfter probe state) (reading 0 + timeout.nanoseconds)
          (fun n => reading (1 + pause + n)) n :=
        ⟨fun m hm => (hbefore m hm).1, fun m hm => (hbefore m hm).2, fun _ => hlate⟩
      rw [settled, hsettled.unique hn]
      exact hnone
    · intro hzero
      have hmono : reading 0 ≤ reading (1 + pause + 0) :=
        monotone_nat_of_le_succ rises (Nat.zero_le _)
      have hfirst := hsettled.unique (.zero fun _ => by rw [hzero]; exact hmono)
      rw [hmade, hfirst]
  · intro hle
    have hnow : clock.now = reading 0 := hc 0 (Nat.zero_le _)
    rw [← hnow] at hle
    exact ⟨⟨_, waitFor_of_le hle pause probe state⟩, by rw [probesMade, waitFor_of_le hle]⟩

/-- The readings of a clock that stands still once it shows 5. -/
def standing (n : Nat) : Nat := min (2 * n) 5

/-- A probe that never has an answer. -/
def never : Nat → Except Unit (Option Nat) × Nat := inTurn fun _ => .ok none

/-- The third look at the clock is the first one that finds the time up. -/
theorem settled_of_wait_standing :
    (∀ n, standing n ≤ standing (n + 1)) ∧ standing 0 + 5 ≤ standing 3 ∧
      ∃ clock : Clock, clock.Shows standing 3 ∧
        ∃ wait, waitFor ⟨5⟩ 0 never clock 0 = .ok wait ∧ wait.result = .ok none ∧
          probesMade ⟨5⟩ 0 never clock 0 = 3 := by
  have hrises (n : Nat) : standing n ≤ standing (n + 1) := by
    unfold standing
    omega
  have hend : standing 0 + (⟨5⟩ : Duration).nanoseconds ≤ standing 3 := by decide
  have hnever (n : Nat) : answerAfter never 0 n = .ok none := congrFun (answerAfter_inTurn _) n
  obtain ⟨⟨clock, hc⟩, hall⟩ := settled_of_wait hrises hend
  obtain ⟨wait, hwait, ⟨last, -, hbefore, hlate, -, -, -, hmade⟩, hnone, -⟩ :=
    (hall clock hc 0 never 0).1 (by decide)
  have hfirst : last = 2 := by
    apply Nat.le_antisymm
    · apply Nat.le_of_not_lt
      intro hlt
      exact absurd (hbefore 2 hlt).2 (by decide)
    · have hup := hlate (hnever last)
      change 0 + 5 ≤ min (2 * (1 + 0 + last)) 5 at hup
      omega
  refine ⟨hrises, hend, clock, hc, wait, hwait,
    hnone.mpr ⟨2, fun m hm => ⟨hnever m, ?_⟩, hnever 2, by decide⟩, ?_⟩
  · change min (2 * (1 + 0 + m)) 5 < 0 + 5
    omega
  · rw [hmade, hfirst]

end Deadline

end Readout
