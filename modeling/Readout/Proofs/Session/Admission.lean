import Readout.Proofs.Session.Delivery
import Readout.Proofs.Session.Moment
import Readout.Proofs.Session.Reached
import Readout.Simulation.ScriptedTransport

/-!
Which superpages a session accepts. What it asks of a superpage is asked in a fixed order, before
anything is done; a superpage that meets all of it is queued, whatever its transport makes of the
pages.
-/

namespace Readout

open Dma

/-- Something that is asked of a superpage, with the error that it gives where it is not met. -/
structure Requirement where
  met : Bool
  error : DmaError
  deriving DecidableEq

/-- The error of the first requirement that is not met. -/
def firstUnmet? (requirements : List Requirement) : Option DmaError :=
  (requirements.find? fun requirement => !requirement.met).map Requirement.error

section FirstUnmet

variable {requirement : Requirement} {rest : List Requirement}

theorem firstUnmet?_eq_none_iff {requirements : List Requirement} :
    firstUnmet? requirements = none ↔ ∀ requirement ∈ requirements, requirement.met = true := by
  simp [firstUnmet?]

theorem firstUnmet?_of_met (h : requirement.met = true) :
    firstUnmet? (requirement :: rest) = firstUnmet? rest := by
  simp [firstUnmet?, h]

theorem firstUnmet?_of_unmet (h : requirement.met = false) :
    firstUnmet? (requirement :: rest) = some requirement.error := by
  simp [firstUnmet?, h]

end FirstUnmet

namespace Dma.Tracker

/-- What the queue asks of a superpage that joins it. -/
def requirements (tracker : Tracker) (superpage : Superpage) : List Requirement := [
  ⟨decide (tracker.transfer.length < tracker.transferCapacity), .transferQueueFull⟩,
  ⟨decide (superpage.size ≠ 0), .emptySuperpage⟩,
  ⟨decide (superpage.size % tracker.pageSize = 0),
    .sizeNotPageMultiple superpage.size tracker.pageSize⟩,
  ⟨tracker.superpages.all fun other => decide (other.offset ≠ superpage.offset),
    .offsetInUse superpage.offset⟩]

/-- A superpage is refused for the first requirement that it does not meet. -/
theorem failure?_push {tracker : Tracker} (h : tracker.Registered) (hpage : 0 < tracker.pageSize)
    (superpage : Superpage) :
    failure? (tracker.push superpage) = firstUnmet? (tracker.requirements superpage) := by
  have hlive : (tracker.superpages.all fun other => decide (other.offset ≠ superpage.offset)) =
      !tracker.isLive superpage.offset := by
    rw [Bool.eq_iff_iff, Bool.not_eq_true', h.isLive_eq_false_iff]
    simp
  unfold push requirements
  rw [hlive]
  split
  next hfull => rw [firstUnmet?_of_unmet (by simpa using hfull)]; rfl
  next hroom =>
    rw [firstUnmet?_of_met (by simpa using hroom)]
    split
    next hempty => rw [firstUnmet?_of_unmet (by simpa using hempty)]; rfl
    next hsize =>
      rw [firstUnmet?_of_met (by simpa using hsize)]
      split
      next hpart => rw [firstUnmet?_of_unmet (by simpa using hpart.resolve_left (by omega))]; rfl
      next hwhole =>
        rw [firstUnmet?_of_met (by simpa using (not_or.mp hwhole).2)]
        split
        next hused => rw [firstUnmet?_of_unmet (by simpa using hused)]; rfl
        next hfree => rw [firstUnmet?_of_met (by simpa using hfree)]; rfl

end Dma.Tracker

namespace Session

variable {ρ τ : Type} {config : ChannelConfig} {session next : Session ρ τ}
  {superpage : Superpage} {error : DmaError}

/-- All that is asked of a superpage, in the order in which it is asked. -/
def requirements (session : Session ρ τ) (superpage : Superpage) : List Requirement := [
  ⟨decide (session.state = .started), .notStarted⟩,
  ⟨decide (superpage.offset + superpage.size < byteBound ∧
      superpage.offset + superpage.size ≤ session.config.buffer.size),
    .outOfRange superpage.offset superpage.size session.config.buffer.size⟩,
  ⟨decide (superpage.offset % 4 = 0), .misalignedOffset superpage.offset⟩,
  ⟨decide (session.flow.tracker.transfer.length < session.config.transferCapacity),
    .transferQueueFull⟩,
  ⟨decide (superpage.size ≠ 0), .emptySuperpage⟩,
  ⟨decide (superpage.size % session.config.pageSize = 0),
    .sizeNotPageMultiple superpage.size session.config.pageSize⟩,
  ⟨session.flow.tracker.superpages.all fun other => decide (other.offset ≠ superpage.offset),
    .offsetInUse superpage.offset⟩]

theorem requirements_eq (hc : session.Coherent config) (hq : session.Stocked config)
    (superpage : Superpage) :
    session.requirements superpage =
      [⟨decide (session.state = .started), .notStarted⟩,
        ⟨isInBuffer session.config.buffer.size superpage,
          .outOfRange superpage.offset superpage.size session.config.buffer.size⟩,
        ⟨decide (superpage.offset % offsetAlignment = 0), .misalignedOffset superpage.offset⟩] ++
        session.flow.tracker.requirements superpage := by
  simp only [requirements, Tracker.requirements, isInBuffer, hc.config_eq, hc.pageSize_eq,
    hq.transferCapacity_eq, Bool.decide_and]
  rfl

variable [PageTransport τ]

/-- A superpage that is refused leaves the session as it is. -/
theorem perform_push_of_unmet (hc : session.Coherent config) (hq : session.Stocked config)
    (hpage : 0 < config.pageSize)
    (hf : firstUnmet? (session.requirements superpage) = some error) :
    session.perform (.push superpage) = (.ok (.error (.dma error)), session) := by
  rw [requirements_eq hc hq, List.cons_append, List.cons_append, List.cons_append,
    List.nil_append] at hf
  rw [perform]
  obtain hs | hs := stopped_or_started session
  · rw [firstUnmet?_of_unmet (by simp [hs])] at hf
    obtain rfl := Option.some.inj hf
    rw [on_push_of_stopped hs, returned]
  rw [firstUnmet?_of_met (by simpa using hs)] at hf
  by_cases hb : isInBuffer session.config.buffer.size superpage = true
  · rw [firstUnmet?_of_met hb] at hf
    by_cases ha : superpage.offset % offsetAlignment = 0
    · rw [firstUnmet?_of_met (by simpa using ha),
        ← Tracker.failure?_push hq.registered (by rw [hc.pageSize_eq]; exact hpage)] at hf
      cases ht : session.flow.tracker.push superpage with
      | ok tracker => simp [ht, failure?] at hf
      | error refusal =>
        obtain rfl : refusal = error := by simpa [ht, failure?] using hf
        rw [on_push_of_refused hs hb ha ht, returned]
    · rw [firstUnmet?_of_unmet (by simpa using ha)] at hf
      obtain rfl := Option.some.inj hf
      rw [on_push_of_misaligned hs hb ha, returned]
  · rw [Bool.not_eq_true] at hb
    rw [firstUnmet?_of_unmet hb] at hf
    obtain rfl := Option.some.inj hf
    rw [on_push_of_outside hs hb, returned]

/-- What an accepted superpage changes, whatever becomes of its pages: it is the last in transfer,
and its offset is taken. -/
structure Admits (session : Session ρ τ) (superpage : Superpage) (next : Session ρ τ) : Prop where
  transfer_eq : next.flow.tracker.transfer.map Transfer.superpage =
    session.flow.tracker.transfer.map Transfer.superpage ++ [superpage]
  ready_eq : next.flow.tracker.ready = session.flow.tracker.ready
  live_eq : next.flow.tracker.live = session.flow.tracker.live ++ [superpage.offset]

/-- A superpage that meets all that is asked is accepted, whatever the transport answers. -/
theorem perform_push_of_met (hc : session.Coherent config) (hq : session.Stocked config)
    (hpage : 0 < config.pageSize)
    (hf : firstUnmet? (session.requirements superpage) = none) :
    ∃ next, session.perform (.push superpage) = (.ok (.ok .done), next) ∧
      session.Admits superpage next := by
  rw [firstUnmet?_eq_none_iff, requirements_eq hc hq, List.forall_mem_append] at hf
  obtain ⟨hsession, hqueue⟩ := hf
  rw [← firstUnmet?_eq_none_iff,
    ← Tracker.failure?_push hq.registered (by rw [hc.pageSize_eq]; exact hpage)] at hqueue
  simp only [List.forall_mem_cons, decide_eq_true_eq] at hsession
  obtain ⟨hs, hb, ha, -⟩ := hsession
  cases ht : session.flow.tracker.push superpage with
  | error refusal => simp [ht, failure?] at hqueue
  | ok tracker =>
    obtain ⟨refilled, middle, hr, hrefilled⟩ :=
      exists_refilled { session with flow := { session.flow with tracker := tracker } }
    obtain ⟨log, hl⟩ := on_push_of_accepted hs hb ha ht hr
    have hsame := hrefilled.sameQueues
    obtain ⟨-, -, -, -, -, rfl⟩ := Tracker.push_eq_ok_iff.mp ht
    refine ⟨{ middle with log := log }, by rw [perform, hl, returned], ?_, hsame.ready_eq,
      hsame.live_eq⟩
    rw [hsame.map_eq Transfer.superpage fun _ => rfl]
    simp [Transfer.start]

/--
A superpage is accepted exactly when it meets all that is asked, and is refused for the first
requirement that it does not meet, with the session as it was and no call on the transport. What is
accepted stays so, even where the transport refuses the first page that it is offered.
-/
theorem admission_of_run {transport : τ} {last : Session ρ τ} (h : session.Opened transport)
    {operations : List Operation} {history : History}
    (hr : session.run operations = .ok (history, last)) (superpage : Superpage) :
    ((last.perform (.push superpage)).1 = .ok (.ok .done) ↔
      ∀ requirement ∈ last.requirements superpage, requirement.met = true) ∧
    (∀ error, firstUnmet? (last.requirements superpage) = some error →
      last.perform (.push superpage) = (.ok (.error (.dma error)), last) ∧
        last.callsOf (.push superpage) = []) ∧
    (∀ next, last.perform (.push superpage) = (.ok (.ok .done), next) →
      last.Admits superpage next) ∧
    ∀ page error rest, last.callsOf (.push superpage) = .push page (.error error) :: rest →
      ∃ next, last.perform (.push superpage) = (.ok (.ok .done), next) ∧
        last.Admits superpage next := by
  have hpage := h.pageSize_pos
  have hsound := h.sound_of_run hr
  have hc := hsound.coherent
  have hq := hsound.stocked
  have refused {error : DmaError} (hf : firstUnmet? (last.requirements superpage) = some error) :
      last.perform (.push superpage) = (.ok (.error (.dma error)), last) ∧
        last.callsOf (.push superpage) = [] := by
    refine ⟨perform_push_of_unmet hc hq hpage hf, ?_⟩
    -- the session over a recorder is asked the same, and its record is still empty
    have hcr : last.recorded.Coherent session.config :=
      ⟨hc.config_eq, hc.capacity_eq, hc.pageSize_eq, hc.inStep⟩
    have hqr : last.recorded.Stocked session.config :=
      ⟨hq.transferCapacity_eq, hq.readyCapacity_eq, hq.registered⟩
    rw [callsOf, perform_push_of_unmet hcr hqr hpage hf]
    rfl
  cases hf : firstUnmet? (last.requirements superpage) with
  | none =>
    obtain ⟨next, hp, hadmits⟩ := perform_push_of_met hc hq hpage hf
    refine ⟨?_, nofun, ?_, fun _ _ _ _ => ⟨next, hp, hadmits⟩⟩
    · rw [hp, ← firstUnmet?_eq_none_iff]
      exact iff_of_true rfl hf
    · intro other ho
      obtain rfl := congrArg Prod.snd (hp.symm.trans ho)
      exact hadmits
  | some error =>
    obtain ⟨hp, hcalls⟩ := refused hf
    refine ⟨?_, ?_, ?_, ?_⟩
    · rw [hp, ← firstUnmet?_eq_none_iff, hf]
      simp
    · intro other ho
      obtain rfl := Option.some.inj ho
      exact ⟨hp, hcalls⟩
    · intro next ho
      simp [hp] at ho
    · intro page refusal rest ho
      simp [hcalls] at ho

/-- A superpage is queued though its first page is refused; an empty one is asked for its offset. -/
theorem admission_of_run_without_room :
    ∃ history last next,
      (trial (Simulation.ScriptedTransport.withRoom (some 0))).run [.start] = .ok (history, last) ∧
      last.callsOf (.push (.fresh 0 16384)) =
        [.push ⟨0, 0, 0, 8192⟩ (.error (.register (.writeProtected 0)))] ∧
      last.perform (.push (.fresh 0 16384)) = (.ok (.ok .done), next) ∧
      last.Admits (.fresh 0 16384) next ∧
      last.perform (.push (.fresh 2 0)) = (.ok (.error (.dma (.misalignedOffset 2))), last) ∧
      last.callsOf (.push (.fresh 2 0)) = [] := by
  have computed : ((trial (Simulation.ScriptedTransport.withRoom (some 0))).run [.start]).map
      (fun reached => (reached.2.callsOf (.push (.fresh 0 16384)),
        firstUnmet? (reached.2.requirements (.fresh 2 0)))) =
      .ok ([.push ⟨0, 0, 0, 8192⟩ (.error (.register (.writeProtected 0)))],
        some (.misalignedOffset 2)) := by
    decide +kernel
  obtain ⟨⟨history, last⟩, hr, hl⟩ := exists_of_map_eq_ok computed
  obtain ⟨hcalls, hunmet⟩ := Prod.mk.inj hl
  obtain ⟨-, -, -, hadmitted⟩ := admission_of_run (opened_trial _) hr (.fresh 0 16384)
  obtain ⟨-, hrefused, -⟩ := admission_of_run (opened_trial _) hr (.fresh 2 0)
  obtain ⟨next, hp, hadmits⟩ := hadmitted _ _ _ hcalls
  obtain ⟨hsame, hnone⟩ := hrefused _ hunmet
  exact ⟨history, last, next, hr, hcalls, hp, hadmits, hsame, hnone⟩

end Session

end Readout
