import Readout.Proofs.Attempt
import Readout.Proofs.Session.Operation

/-!
What a session does depends on its configuration, its state, its flow and the answers of its
transport. So two sessions that are alike in these, in whatever else they differ, answer every call
in the same way and stay alike.
-/

namespace Readout.Session

open Attempt

variable {ρ ρ' τ σ α : Type}

/-- A relation of sessions that their calls cannot tell apart: it grants what the acts of a session
read, and is kept by each change that they make and by each answer of the transports. -/
structure Likeness [PageTransport τ] [PageTransport σ]
    (alike : Session ρ τ → Session ρ' σ → Prop) : Prop where
  config_eq : ∀ {session twin}, alike session twin → twin.config = session.config
  state_eq : ∀ {session twin}, alike session twin → twin.state = session.state
  flow_eq : ∀ {session twin}, alike session twin → twin.flow = session.flow
  withLog : ∀ {session twin}, alike session twin → ∀ f : Log → Log,
    alike { session with log := f session.log } { twin with log := f twin.log }
  withState : ∀ {session twin}, alike session twin → ∀ state,
    alike { session with state := state } { twin with state := state }
  withFlow : ∀ {session twin}, alike session twin → ∀ flow,
    alike { session with flow := flow } { twin with flow := flow }
  callStart : Matches alike (call PageTransport.start) (call PageTransport.start)
  callStop : Matches alike (call PageTransport.stop) (call PageTransport.stop)
  callPushPage : ∀ page,
    Matches alike (call (PageTransport.pushPage · page)) (call (PageTransport.pushPage · page))
  callPollPage : ∀ page,
    Matches alike (call (PageTransport.pollPage · page)) (call (PageTransport.pollPage · page))

section Matches

variable {alike : Session ρ τ → Session ρ' σ → Prop} {x : Act ρ τ α} {y : Act ρ' σ α}

theorem matches_fail (error : Error) : Matches alike (fail error : Act ρ τ α) (fail error) :=
  matches_throw _

theorem matches_conclude (result : Except Error α) :
    Matches alike (conclude result) (conclude result) := fun _ _ h => ⟨rfl, h⟩

theorem matches_settle (h : Matches alike x y) : Matches alike (settle x) (settle y) := by
  intro session twin ha
  obtain ⟨result, next, other, hx, hy, hnext⟩ := h.exists_on ha
  unfold Session.settle
  rw [Attempt.on_of, Attempt.on_of, hx, hy]
  rcases result with (error | fault) | a <;> exact ⟨rfl, hnext⟩

theorem matches_returned (h : Matches alike x y) (give : α → Answer) {session : Session ρ τ}
    {twin : Session ρ' σ} (ha : alike session twin) :
    (Session.returned give (y.on twin)).1 = (Session.returned give (x.on session)).1 ∧
      alike (Session.returned give (x.on session)).2 (Session.returned give (y.on twin)).2 := by
  obtain ⟨result, next, other, hx, hy, hnext⟩ := h.exists_on ha
  rw [hx, hy]
  rcases result with (error | fault) | a <;> exact ⟨rfl, hnext⟩

end Matches

namespace Likeness

variable [PageTransport τ] [PageTransport σ] {alike : Session ρ τ → Session ρ' σ → Prop}
  {session : Session ρ τ} {twin : Session ρ' σ}

theorem info (h : Likeness alike) (text : String) : Matches alike (info text) (info text) :=
  fun _ _ ha => ⟨rfl, h.withLog ha fun log => log.info text⟩

theorem warn (h : Likeness alike) (text : String) : Matches alike (warn text) (warn text) :=
  fun _ _ ha => ⟨rfl, h.withLog ha fun log => log.warn text⟩

theorem setState (h : Likeness alike) (state : RunState) :
    Matches alike (setState state) (setState state) :=
  fun _ _ ha => ⟨rfl, h.withState ha state⟩

theorem advance (h : Likeness alike) (f : Dma.Flow → Except Dma.FlowFault α × Dma.Flow) :
    Matches alike (advance f) (advance f) := by
  intro session twin ha
  rw [on_advance, on_advance, h.flow_eq ha]
  exact ⟨rfl, h.withFlow ha _⟩

theorem updateFlow (h : Likeness alike) (f : Dma.Flow → α × Dma.Flow) :
    Matches alike (updateFlow f) (updateFlow f) := by
  intro session twin ha
  rw [on_updateFlow, on_updateFlow, h.flow_eq ha]
  exact ⟨rfl, h.withFlow ha _⟩

theorem pop (h : Likeness alike) : Matches alike pop pop := by
  refine matches_get fun session twin ha => ?_
  rw [h.flow_eq ha]
  cases session.flow.tracker.pop with
  | error error => exact matches_fail _
  | ok popped => exact h.updateFlow _

theorem pushPages (h : Likeness alike) (n : Nat) :
    Matches alike (pushPages n) (pushPages n) := by
  induction n with
  | zero => exact matches_pure ()
  | succ n ih =>
    refine matches_get fun session twin ha => ?_
    rw [h.flow_eq ha]
    cases session.flow.nextPage? with
    | none => exact matches_pure ()
    | some page => exact (h.callPushPage page).bind fun _ => (h.advance _).bind fun _ => ih

theorem refill (h : Likeness alike) : Matches alike refill refill := by
  refine matches_get fun session twin ha => ?_
  rw [h.flow_eq ha]
  exact h.pushPages session.flow.ring.free

theorem collect (h : Likeness alike) (pages : List Dma.Page) :
    Matches alike (collect pages) (collect pages) := by
  induction pages with
  | nil => exact matches_pure ()
  | cons page rest ih =>
    refine (h.callPollPage page).bind fun landed => ?_
    cases landed with
    | none => exact matches_pure ()
    | some length =>
      refine (h.advance _).bind fun credited => ?_
      cases credited with
      | ok _ => exact ih
      | error error => exact matches_fail _

theorem collectArrivals (h : Likeness alike) :
    Matches alike collectArrivals collectArrivals := by
  refine matches_get fun session twin ha => ?_
  rw [h.flow_eq ha]
  exact h.collect session.flow.inFlight

theorem start (h : Likeness alike) : Matches alike start start := by
  refine matches_get fun session twin ha => ?_
  rw [h.state_eq ha, h.config_eq ha]
  cases session.state with
  | started => exact h.warn _
  | stopped =>
    exact (h.info _).bind fun _ => (h.updateFlow _).bind fun _ =>
      h.callStart.bind fun _ => h.setState _

theorem stop (h : Likeness alike) : Matches alike stop stop := by
  refine matches_get fun session twin ha => ?_
  rw [h.state_eq ha, h.config_eq ha]
  cases session.state with
  | stopped => exact h.warn _
  | started =>
    refine (h.info _).bind fun _ => (matches_settle h.collectArrivals).bind fun collected => ?_
    refine (h.updateFlow _).bind fun _ => (matches_settle h.callStop).bind fun halted => ?_
    refine (h.updateFlow _).bind fun cut => ?_
    have ending : Matches alike
        (Session.setState .stopped >>= fun _ => conclude collected >>= fun _ => conclude halted)
        (Session.setState .stopped >>= fun _ => conclude collected >>= fun _ => conclude halted) :=
      (h.setState .stopped).bind fun _ =>
        (matches_conclude collected).bind fun _ => matches_conclude halted
    by_cases hc : 0 < cut
    · simp only [hc, if_true]
      exact (h.warn _).bind fun _ => ending
    · simp only [hc, if_false]
      exact ending

theorem push (h : Likeness alike) (superpage : Dma.Superpage) :
    Matches alike (push superpage) (push superpage) := by
  refine matches_get fun session twin ha => ?_
  rw [h.state_eq ha, h.config_eq ha, h.flow_eq ha]
  refine .ite (matches_fail _) (.ite (matches_fail _) (.ite (matches_fail _) ?_))
  cases session.flow.tracker.push superpage with
  | error error => exact matches_fail _
  | ok tracker =>
    refine (h.updateFlow _).bind fun _ => (matches_settle h.refill).bind fun refilled => ?_
    cases refilled with
    | ok _ => exact matches_pure ()
    | error error => exact h.warn _

theorem fill (h : Likeness alike) : Matches alike fill fill := by
  refine matches_get fun session twin ha => ?_
  rw [h.state_eq ha]
  exact .ite (matches_fail _) (h.collectArrivals.bind fun _ =>
    (h.updateFlow _).bind fun promoted => h.refill.bind fun _ => matches_pure promoted)

/-- A call gives the same in alike sessions, also where it cannot return, and they stay alike. -/
theorem perform (h : Likeness alike) (ha : alike session twin) (operation : Operation) :
    (twin.perform operation).1 = (session.perform operation).1 ∧
      alike (session.perform operation).2 (twin.perform operation).2 := by
  cases operation with
  | start => exact matches_returned h.start _ ha
  | stop => exact matches_returned h.stop _ ha
  | push superpage => exact matches_returned (h.push superpage) _ ha
  | fill => exact matches_returned h.fill _ ha
  | pop => exact matches_returned h.pop _ ha

end Likeness

end Readout.Session
