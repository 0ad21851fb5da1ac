import Readout.Proofs.Dma.Progress
import Readout.Proofs.Session.Step

/-!
Pages are handed out until the rings are full, no page is left or the transport refuses one. The
superpages stay where they are meanwhile.
-/

namespace Readout

/-- A page that goes out takes one of the slots that were free. -/
theorem Dma.Flow.free_of_handOut {flow next : Dma.Flow} {page : Dma.Page}
    (hn : flow.nextPage? = some page) (hf : flow.handOut page = (.ok (), next)) :
    next.ring.free + 1 = flow.ring.free := by
  obtain ⟨hfree, -⟩ := nextPage?_eq_some_iff.mp hn
  obtain ⟨-, rfl⟩ := Prod.mk.inj ((handOut_of_nextPage hn).symm.trans hf)
  simp only [Ring.free, Ring.bufferFree, Ring.fifoFree, Slots.pushHead] at hfree ⊢
  omega

namespace Session

variable {ρ τ : Type} [PageTransport τ] {session next : Session ρ τ}

/-- Pages go out one after the other, and the transport takes each of them. -/
inductive Deliveries : Session ρ τ → Session ρ τ → Prop where
  | nil (session : Session ρ τ) : Deliveries session session
  | cons {session last : Session ρ τ} {page : Dma.Page} {transport : τ} {flow : Dma.Flow} :
      session.flow.nextPage? = some page →
      PageTransport.pushPage session.transport page = (.ok (), transport) →
      session.flow.handOut page = (.ok (), flow) →
      Deliveries { session with transport := transport, flow := flow } last →
      Deliveries session last

theorem Deliveries.sameQueues (h : Deliveries session next) :
    session.flow.tracker.SameQueues next.flow.tracker := by
  induction h with
  | nil => exact .refl _
  | @cons session _ _ _ _ hn _ hf _ ih =>
    have hpushed := session.flow.tracker.sameQueues_pagePushed
    rw [← Dma.Flow.tracker_of_handOut hn hf] at hpushed
    exact hpushed.trans ih

theorem Deliveries.path (h : Deliveries session next) (ledger : Ledger)
    (hs : session.state = .started) :
    next.state = .started ∧ Account.Path ⟨session, ledger⟩ ⟨next, ledger⟩ := by
  induction h with
  | nil => exact ⟨hs, .refl⟩
  | cons hn hp hf _ ih =>
    obtain ⟨hs', path⟩ := ih hs
    exact ⟨hs', path.head (.pageTaken hs hn hp hf)⟩

/-- How handing out pages comes to its end: none is left to go out, or the next one is refused. -/
inductive Refilled (session : Session ρ τ) : Except Error Unit × Session ρ τ → Prop where
  | done {next : Session ρ τ} :
      Deliveries session next → next.flow.nextPage? = none → Refilled session (.ok (), next)
  | refused {middle : Session ρ τ} {page : Dma.Page} {error : Error} {transport : τ} :
      Deliveries session middle → middle.flow.nextPage? = some page →
      PageTransport.pushPage middle.transport page = (.error error, transport) →
      Refilled session (.error error, { middle with transport := transport })

theorem Refilled.sameQueues {result : Except Error Unit} (h : Refilled session (result, next)) :
    session.flow.tracker.SameQueues next.flow.tracker := by
  cases h with
  | done hd _ => exact hd.sameQueues
  | refused hd _ _ => exact hd.sameQueues

/-- As many rounds as there are free slots are enough. -/
theorem exists_refilled_of_pushPages (session : Session ρ τ) {n : Nat}
    (hn : session.flow.ring.free ≤ n) :
    ∃ result next, (pushPages n).on session = (result.mapError .error, next) ∧
      Refilled session (result, next) := by
  induction n generalizing session with
  | zero =>
    have hnone : session.flow.nextPage? = none := by
      rw [Dma.Flow.nextPage?, if_pos (Nat.le_zero.mp hn)]
    exact ⟨.ok (), session, rfl, .done (.nil _) hnone⟩
  | succ n ih =>
    cases hpage : session.flow.nextPage? with
    | none => exact ⟨.ok (), session, pushPages_of_none _ hpage, .done (.nil _) hpage⟩
    | some page =>
      rcases hp : PageTransport.pushPage session.transport page with ⟨error | _, transport⟩
      · exact ⟨.error error, _, pushPages_of_refused hpage hp, .refused (.nil _) hpage hp⟩
      · obtain ⟨flow, hf⟩ : ∃ flow, session.flow.handOut page = (.ok (), flow) :=
          ⟨_, Dma.Flow.handOut_of_nextPage hpage⟩
        have hfree := Dma.Flow.free_of_handOut hpage hf
        obtain ⟨result, next, hr, hrefilled⟩ :=
          ih { session with transport := transport, flow := flow } (by dsimp only; omega)
        refine ⟨result, next, (pushPages_of_taken hpage hp hf).trans hr, ?_⟩
        cases hrefilled with
        | done hd hnone => exact .done (.cons hpage hp hf hd) hnone
        | refused hd hpage' hp' => exact .refused (.cons hpage hp hf hd) hpage' hp'

theorem exists_refilled (session : Session ρ τ) :
    ∃ result next, refill.on session = (result.mapError .error, next) ∧
      Refilled session (result, next) :=
  exists_refilled_of_pushPages session (Nat.le_refl _)

end Session

end Readout
