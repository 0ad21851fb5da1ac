import Readout.Proofs.Dma.Identity
import Readout.Proofs.Session.Step
import Readout.Simulation.ScriptedTransport

/-!
Every superpage that was accepted since the last start was popped or is in one of the queues, and
the order of acceptance is the order of the pops, of the ready queue and of the transfers.
-/

namespace Readout

namespace Account

variable {ρ τ : Type} {account after : Account ρ τ}

/-- What went in is what came out and, behind it, what is still there. -/
def Balanced (account : Account ρ τ) : Prop :=
  account.ledger.accepted.map Dma.Superpage.identity =
    account.ledger.popped.map Dma.Superpage.identity ++ account.session.flow.tracker.identities

/-- A step that leaves the superpages where they are, or moves them along, keeps the balance. -/
theorem Balanced.of_identities {session next : Session ρ τ} {ledger : Ledger}
    (h : Balanced ⟨session, ledger⟩)
    (hi : next.flow.tracker.identities = session.flow.tracker.identities) :
    Balanced ⟨next, ledger⟩ :=
  Eq.trans h (congrArg (ledger.popped.map Dma.Superpage.identity ++ ·) hi.symm)

theorem Balanced.empty {session : Session ρ τ} (h : session.flow.tracker.identities = []) :
    Balanced ⟨session, .empty⟩ := by
  simp [Balanced, Ledger.empty, h]

variable [PageTransport τ]

theorem Balanced.step (step : Step account after) (h : account.Balanced) : after.Balanced := by
  cases step with
  | note => exact h
  | begin => exact .empty rfl
  | refuse => exact .empty rfl
  | accept _ _ _ ht =>
    unfold Balanced at h ⊢
    simp [Ledger.accept, h, Dma.Tracker.identities_push ht]
  | pageRefused => exact h
  | pageTaken _ hn _ hf =>
    refine h.of_identities ?_
    dsimp only
    rw [Dma.Flow.tracker_of_handOut hn hf, Dma.Tracker.identities_pagePushed]
  | pollFailed => exact h
  | pageOut => exact h
  | pageLanded _ _ _ hf =>
    refine h.of_identities ?_
    dsimp only
    rw [Dma.Flow.tracker_of_land hf, Dma.Tracker.identities_pageArrived]
  | promote => exact h.of_identities (Dma.Tracker.identities_promote _)
  | finish => exact h.of_identities (Dma.Tracker.identities_reclaim _)
  | pop hp =>
    unfold Balanced at h ⊢
    simp [Ledger.pop, h, Dma.Tracker.identities_pop hp]

theorem Balanced.path (path : Path account after) (h : account.Balanced) : after.Balanced :=
  path.keeps Balanced.step h

end Account

namespace Session

variable {ρ τ : Type} [PageTransport τ] {session : Session ρ τ}

/--
Nothing that was accepted since the last start of a stopped session is lost, doubled or reordered:
it was popped, it is over or it is in transfer, and what is popped comes in the order of acceptance.
-/
theorem accepted_of_run {transport : τ} (h : session.Opened transport)
    {operations : List Operation} {history : History} {last : Session ρ τ}
    (hr : session.run operations = .ok (history, last)) :
    (Ledger.ofHistory history).accepted.map Dma.Superpage.identity =
        (Ledger.ofHistory history).popped.map Dma.Superpage.identity ++
          last.flow.tracker.ready.map Dma.Superpage.identity ++
          last.flow.tracker.transfer.map (·.superpage.identity) ∧
      (Ledger.ofHistory history).popped.map Dma.Superpage.identity <+:
        (Ledger.ofHistory history).accepted.map Dma.Superpage.identity := by
  have hfresh : Account.Balanced ⟨session, .empty⟩ := by
    obtain ⟨-, hs⟩ := h.exists_fresh
    rw [hs]
    exact .empty rfl
  have hb : Account.Balanced ⟨last, Ledger.ofHistory history⟩ :=
    hfresh.path (Account.run_path .empty hr)
  exact ⟨Eq.trans hb (List.append_assoc _ _ _).symm, ⟨_, hb.symm⟩⟩

/-- The stop puts two unfinished superpages behind the one that fills the ready queue. -/
theorem accepted_of_run_past_capacity :
    ∃ history last,
      (trial (⟨[8192], none, false, false, false⟩ : Simulation.ScriptedTransport)).run
          [.start, .push (.fresh 0 8192), .push ((Dma.Superpage.fresh 8192 16384).withUser 7),
            .push (.fresh 24576 8192), .fill, .stop, .pop] = .ok (history, last) ∧
      last.flow.tracker.readyCapacity < last.flow.tracker.ready.length ∧
      (Ledger.ofHistory history).popped.map Dma.Superpage.identity = [⟨0, 8192, 0⟩] ∧
      (Ledger.ofHistory history).accepted.map Dma.Superpage.identity =
        [⟨0, 8192, 0⟩, ⟨8192, 16384, 7⟩, ⟨24576, 8192, 0⟩] := by
  have computed : ((trial (⟨[8192], none, false, false, false⟩ : Simulation.ScriptedTransport)).run
      [.start, .push (.fresh 0 8192), .push ((Dma.Superpage.fresh 8192 16384).withUser 7),
        .push (.fresh 24576 8192), .fill, .stop, .pop]).map
        (fun (history, last) =>
          ((Ledger.ofHistory history).popped.map Dma.Superpage.identity,
            last.flow.tracker.readyCapacity, last.flow.tracker.ready.map Dma.Superpage.identity,
            last.flow.tracker.transfer)) =
      .ok ([⟨0, 8192, 0⟩], 1, [⟨8192, 16384, 7⟩, ⟨24576, 8192, 0⟩], []) := by decide +kernel
  obtain ⟨⟨history, last⟩, hr, hl⟩ := exists_of_map_eq_ok computed
  simp only [Prod.mk.injEq] at hl
  obtain ⟨hpopped, hcapacity, hready, htransfer⟩ := hl
  obtain ⟨haccepted, -⟩ := accepted_of_run (opened_trial _) hr
  have hlength := congrArg List.length hready
  simp only [List.length_map, List.length_cons, List.length_nil] at hlength
  refine ⟨history, last, hr, ?_, hpopped, ?_⟩
  · omega
  · rw [haccepted, hpopped, hready, htransfer]
    rfl

end Session

end Readout
