import Readout.Proofs.Dma.Live
import Readout.Proofs.Session.Step

/-!
In every state that a session reaches its queues have the capacities that it was opened with, and
the offsets that are taken are those of the superpages in them.
-/

namespace Readout

namespace Session

variable {ρ τ : Type} {config : ChannelConfig} {session next : Session ρ τ}

structure Stocked (config : ChannelConfig) (session : Session ρ τ) : Prop where
  transferCapacity_eq : session.flow.tracker.transferCapacity = config.transferCapacity
  readyCapacity_eq : session.flow.tracker.readyCapacity = config.readyCapacity
  registered : session.flow.tracker.Registered

theorem Stocked.of_flow (h : session.Stocked config) (hf : next.flow = session.flow) :
    next.Stocked config :=
  ⟨hf ▸ h.transferCapacity_eq, hf ▸ h.readyCapacity_eq, hf ▸ h.registered⟩

theorem Opened.stocked {transport : τ} (h : session.Opened transport) :
    session.Stocked session.config := by
  obtain ⟨-, hfresh⟩ := h.exists_fresh
  rw [hfresh]
  exact ⟨rfl, rfl, Dma.Tracker.registered_empty _ _ _⟩

theorem Stocked.clear (h : session.Stocked config) (transport : τ) (state : RunState) :
    Stocked config
      { session with flow := session.flow.clear, transport := transport, state := state } :=
  ⟨h.transferCapacity_eq, h.readyCapacity_eq, Dma.Tracker.registered_empty _ _ _⟩

variable [PageTransport τ]

theorem Stocked.step {account after : Account ρ τ} (step : Account.Step account after)
    (h : account.session.Stocked config) : after.session.Stocked config := by
  cases step with
  | note => exact h.of_flow rfl
  | begin => exact h.clear _ _
  | refuse => exact h.clear _ _
  | accept _ _ _ ht =>
    have hregistered := h.registered.push ht
    obtain ⟨-, -, -, -, -, rfl⟩ := Dma.Tracker.push_eq_ok_iff.mp ht
    exact ⟨h.transferCapacity_eq, h.readyCapacity_eq, hregistered⟩
  | pageRefused => exact h.of_flow rfl
  | pageTaken _ hn _ hf =>
    obtain ⟨-, rfl⟩ := Prod.mk.inj ((Dma.Flow.handOut_of_nextPage hn).symm.trans hf)
    exact ⟨h.transferCapacity_eq, h.readyCapacity_eq, h.registered.pagePushed⟩
  | pollFailed => exact h.of_flow rfl
  | pageOut => exact h.of_flow rfl
  | pageLanded _ _ _ hf =>
    constructor <;> dsimp only <;> rw [Dma.Flow.tracker_of_land hf]
    · exact (Dma.Tracker.transferCapacity_pageArrived _ _).trans h.transferCapacity_eq
    · exact (Dma.Tracker.readyCapacity_pageArrived _ _).trans h.readyCapacity_eq
    · exact h.registered.pageArrived _
  | promote => exact ⟨h.transferCapacity_eq, h.readyCapacity_eq, h.registered.promote⟩
  | finish => exact ⟨h.transferCapacity_eq, h.readyCapacity_eq, h.registered.reclaim⟩
  | pop hp =>
    have hregistered := h.registered.pop hp
    obtain ⟨ready, -, rfl⟩ := Dma.Tracker.pop_eq_ok_iff.mp hp
    exact ⟨h.transferCapacity_eq, h.readyCapacity_eq, hregistered⟩

end Session

end Readout
