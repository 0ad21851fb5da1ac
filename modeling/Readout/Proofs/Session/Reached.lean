import Readout.Proofs.Session.Coverage
import Readout.Proofs.Session.Queues

/-!
What holds of every state that a session reaches, over any transport: the accounts of the pages and
of the superpages agree, and what is queued fits the buffer.
-/

namespace Readout

open Dma

namespace Account

variable {ρ τ : Type} {config : ChannelConfig} {account after : Account ρ τ}

/-- The session's accounts agree with the configuration and with the ledger. -/
structure Sound (config : ChannelConfig) (account : Account ρ τ) : Prop where
  coherent : account.session.Coherent config
  stocked : account.session.Stocked config
  balanced : account.Balanced
  admitted : account.Admitted config

/-- A superpage that is queued has at least one page, for which the ring has a place. -/
theorem Sound.capacity_pos (h : account.Sound config) (hpage : 0 < config.pageSize)
    (ht : account.session.flow.tracker.transfer ≠ []) :
    0 < account.session.flow.ring.capacity := by
  obtain ⟨transfer, hm⟩ := List.exists_mem_of_ne_nil _ ht
  have hadmitted := h.admitted.of_transfer h.balanced hm
  have hwhole := Nat.le_of_dvd hadmitted.size_pos (Nat.dvd_of_mod_eq_zero hadmitted.whole)
  have hend := hadmitted.end_le
  rw [h.coherent.capacity_eq, ChannelConfig.bufferPages]
  exact Nat.div_pos (by omega) hpage

variable [PageTransport τ]

theorem Sound.step (step : Step account after) (h : account.Sound config) : after.Sound config :=
  ⟨h.coherent.step step, h.stocked.step step, h.balanced.step step,
    h.admitted.step h.coherent step⟩

theorem Sound.path (path : Path account after) (h : account.Sound config) : after.Sound config :=
  path.keeps (P := fun account => account.Sound config) Sound.step h

end Account

namespace Session

variable {ρ τ : Type} {transport : τ} {session last : Session ρ τ}

theorem Opened.sound (h : session.Opened transport) :
    Account.Sound session.config ⟨session, .empty⟩ := by
  refine ⟨h.coherent, h.stocked, ?_, nofun⟩
  obtain ⟨-, hfresh⟩ := h.exists_fresh
  rw [hfresh]
  exact .empty rfl

theorem Opened.pageSize_pos (h : session.Opened transport) : 0 < session.config.pageSize := by
  obtain ⟨hv, -⟩ := h.exists_fresh
  obtain ⟨-, ⟨hpage, -⟩, -⟩ := ChannelConfig.validate_eq_ok_iff.mp hv
  exact hpage

theorem Opened.sound_of_run [PageTransport τ] (h : session.Opened transport)
    {operations : List Operation} {history : History}
    (hr : session.run operations = .ok (history, last)) :
    Account.Sound session.config ⟨last, Ledger.ofHistory history⟩ :=
  h.sound.path (Account.run_path .empty hr)

end Session

end Readout
