import Readout.Channel.Loopback
import Readout.Proofs.Dma.Bookkeeping
import Readout.Proofs.Session.Faults
import Readout.Proofs.Session.Queues

/-!
How much the queues of a session hold. A stop gives back all that was in transfer, whatever room the
ready queue has. It finds that queue within its capacity, since nothing else goes past it and a start
empties it; so what a stop leaves over the capacity does not add up from run to run.
-/

namespace Readout

open Dma

namespace Dma.Tracker

/-- A promotion moves no more than the ready queue has room for. -/
theorem length_ready_promote_le {tracker : Tracker}
    (h : tracker.ready.length ≤ tracker.readyCapacity) :
    tracker.promote.2.ready.length ≤ tracker.readyCapacity := by
  have hmoved : tracker.promotable.length ≤ tracker.readyCapacity - tracker.ready.length := by
    unfold promotable
    rw [List.length_take]
    exact Nat.min_le_left _ _
  show (tracker.ready ++ tracker.promotable.map Transfer.finish).length ≤ _
  rw [List.length_append, List.length_map]
  omega

theorem length_transfer_promote_le (tracker : Tracker) :
    tracker.promote.2.transfer.length ≤ tracker.transfer.length := by
  show (tracker.transfer.drop _).length ≤ _
  rw [List.length_drop]
  exact Nat.sub_le _ _

/-- As many offsets are taken as superpages are queued. -/
theorem Registered.length_live {tracker : Tracker} (h : tracker.Registered) :
    tracker.live.length = tracker.transfer.length + tracker.ready.length := by
  rw [h.live_perm.length_eq, superpages, List.length_map, List.length_append, List.length_map]
  exact Nat.add_comm _ _

end Dma.Tracker

namespace Session

variable {ρ τ : Type} {config : ChannelConfig} {session next last : Session ρ τ}

/-- A started session has room in both queues; both together hold what a stop gives back. -/
structure Bounded (config : ChannelConfig) (session : Session ρ τ) : Prop where
  stocked : session.Stocked config
  transfer_le : session.flow.tracker.transfer.length ≤ config.transferCapacity
  transfer_eq : session.state = .stopped → session.flow.tracker.transfer = []
  ready_le : session.state = .started →
    session.flow.tracker.ready.length ≤ config.readyCapacity
  held_le : session.flow.tracker.transfer.length + session.flow.tracker.ready.length ≤
    config.readyCapacity + config.transferCapacity

theorem Stocked.bounded_of_started (h : session.Stocked config) (hs : session.state = .started)
    (ht : session.flow.tracker.transfer.length ≤ config.transferCapacity)
    (hr : session.flow.tracker.ready.length ≤ config.readyCapacity) : session.Bounded config := by
  constructor
  · exact h
  · exact ht
  · intro hstopped
    rw [hs] at hstopped
    cases hstopped
  · intro _
    exact hr
  · omega

theorem Stocked.bounded_of_empty (h : session.Stocked config)
    (ht : session.flow.tracker.transfer = []) (hr : session.flow.tracker.ready = []) :
    session.Bounded config := by
  constructor
  · exact h
  · rw [ht]
    exact Nat.zero_le _
  · intro _
    exact ht
  · intro _
    rw [hr]
    exact Nat.zero_le _
  · rw [ht, hr]
    exact Nat.zero_le _

theorem Bounded.of_flow (h : session.Bounded config) (hf : next.flow = session.flow)
    (hs : next.state = session.state) : next.Bounded config := by
  refine ⟨h.stocked.of_flow hf, ?_, ?_, ?_, ?_⟩
  · rw [hf]
    exact h.transfer_le
  · rw [hf, hs]
    exact h.transfer_eq
  · rw [hf, hs]
    exact h.ready_le
  · rw [hf]
    exact h.held_le

/-- What an arrival books changes the length of neither queue. -/
theorem Bounded.pageArrived (h : session.Bounded config) (hs : session.state = .started)
    {length : Nat} (hn : next.flow.tracker = (session.flow.tracker.pageArrived length).2)
    (hstate : next.state = .started) : next.Bounded config := by
  have hstocked : next.Stocked config := by
    constructor
    · rw [hn, Tracker.transferCapacity_pageArrived]
      exact h.stocked.transferCapacity_eq
    · rw [hn, Tracker.readyCapacity_pageArrived]
      exact h.stocked.readyCapacity_eq
    · rw [hn]
      exact h.stocked.registered.pageArrived length
  apply hstocked.bounded_of_started hstate
  · rw [hn, Tracker.length_pageArrived]
    exact h.transfer_le
  · rw [hn, Tracker.ready_pageArrived]
    exact h.ready_le hs

variable [PageTransport τ]

theorem Bounded.step {account after : Account ρ τ} (step : Account.Step account after)
    (h : account.session.Bounded config) : after.session.Bounded config := by
  have hstocked : after.session.Stocked config := h.stocked.step step
  cases step with
  | note => exact h.of_flow rfl rfl
  | begin => exact hstocked.bounded_of_empty rfl rfl
  | refuse => exact hstocked.bounded_of_empty rfl rfl
  | accept hs _ _ ht =>
    obtain ⟨hroom, -, -, -, -, rfl⟩ := Tracker.push_eq_ok_iff.mp ht
    apply hstocked.bounded_of_started hs
    · show (_ ++ [_]).length ≤ _
      rw [List.length_append, List.length_singleton, ← h.stocked.transferCapacity_eq]
      exact hroom
    · exact h.ready_le hs
  | pageRefused => exact h.of_flow rfl rfl
  | pageTaken hs hn _ hf =>
    obtain ⟨-, rfl⟩ := Prod.mk.inj ((Flow.handOut_of_nextPage hn).symm.trans hf)
    apply hstocked.bounded_of_started hs
    · show (updateFirst _ _ _).length ≤ _
      rw [length_updateFirst]
      exact h.transfer_le
    · exact h.ready_le hs
  | pollFailed => exact h.of_flow rfl rfl
  | pageOut => exact h.of_flow rfl rfl
  | pageLanded hs _ _ hf => exact h.pageArrived hs (Flow.tracker_of_land hf) hs
  | promote hs =>
    have hready := h.ready_le hs
    rw [← h.stocked.readyCapacity_eq] at hready
    apply hstocked.bounded_of_started hs
    · exact Nat.le_trans (Tracker.length_transfer_promote_le _) h.transfer_le
    · rw [← h.stocked.readyCapacity_eq]
      exact Tracker.length_ready_promote_le hready
  | @finish session _ _ _ hs =>
    -- the one step that looks at no capacity; it only moves what both queues hold together
    have hheld : session.flow.tracker.transfer.length + session.flow.tracker.ready.length ≤
        config.readyCapacity + config.transferCapacity := h.held_le
    refine ⟨hstocked, Nat.zero_le _, fun _ => rfl, nofun, ?_⟩
    show 0 + (session.flow.tracker.ready ++ session.flow.tracker.transfer.map _).length ≤ _
    rw [List.length_append, List.length_map]
    omega
  | @pop session _ _ _ hp =>
    obtain ⟨ready, hready, rfl⟩ := Tracker.pop_eq_ok_iff.mp hp
    have hfewer : ready.length ≤ session.flow.tracker.ready.length := by
      rw [hready, List.length_cons]
      exact Nat.le_succ _
    refine ⟨hstocked, h.transfer_le, h.transfer_eq, ?_, ?_⟩
    · intro hs
      exact Nat.le_trans hfewer (h.ready_le hs)
    · exact Nat.le_trans (Nat.add_le_add_left hfewer _) h.held_le

theorem lasting_bounded : Lasting (Bounded config : Session ρ τ → Prop) := by
  refine ⟨Bounded.step, ?_⟩
  intro session page length fault flow transport hs hland h
  rcases Flow.eq_of_land_error hland with rfl | rfl
  · exact h.of_flow rfl rfl
  · exact h.pageArrived hs rfl hs

/--
However many runs are chained, and whatever their calls come to, the queues stay within what the
session was opened for: only behind a stop are more superpages over than the ready queue has room
for, and then by no more than could be in transfer. There are as many offsets taken as superpages.
-/
theorem bounded_of_calls {transport : τ} (h : session.Opened transport)
    {operations : List Operation} (hl : (session.performEach operations).2 = last) :
    last.flow.tracker.transfer.length ≤ session.config.transferCapacity ∧
    (last.state = .stopped → last.flow.tracker.transfer = []) ∧
    (last.state = .started →
      last.flow.tracker.ready.length ≤ session.config.readyCapacity) ∧
    (last.state = .stopped → last.flow.tracker.ready.length ≤
      session.config.readyCapacity + session.config.transferCapacity) ∧
    last.flow.tracker.live.Nodup ∧
    (∀ offset, last.flow.tracker.isLive offset = true ↔
      offset ∈ last.flow.tracker.superpages.map Superpage.offset) ∧
    last.flow.tracker.live.length =
      last.flow.tracker.transfer.length + last.flow.tracker.ready.length ∧
    last.flow.tracker.live.length ≤
      session.config.readyCapacity + session.config.transferCapacity := by
  have hfirst : session.Bounded session.config := by
    apply h.stocked.bounded_of_empty
    · obtain ⟨-, hfresh⟩ := h.exists_fresh
      rw [hfresh]
      rfl
    · obtain ⟨-, hfresh⟩ := h.exists_fresh
      rw [hfresh]
      rfl
  have hlast : last.Bounded session.config := hl ▸ lasting_bounded.performEach hfirst operations
  have hregistered := hlast.stocked.registered
  have hlength := hregistered.length_live
  refine ⟨hlast.transfer_le, hlast.transfer_eq, hlast.ready_le, ?_, hregistered.nodup, ?_,
    hlength, ?_⟩
  · intro _
    have hheld := hlast.held_le
    omega
  · intro offset
    exact hregistered.isLive_iff
  · rw [hlength]
    exact hlast.held_le

/-- Two runs of three superpages each, of which the second is stopped with none of them popped. -/
def crowded : List Operation :=
  [.start, .push (.fresh 0 8192), .push (.fresh 8192 8192), .push (.fresh 16384 8192), .fill,
    .stop, .start, .push (.fresh 0 8192), .push (.fresh 8192 8192), .push (.fresh 16384 8192),
    .fill, .stop]

/-- There is room for one superpage that is over, and three are over behind the stop. -/
theorem bounded_of_calls_crowded :
    (trial Loopback.idle).config.readyCapacity = 1 ∧
    ((trial Loopback.idle).performEach crowded).2.state = .stopped ∧
    ((trial Loopback.idle).performEach crowded).2.flow.tracker.ready.length = 3 ∧
    ((trial Loopback.idle).performEach crowded).2.flow.tracker.live.length = 3 ∧
    3 ≤ 1 + (trial Loopback.idle).config.transferCapacity := by
  have computed : (((trial Loopback.idle).performEach crowded).2.state,
      ((trial Loopback.idle).performEach crowded).2.flow.tracker.transfer.length,
      ((trial Loopback.idle).performEach crowded).2.flow.tracker.ready.length) =
      (.stopped, 0, 3) := by
    decide +kernel
  obtain ⟨hs, hrest⟩ := Prod.mk.inj computed
  obtain ⟨ht, hr⟩ := Prod.mk.inj hrest
  have hlast : ((trial Loopback.idle).performEach crowded).2 = _ := rfl
  obtain ⟨-, -, -, hready, -, -, hlive, -⟩ := bounded_of_calls (opened_trial Loopback.idle) hlast
  have hle := hready hs
  rw [hr] at hle
  rw [ht, hr] at hlive
  exact ⟨rfl, hs, hr, hlive, hle⟩

end Session

end Readout
