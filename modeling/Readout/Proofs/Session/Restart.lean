import Readout.Proofs.Session.Drain

/-!
A start that the transport refuses. It has emptied the queues before it asks the transport, so the
session stays stopped without the superpages that the last stop had given back.
-/

namespace Readout

open Dma

/-- No page is out and nothing is in transfer. -/
structure Dma.Flow.Idle (flow : Flow) : Prop where
  ring_eq : flow.ring.reset = flow.ring
  transfer_eq : flow.tracker.transfer = []
  inFlight_eq : flow.inFlight = []

namespace Dma.Flow

theorem idle_clear (flow : Flow) : flow.clear.Idle := ⟨rfl, rfl, rfl⟩

theorem idle_finish (flow : Flow) : flow.finish.2.Idle := ⟨rfl, rfl, rfl⟩

/-- Of a flow that is idle only what is over can be cleared. -/
theorem Idle.clear_eq {flow : Flow} (h : flow.Idle) :
    flow.clear = { flow with tracker := { flow.tracker with ready := [], live := [] } } := by
  show (⟨flow.ring.reset, flow.tracker.clear, []⟩ : Flow) = _
  rw [h.ring_eq, ← h.inFlight_eq, Tracker.clear, Tracker.empty, ← h.transfer_eq]

end Dma.Flow

namespace Session

variable {ρ τ : Type} {session last : Session ρ τ}

/-- A session is idle while it is stopped. -/
def Rests (session : Session ρ τ) : Prop := session.state = .stopped → session.flow.Idle

theorem rests_of_started (hs : session.state = .started) : session.Rests := by
  intro hstopped
  rw [hs] at hstopped
  cases hstopped

theorem Opened.rests {transport : τ} (h : session.Opened transport) : session.Rests := by
  obtain ⟨-, hfresh⟩ := h.exists_fresh
  rw [hfresh]
  intro _
  exact ⟨rfl, rfl, rfl⟩

variable [PageTransport τ]

/-- Only a refused start, a stop and a pop lead to a stopped session, and none leaves a page out. -/
theorem Rests.step {account after : Account ρ τ} (step : Account.Step account after)
    (h : account.session.Rests) : after.session.Rests := by
  cases step with
  | note => exact h
  | begin => exact rests_of_started rfl
  | refuse =>
    intro _
    exact Flow.idle_clear _
  | accept hs => exact rests_of_started hs
  | pageRefused hs => exact rests_of_started hs
  | pageTaken hs => exact rests_of_started hs
  | pollFailed hs => exact rests_of_started hs
  | pageOut hs => exact rests_of_started hs
  | pageLanded hs => exact rests_of_started hs
  | promote hs => exact rests_of_started hs
  | finish =>
    intro _
    exact Flow.idle_finish _
  | pop hp =>
    intro hs
    obtain ⟨hring, htransfer, hflight⟩ := h hs
    obtain ⟨ready, -, rfl⟩ := Tracker.pop_eq_ok_iff.mp hp
    exact ⟨hring, htransfer, hflight⟩

theorem Opened.rests_of_run {transport : τ} (h : session.Opened transport)
    {operations : List Operation} {history : History}
    (hr : session.run operations = .ok (history, last)) : last.Rests :=
  Account.Path.keeps (P := fun account => account.session.Rests) Rests.step
    (Account.run_path .empty hr) h.rests

/-- What a start leaves of a stopped session when it fails: nothing that is over. -/
structure Forgotten (session next : Session ρ τ) (transport : τ) : Prop where
  state_eq : next.state = .stopped
  config_eq : next.config = session.config
  lock_eq : next.lock = session.lock
  port_eq : next.port = session.port
  transport_eq : next.transport = transport
  flow_eq : next.flow =
    { session.flow with tracker := { session.flow.tracker with ready := [], live := [] } }
  pops : Pops next [] next
  isLive_eq : ∀ offset, next.flow.tracker.isLive offset = false

section Idle

omit [PageTransport τ]

variable {config : ChannelConfig}

theorem Stocked.live_perm (h : session.Stocked config) (hi : session.flow.Idle) :
    session.flow.tracker.live.Perm (session.flow.tracker.ready.map Superpage.offset) := by
  have hperm := h.registered.live_perm
  rwa [Tracker.superpages, hi.transfer_eq, List.map_nil, List.append_nil] at hperm

/-- The offsets taken in an idle session are those of the superpages that are over. -/
theorem Stocked.isLive_iff (h : session.Stocked config) (hi : session.flow.Idle) (offset : Nat) :
    session.flow.tracker.isLive offset = true ↔
      ∃ superpage ∈ session.flow.tracker.ready, superpage.offset = offset := by
  rw [Tracker.isLive, List.contains_iff_mem, (h.live_perm hi).mem_iff, List.mem_map]

theorem Stocked.clear_eq_iff (h : session.Stocked config) (hi : session.flow.Idle) :
    session.flow.clear = session.flow ↔ session.flow.tracker.ready = [] := by
  constructor
  · intro hsame
    rw [← hsame]
    rfl
  · intro hready
    have hperm := h.live_perm hi
    rw [hready, List.map_nil, List.perm_nil] at hperm
    rw [hi.clear_eq, ← hready, ← hperm]

end Idle

/--
A start that fails keeps its session stopped, but drops every superpage that could still have been
popped: the session is as it was only where the last of them had been popped before.
-/
theorem forgotten_of_start {transport after : τ} (h : session.Opened transport)
    {operations : List Operation} {history : History}
    (hr : session.run operations = .ok (history, last)) (hs : last.state = .stopped)
    {error : Error} (ha : PageTransport.start last.transport = (.error error, after)) :
    ∃ next, last.perform .start = (.ok (.error error), next) ∧ last.Forgotten next after ∧
      (∃ emptied, Pops last last.flow.tracker.ready emptied) ∧
      (∀ offset, last.flow.tracker.isLive offset = true ↔
        ∃ superpage ∈ last.flow.tracker.ready, superpage.offset = offset) ∧
      (next.flow = last.flow ↔ last.flow.tracker.ready = []) := by
  have hidle := h.rests_of_run hr hs
  have hstocked := (h.sound_of_run hr).stocked
  obtain ⟨log, hstart⟩ := on_start_of_error hs ha
  obtain ⟨emptied, hpops, -⟩ := exists_pops last .empty
  have hperform : last.perform .start = (.ok (.error error),
      { last with flow := last.flow.clear, transport := after, log := log }) := by
    rw [perform, hstart, returned]
  refine ⟨_, hperform, ?_, ⟨emptied, hpops⟩, hstocked.isLive_iff hidle,
    hstocked.clear_eq_iff hidle⟩
  exact ⟨hs, rfl, rfl, rfl, rfl, hidle.clear_eq, .failed (perform_pop_of_empty rfl),
    fun _ => rfl⟩

/-- A transport that can be started so many times; it takes every page, and none ever lands. -/
structure Restartable where
  starts : Nat
  deriving DecidableEq

instance : PageTransport Restartable where
  start transport :=
    match transport.starts with
    | 0 => (.error (.register (.writeProtected Simulation.ScriptedTransport.startRegister)),
        transport)
    | starts + 1 => (.ok (), ⟨starts⟩)
  pushPage transport _ := (.ok (), transport)
  pollPage transport _ := (.ok none, transport)

/-- What was cut short by the stop has been popped, so the start has nothing to drop. -/
theorem forgotten_of_start_popped :
    ∃ history last next,
      (trial (⟨1⟩ : Restartable)).run [.start, .push (.fresh 0 8192), .stop, .pop] =
        .ok (history, last) ∧
      last.state = .stopped ∧
      last.perform .start = (.ok (.error (.register (.writeProtected 9001))), next) ∧
      next.flow = last.flow := by
  have computed : ((trial (⟨1⟩ : Restartable)).run
      [.start, .push (.fresh 0 8192), .stop, .pop]).map
        (fun reached => (reached.2.state, reached.2.transport, reached.2.flow.tracker.ready)) =
      .ok (.stopped, ⟨0⟩, []) := by
    decide +kernel
  obtain ⟨⟨history, last⟩, hr, hl⟩ := exists_of_map_eq_ok computed
  simp only [Prod.mk.injEq] at hl
  obtain ⟨hs, ht, hready⟩ := hl
  have ha : PageTransport.start last.transport =
      (.error (.register (.writeProtected 9001)), (⟨0⟩ : Restartable)) := by
    rw [ht]
    rfl
  obtain ⟨next, hp, -, -, -, hsame⟩ := forgotten_of_start (opened_trial _) hr hs ha
  exact ⟨history, last, next, hr, hs, hp, hsame.mpr hready⟩

/-- The superpage that the stop gave back can be popped before the start but not after it. -/
theorem forgotten_of_start_unpopped :
    (trial (⟨1⟩ : Restartable)).Opened ⟨1⟩ ∧
    ∃ history last next popped,
      (trial (⟨1⟩ : Restartable)).run [.start, .push (.fresh 0 8192), .stop] =
        .ok (history, last) ∧
      last.state = .stopped ∧
      last.perform .start = (.ok (.error (.register (.writeProtected 9001))), next) ∧
      last.flow.tracker.ready = [.fresh 0 8192] ∧ next.flow.tracker.ready = [] ∧
      last.flow.tracker.isLive 0 = true ∧ next.flow.tracker.isLive 0 = false ∧
      last.perform .pop = (.ok (.ok (.popped (.fresh 0 8192))), popped) ∧
      next.perform .pop = (.ok (.error (.dma .readyQueueEmpty)), next) := by
  have computed : ((trial (⟨1⟩ : Restartable)).run
      [.start, .push (.fresh 0 8192), .stop]).map
        (fun reached => (reached.2.state, reached.2.flow.tracker.ready,
          reached.2.flow.tracker.isLive 0, (reached.2.perform .start).1)) =
      .ok (.stopped, [.fresh 0 8192], true,
        .ok (.error (.register (.writeProtected 9001)))) := by
    decide +kernel
  have left : ((trial (⟨1⟩ : Restartable)).run
      [.start, .push (.fresh 0 8192), .stop]).map
        (fun reached => ((reached.2.perform .start).2.flow.tracker.ready,
          (reached.2.perform .start).2.flow.tracker.isLive 0, (reached.2.perform .pop).1)) =
      .ok ([], false, .ok (.ok (.popped (.fresh 0 8192)))) := by
    decide +kernel
  obtain ⟨⟨history, last⟩, hr, hl⟩ := exists_of_map_eq_ok computed
  rw [hr] at left
  simp only [Prod.mk.injEq] at hl
  obtain ⟨hs, hready, hlive, hstart⟩ := hl
  obtain ⟨hnone, hleft⟩ := Prod.mk.inj (Except.ok.inj left)
  obtain ⟨hfree, hpop⟩ := Prod.mk.inj hleft
  exact ⟨opened_trial _, history, last, _, _, hr, hs, Prod.ext hstart rfl, hready, hnone, hlive,
    hfree, Prod.ext hpop rfl, perform_pop_of_empty hnone⟩

end Session

end Readout
