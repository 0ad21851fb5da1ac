import Readout.Proofs.Session.Operation
import Readout.Proofs.Session.Rounds

/-! What each call on a session does, one equation for each way it can go. -/

namespace Readout.Session

variable {ρ τ : Type} {session next : Session ρ τ} {transport : τ} {error : Error}

theorem stopped_or_started (session : Session ρ τ) :
    session.state = .stopped ∨ session.state = .started := by
  cases session.state
  · exact .inl rfl
  · exact .inr rfl

theorem on_settle {α : Type} {act : Act ρ τ α} {result : Except Error α}
    (h : act.on session = (result.mapError .error, next)) :
    (settle act).on session = (.ok result, next) := by
  cases result with
  | ok answer => exact on_settle_of_ok h
  | error error => exact on_settle_of_error h

theorem on_pop_of_error {dmaError : DmaError} (h : session.flow.tracker.pop = .error dmaError) :
    pop.on session = (.error (.error (.dma dmaError)), session) := by
  simp [pop, Attempt.on_bind, h]

theorem on_pop_of_ok {superpage : Dma.Superpage} {tracker : Dma.Tracker}
    (h : session.flow.tracker.pop = .ok (superpage, tracker)) :
    pop.on session =
      (.ok superpage, { session with flow := { session.flow with tracker := tracker } }) := by
  simp [pop, Attempt.on_bind, h]

variable [PageTransport τ]

theorem perform_pop_of_empty (h : session.flow.tracker.ready = []) :
    session.perform .pop = (.ok (.error (.dma .readyQueueEmpty)), session) := by
  have hpop : session.flow.tracker.pop = .error .readyQueueEmpty := by
    rw [Dma.Tracker.pop, h]
  show returned .popped (pop.on session) = _
  rw [on_pop_of_error hpop]
  rfl

theorem on_start_of_started (hs : session.state = .started) :
    ∃ log, start.on session = (.ok (), { session with log := log }) := by
  simp [start, Attempt.on_bind, hs]

theorem on_start_of_ok (hs : session.state = .stopped)
    (h : PageTransport.start session.transport = (.ok (), transport)) :
    ∃ log, start.on session = (.ok (), { session with
      state := .started, flow := session.flow.clear, transport := transport, log := log }) := by
  simp [start, Attempt.on_bind, hs, h]

theorem on_start_of_error (hs : session.state = .stopped)
    (h : PageTransport.start session.transport = (.error error, transport)) :
    ∃ log, start.on session = (.error (.error error), { session with
      flow := session.flow.clear, transport := transport, log := log }) := by
  simp [start, Attempt.on_bind, hs, h]

theorem on_stop_of_stopped (hs : session.state = .stopped) :
    ∃ log, stop.on session = (.ok (), { session with log := log }) := by
  simp [stop, Attempt.on_bind, hs]

/-- The record that a stop leaves before it does anything else. -/
def announceStop (session : Session ρ τ) : Session ρ τ :=
  { session with log := session.log.info s!"Stopping DMA on channel {session.config.channel.toNat}" }

theorem on_stop_of_fault {fault : Dma.FlowFault} (hs : session.state = .started)
    (hc : collectArrivals.on session.announceStop = (.error (.fault fault), next)) :
    stop.on session = (.error (.fault fault), next) := by
  rw [stop, Attempt.on_bind_of_ok (Attempt.on_get _)]
  simp only [hs]
  rw [Attempt.on_bind_of_ok (on_info _ _)]
  exact Attempt.on_bind_of_error (on_settle_of_fault hc) _

/-- The error of the collection comes before that of the transport. -/
theorem on_stop_of_collected {collected halted : Except Error Unit}
    (hs : session.state = .started)
    (hc : collectArrivals.on session.announceStop = (collected.mapError .error, next))
    (hh : PageTransport.stop next.transport = (halted, transport)) :
    ∃ log, stop.on session = ((collected.bind fun _ => halted).mapError .error, { next with
      state := .stopped, flow := next.flow.promote.2.finish.2, transport := transport,
      log := log }) := by
  have hc := on_settle hc
  have hh : (settle (call PageTransport.stop)).on { next with flow := next.flow.promote.2 } =
      (.ok halted, { next with flow := next.flow.promote.2, transport := transport }) :=
    on_settle (by simp [hh])
  rw [stop, Attempt.on_bind_of_ok (Attempt.on_get _)]
  simp only [hs]
  rw [Attempt.on_bind_of_ok (on_info _ _)]
  unfold announceStop at hc
  rw [Attempt.on_bind_of_ok hc, Attempt.on_bind_of_ok (on_updateFlow _ _),
    Attempt.on_bind_of_ok hh, Attempt.on_bind_of_ok (on_updateFlow _ _)]
  dsimp only
  split <;> cases collected <;> simp [Attempt.on_bind, Except.bind]

theorem on_push_of_stopped {superpage : Dma.Superpage} (hs : session.state = .stopped) :
    (push superpage).on session = (.error (.error (.dma .notStarted)), session) := by
  simp [push, Attempt.on_bind, hs]

theorem on_push_of_outside {superpage : Dma.Superpage} (hs : session.state = .started)
    (hb : isInBuffer session.config.buffer.size superpage = false) :
    (push superpage).on session = (.error (.error (.dma (.outOfRange superpage.offset
      superpage.size session.config.buffer.size))), session) := by
  simp [push, Attempt.on_bind, hs, hb]

theorem on_push_of_misaligned {superpage : Dma.Superpage} (hs : session.state = .started)
    (hb : isInBuffer session.config.buffer.size superpage = true)
    (ha : superpage.offset % offsetAlignment ≠ 0) :
    (push superpage).on session =
      (.error (.error (.dma (.misalignedOffset superpage.offset))), session) := by
  simp [push, Attempt.on_bind, hs, hb, ha]

theorem on_push_of_refused {superpage : Dma.Superpage} {dmaError : DmaError}
    (hs : session.state = .started)
    (hb : isInBuffer session.config.buffer.size superpage = true)
    (ha : superpage.offset % offsetAlignment = 0)
    (ht : session.flow.tracker.push superpage = .error dmaError) :
    (push superpage).on session = (.error (.error (.dma dmaError)), session) := by
  simp [push, Attempt.on_bind, hs, hb, ha, ht]

/-- An accepted superpage stays accepted, whatever comes of handing out its pages. -/
theorem on_push_of_accepted {superpage : Dma.Superpage} {tracker : Dma.Tracker}
    {refilled : Except Error Unit} (hs : session.state = .started)
    (hb : isInBuffer session.config.buffer.size superpage = true)
    (ha : superpage.offset % offsetAlignment = 0)
    (ht : session.flow.tracker.push superpage = .ok tracker)
    (hr : refill.on { session with flow := { session.flow with tracker := tracker } } =
      (refilled.mapError .error, next)) :
    ∃ log, (push superpage).on session = (.ok (), { next with log := log }) := by
  have hn : session.state ≠ .stopped := by simp [hs]
  have hr := on_settle hr
  rw [push, Attempt.on_bind_of_ok (Attempt.on_get _)]
  simp only [hn, hb, ha, ht, if_false, Bool.not_true, Bool.false_eq_true, ne_eq, not_true_eq_false]
  rw [Attempt.on_bind_of_ok (on_updateFlow _ _), Attempt.on_bind_of_ok hr]
  cases refilled with
  | ok _ => exact ⟨next.log, rfl⟩
  | error error => exact ⟨_, on_warn _ _⟩

theorem on_fill_of_stopped (hs : session.state = .stopped) :
    fill.on session = (.error (.error (.dma .notStarted)), session) := by
  simp [fill, Attempt.on_bind, hs]

theorem on_fill_of_uncollected {failure : Failure} (hs : session.state = .started)
    (hc : collectArrivals.on session = (.error failure, next)) :
    fill.on session = (.error failure, next) := by
  simp [fill, Attempt.on_bind, hs, hc]

theorem on_fill_of_collected {middle : Session ρ τ} {refilled : Except Error Unit}
    (hs : session.state = .started)
    (hc : collectArrivals.on session = (.ok (), middle))
    (hr : refill.on { middle with flow := middle.flow.promote.2 } =
      (refilled.mapError .error, next)) :
    fill.on session =
      ((refilled.map fun _ => middle.flow.promote.1).mapError .error, next) := by
  cases refilled <;> simp [fill, Attempt.on_bind, hs, hc, hr, Except.map]

end Readout.Session
