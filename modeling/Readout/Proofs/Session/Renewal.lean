import Readout.Proofs.Session.Kept
import Readout.Proofs.Session.Moment
import Readout.Simulation.ScriptedTransport

/-!
A start that the transport grants leaves nothing of what came before it. Whatever the calls on a
session have come to, a later start brings it to where the first start of a session that has just
been opened leads; from there on both do the same, for as long as their transports answer alike.
-/

namespace Readout

open Dma

theorem Dma.Tracker.clear_pageArrived (tracker : Tracker) (length : Nat) :
    (tracker.pageArrived length).2.clear = tracker.clear := by
  unfold pageArrived
  split <;> rfl

theorem Dma.Flow.clear_of_land {flow next : Flow} {page : Page} {length : Nat}
    {credited : Except DmaError Unit} (h : flow.land page length = (.ok credited, next)) :
    next.clear = flow.clear := by
  obtain ⟨hcapacity, -⟩ := sizes_of_land h
  unfold clear
  rw [tracker_of_land h, Tracker.clear_pageArrived, Ring.reset, hcapacity, Ring.reset]

/-- Transports that no call can tell apart: they answer alike now and after every answer. -/
structure Accord {τ σ : Type} [PageTransport τ] [PageTransport σ] (accord : τ → σ → Prop) :
    Prop where
  start : ∀ {transport other}, accord transport other →
    (PageTransport.start other).1 = (PageTransport.start transport).1 ∧
      accord (PageTransport.start transport).2 (PageTransport.start other).2
  stop : ∀ {transport other}, accord transport other →
    (PageTransport.stop other).1 = (PageTransport.stop transport).1 ∧
      accord (PageTransport.stop transport).2 (PageTransport.stop other).2
  pushPage : ∀ {transport other}, accord transport other → ∀ page,
    (PageTransport.pushPage other page).1 = (PageTransport.pushPage transport page).1 ∧
      accord (PageTransport.pushPage transport page).2 (PageTransport.pushPage other page).2
  pollPage : ∀ {transport other}, accord transport other → ∀ page,
    (PageTransport.pollPage other page).1 = (PageTransport.pollPage transport page).1 ∧
      accord (PageTransport.pollPage transport page).2 (PageTransport.pollPage other page).2

namespace Accord

variable {τ σ : Type} {accord : τ → σ → Prop}

/-- A transport answers like itself. -/
theorem of_eq [PageTransport τ] : Accord (Eq : τ → τ → Prop) := by
  constructor
  case start | stop =>
    rintro transport _ rfl
    exact ⟨rfl, rfl⟩
  case pushPage | pollPage =>
    rintro transport _ rfl page
    exact ⟨rfl, rfl⟩

/-- Calls with the same answers make the same record. -/
theorem keep {α : Type} {recorder : Recorder τ} {other : Recorder σ}
    (hc : other.calls = recorder.calls) (call : Except Error α → TransportCall)
    {outcome : Except Error α × τ} {result : Except Error α × σ}
    (h : result.1 = outcome.1 ∧ accord outcome.2 result.2) :
    (other.keep call result).1 = (recorder.keep call outcome).1 ∧
      (other.keep call result).2.calls = (recorder.keep call outcome).2.calls ∧
      accord (recorder.keep call outcome).2.transport (other.keep call result).2.transport := by
  obtain ⟨hresult, hafter⟩ := h
  refine ⟨hresult, ?_, hafter⟩
  rw [Recorder.calls_keep, Recorder.calls_keep, hc, hresult]

theorem recorded [PageTransport τ] [PageTransport σ] (h : Accord accord) :
    Accord fun (recorder : Recorder τ) (other : Recorder σ) =>
      other.calls = recorder.calls ∧ accord recorder.transport other.transport := by
  constructor
  · rintro recorder other ⟨hc, ha⟩
    exact keep hc .start (h.start ha)
  · rintro recorder other ⟨hc, ha⟩
    exact keep hc .stop (h.stop ha)
  · rintro recorder other ⟨hc, ha⟩ page
    exact keep hc (.push page) (h.pushPage ha page)
  · rintro recorder other ⟨hc, ha⟩ page
    exact keep hc (.poll page) (h.pollPage ha page)

end Accord

namespace Session

variable {ρ ρ' τ σ α : Type} {session last : Session ρ τ} {fresh : Session ρ' σ}

/-- The sessions stand at the same place of their runs, over transports in accord. -/
structure Twins (accord : τ → σ → Prop) (session : Session ρ τ) (twin : Session ρ' σ) : Prop where
  config_eq : twin.config = session.config
  state_eq : twin.state = session.state
  flow_eq : twin.flow = session.flow
  accord : accord session.transport twin.transport

theorem matches_call {accord : τ → σ → Prop} {f : τ → Except Error α × τ}
    {g : σ → Except Error α × σ}
    (h : ∀ {transport other}, accord transport other →
      (g other).1 = (f transport).1 ∧ accord (f transport).2 (g other).2) :
    Attempt.Matches (Twins accord : Session ρ τ → Session ρ' σ → Prop) (call f) (call g) := by
  intro session twin ht
  obtain ⟨hresult, hafter⟩ := h ht.accord
  rw [on_call, on_call, hresult]
  exact ⟨rfl, ht.config_eq, ht.state_eq, ht.flow_eq, hafter⟩

variable [PageTransport τ] [PageTransport σ]

theorem likeness_twins {accord : τ → σ → Prop} (h : Accord accord) :
    Likeness (Twins accord : Session ρ τ → Session ρ' σ → Prop) := by
  constructor
  case config_eq => exact Twins.config_eq
  case state_eq => exact Twins.state_eq
  case flow_eq => exact Twins.flow_eq
  case withLog => exact fun ht _ => ⟨ht.config_eq, ht.state_eq, ht.flow_eq, ht.accord⟩
  case withState => exact fun ht _ => ⟨ht.config_eq, rfl, ht.flow_eq, ht.accord⟩
  case withFlow => exact fun ht _ => ⟨ht.config_eq, ht.state_eq, rfl, ht.accord⟩
  case callStart => exact matches_call h.start
  case callStop => exact matches_call h.stop
  case callPushPage => exact fun page => matches_call fun ha => h.pushPage ha page
  case callPollPage => exact fun page => matches_call fun ha => h.pollPage ha page

theorem Likeness.performEach {alike : Session ρ τ → Session ρ' σ → Prop} (h : Likeness alike)
    {session : Session ρ τ} {twin : Session ρ' σ} (ha : alike session twin)
    (operations : List Operation) :
    (twin.performEach operations).1 = (session.performEach operations).1 ∧
      alike (session.performEach operations).2 (twin.performEach operations).2 := by
  induction operations generalizing session twin with
  | nil => exact ⟨rfl, ha⟩
  | cons operation rest ih =>
    obtain ⟨hresult, hnext⟩ := h.perform ha operation
    obtain ⟨hresults, hlast⟩ := ih hnext
    exact ⟨congrArg₂ List.cons hresult hresults, hlast⟩

/-- The calls that the session makes on its transport, also behind a call that a fault ended. -/
def callsEach (operations : List Operation) (session : Session ρ τ) : List TransportCall :=
  (session.recorded.performEach operations).2.transport.calls

/-- Twins answer the same calls alike, pass on the same ones, and end at the same place. -/
theorem Twins.performEach {accord : τ → σ → Prop} {twin : Session ρ' σ}
    (h : Twins accord session twin) (ha : Accord accord) (operations : List Operation) :
    (session.performEach operations).1 = (twin.performEach operations).1 ∧
      session.callsEach operations = twin.callsEach operations ∧
      (session.performEach operations).2.flow = (twin.performEach operations).2.flow ∧
      (session.performEach operations).2.state = (twin.performEach operations).2.state := by
  obtain ⟨hresults, hlast⟩ := (likeness_twins ha).performEach h operations
  have hrecorded : Twins (fun (recorder : Recorder τ) (other : Recorder σ) =>
      other.calls = recorder.calls ∧ accord recorder.transport other.transport)
      session.recorded twin.recorded :=
    ⟨h.config_eq, h.state_eq, h.flow_eq, rfl, h.accord⟩
  obtain ⟨-, hkept⟩ := (likeness_twins ha.recorded).performEach hrecorded operations
  exact ⟨hresults.symm, hkept.accord.1.symm, hlast.flow_eq.symm, hlast.state_eq.symm⟩

/-- Nothing that a call does can be told from what is left when all is cleared. -/
theorem lasting_clear (flow : Flow) :
    Lasting fun session : Session ρ τ => session.flow.clear = flow := by
  constructor
  · intro account after step h
    cases step with
    | note => exact h
    | begin => exact h
    | refuse => exact h
    | accept _ _ _ ht =>
      obtain ⟨-, -, -, -, -, rfl⟩ := Tracker.push_eq_ok_iff.mp ht
      exact h
    | pageRefused => exact h
    | pageTaken _ hn _ hf =>
      obtain ⟨-, rfl⟩ := Prod.mk.inj ((Flow.handOut_of_nextPage hn).symm.trans hf)
      exact h
    | pollFailed => exact h
    | pageOut => exact h
    | pageLanded _ _ _ hf => exact (Flow.clear_of_land hf).trans h
    | promote => exact h
    | finish => exact h
    | pop hp =>
      obtain ⟨ready, -, rfl⟩ := Tracker.pop_eq_ok_iff.mp hp
      exact h
  · intro session page length fault next transport _ hland h
    rcases Flow.eq_of_land_error hland with rfl | rfl
    · exact h
    · rw [← h]
      unfold Flow.clear
      rw [Tracker.clear_pageArrived]

omit [PageTransport τ] in
/-- The rings and the queues of an opened session are those that its configuration asks for. -/
theorem Opened.flow_eq {transport : τ} (h : session.Opened transport) :
    session.flow = .empty session.config.bufferPages
      (.empty session.config.pageSize session.config.transferCapacity
        session.config.readyCapacity) := by
  obtain ⟨-, hfresh⟩ := h.exists_fresh
  exact congrArg Session.flow hfresh

/-- A start that is granted runs with empty rings and queues. -/
theorem exists_perform_start {transport : τ} (hs : session.state = .stopped)
    (ha : PageTransport.start session.transport = (.ok (), transport)) :
    ∃ log, session.perform .start = (.ok (.ok .done), { session with
      state := .started, flow := session.flow.clear, transport := transport, log := log }) := by
  obtain ⟨log, hstart⟩ := on_start_of_ok hs ha
  refine ⟨log, ?_⟩
  show returned (fun _ => .done) (start.on session) = _
  rw [hstart]
  rfl

/--
A start that is granted to a stopped session leads to the same rings, queues, pages in flight and
state as one that is granted to a session just opened with its configuration, whatever was called
before and however those calls ended. What follows has the same results, makes the same calls on the
transport and leaves the same behind, wherever the two transports answer alike.
-/
theorem renewed_of_start {transport after : τ} {other ready : σ} (h : session.Opened transport)
    {operations : List Operation} (hl : (session.performEach operations).2 = last)
    (hs : last.state = .stopped) (ha : PageTransport.start last.transport = (.ok (), after))
    (hf : fresh.Opened other) (hc : fresh.config = session.config)
    (hr : PageTransport.start other = (.ok (), ready)) :
    ∃ next twin, last.perform .start = (.ok (.ok .done), next) ∧
      fresh.perform .start = (.ok (.ok .done), twin) ∧
      next.state = .started ∧ twin.state = .started ∧
      next.flow = twin.flow ∧ next.config = twin.config ∧
      next.transport = after ∧ twin.transport = ready ∧
      ∀ accord : τ → σ → Prop, Accord accord → accord after ready → ∀ further,
        (next.performEach further).1 = (twin.performEach further).1 ∧
        next.callsEach further = twin.callsEach further ∧
        (next.performEach further).2.flow = (twin.performEach further).2.flow ∧
        (next.performEach further).2.state = (twin.performEach further).2.state := by
  have hfresh := hf.exists_fresh.2
  have hstopped : fresh.state = .stopped := congrArg Session.state hfresh
  have hother : fresh.transport = other := congrArg Session.transport hfresh
  obtain ⟨log, hnext⟩ := exists_perform_start hs ha
  obtain ⟨entry, htwin⟩ := exists_perform_start hstopped (hother ▸ hr)
  have hconfig : last.config = session.config :=
    hl ▸ ((lasting_kept session.config session.lock).performEach ⟨rfl, rfl⟩ operations).1
  have hcleared : last.flow.clear = session.flow.clear :=
    hl ▸ (lasting_clear session.flow.clear).performEach rfl operations
  have hflow : last.flow.clear = fresh.flow.clear := by
    rw [hcleared, h.flow_eq, hf.flow_eq, hc]
  have hsame : last.config = fresh.config := hconfig.trans hc.symm
  refine ⟨_, _, hnext, htwin, rfl, rfl, hflow, hsame, rfl, rfl, ?_⟩
  intro accord haccord htransports further
  apply Twins.performEach _ haccord further
  exact ⟨hsame.symm, rfl, hflow.symm, htransports⟩

/-- A page that is longer than the transfer of it, and a stop that fails with another page out. -/
def overrun : List Operation := [.start, .push (.fresh 0 16384), .fill, .stop]

/-- The offset that the earlier run left taken is free again, and its pages begin at the first slot. -/
theorem renewed_of_start_overrun :
    ∃ last next twin,
      ((trial (⟨[9000], none, false, true, false⟩ :
        Simulation.ScriptedTransport)).performEach overrun).2 = last ∧
      last.state = .stopped ∧ last.flow.tracker.isLive 0 = true ∧
      last.perform .start = (.ok (.ok .done), next) ∧
      (trial last.transport).perform .start = (.ok (.ok .done), twin) ∧
      next.flow = twin.flow ∧
      (next.performEach [.push (.fresh 0 8192), .fill]).1 =
        (twin.performEach [.push (.fresh 0 8192), .fill]).1 ∧
      next.callsEach [.push (.fresh 0 8192), .fill] =
        twin.callsEach [.push (.fresh 0 8192), .fill] ∧
      next.callsEach [.push (.fresh 0 8192), .fill] =
        [.push ⟨0, 0, 0, 8192⟩ (.ok ()), .poll ⟨0, 0, 0, 8192⟩ (.ok none)] := by
  generalize hl : ((trial (⟨[9000], none, false, true, false⟩ :
    Simulation.ScriptedTransport)).performEach overrun).2 = last
  have computed : (last.state, last.flow.tracker.isLive 0, last.transport,
      (last.perform .start).2.callsEach [.push (.fresh 0 8192), .fill]) =
      (.stopped, true, ⟨[], none, false, true, false⟩,
        [.push ⟨0, 0, 0, 8192⟩ (.ok ()), .poll ⟨0, 0, 0, 8192⟩ (.ok none)]) := by
    subst hl
    decide +kernel
  simp only [Prod.mk.injEq] at computed
  obtain ⟨hs, hlive, ht, hcalls⟩ := computed
  have ha : PageTransport.start last.transport = (.ok (), last.transport) := by
    rw [ht]
    rfl
  obtain ⟨next, twin, hnext, htwin, -, -, hflow, -, hafter, hready, hsame⟩ :=
    renewed_of_start (opened_trial _) hl hs ha (opened_trial last.transport) rfl ha
  obtain ⟨hresults, hcallsEach, -⟩ :=
    hsame Eq Accord.of_eq rfl [.push (.fresh 0 8192), .fill]
  rw [hnext] at hcalls
  exact ⟨last, next, twin, rfl, hs, hlive, hnext, htwin, hflow, hresults, hcallsEach, hcalls⟩

end Session

end Readout
