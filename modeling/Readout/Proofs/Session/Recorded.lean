import Readout.Channel.Recorder
import Readout.Proofs.Session.Likeness

/-!
A session does over a view of a transport what it does over the transport itself, and a recorder is
seen as the transport that it stands before. So the record of a session over a recorder tells which
calls the session makes on its transport.
-/

namespace Readout

/-- The error that the call was answered with. -/
def TransportCall.error? : TransportCall → Option Error
  | .start (.error error) => some error
  | .stop (.error error) => some error
  | .push _ (.error error) => some error
  | .poll _ (.error error) => some error
  | _ => none

/-- One transport seen as another: what is called on the view is called on the transport itself. -/
structure IsView {τ σ : Type} [PageTransport τ] [PageTransport σ] (view : τ → σ) : Prop where
  start : ∀ transport, PageTransport.start (view transport) =
    ((PageTransport.start transport).1, view (PageTransport.start transport).2)
  stop : ∀ transport, PageTransport.stop (view transport) =
    ((PageTransport.stop transport).1, view (PageTransport.stop transport).2)
  pushPage : ∀ transport page, PageTransport.pushPage (view transport) page =
    ((PageTransport.pushPage transport page).1, view (PageTransport.pushPage transport page).2)
  pollPage : ∀ transport page, PageTransport.pollPage (view transport) page =
    ((PageTransport.pollPage transport page).1, view (PageTransport.pollPage transport page).2)

namespace Recorder

variable {τ : Type}

/-- The recorder with earlier calls in front of its own. -/
def behind (earlier : List TransportCall) (recorder : Recorder τ) : Recorder τ :=
  ⟨recorder.transport, earlier ++ recorder.calls⟩

theorem keep_behind {α : Type} (earlier : List TransportCall) (recorder : Recorder τ)
    (call : Except Error α → TransportCall) (outcome : Except Error α × τ) :
    (recorder.behind earlier).keep call outcome =
      ((recorder.keep call outcome).1, (recorder.keep call outcome).2.behind earlier) := by
  simp [keep, behind]

variable [PageTransport τ] {recorder next : Recorder τ} {page : Dma.Page}

/-- A recorder is seen without its record as the transport that it stands before. -/
theorem isView_transport : IsView (Recorder.transport : Recorder τ → τ) :=
  ⟨fun _ => rfl, fun _ => rfl, fun _ _ => rfl, fun _ _ => rfl⟩

theorem isView_behind (earlier : List TransportCall) :
    IsView (behind earlier : Recorder τ → Recorder τ) :=
  ⟨fun _ => keep_behind _ _ _ _, fun _ => keep_behind _ _ _ _, fun _ _ => keep_behind _ _ _ _,
    fun _ _ => keep_behind _ _ _ _⟩

theorem calls_start {answer : Except Error Unit}
    (h : PageTransport.start recorder = (answer, next)) :
    next.calls = recorder.calls ++ [.start answer] := by
  obtain ⟨rfl, rfl⟩ := Prod.mk.inj h
  rfl

theorem calls_stop {answer : Except Error Unit}
    (h : PageTransport.stop recorder = (answer, next)) :
    next.calls = recorder.calls ++ [.stop answer] := by
  obtain ⟨rfl, rfl⟩ := Prod.mk.inj h
  rfl

theorem calls_pushPage {answer : Except Error Unit}
    (h : PageTransport.pushPage recorder page = (answer, next)) :
    next.calls = recorder.calls ++ [.push page answer] := by
  obtain ⟨rfl, rfl⟩ := Prod.mk.inj h
  rfl

theorem calls_pollPage {answer : Except Error (Option Nat)}
    (h : PageTransport.pollPage recorder page = (answer, next)) :
    next.calls = recorder.calls ++ [.poll page answer] := by
  obtain ⟨rfl, rfl⟩ := Prod.mk.inj h
  rfl

end Recorder

namespace Session

variable {ρ τ σ α : Type}

/-- The session over a transport that keeps the calls from now on. -/
def recorded (session : Session ρ τ) : Session ρ (Recorder τ) :=
  ⟨session.config, session.lock, session.state, session.flow, .on session.transport, session.port,
    session.log⟩

/-- The session without the record of its calls. -/
def unrecorded (session : Session ρ (Recorder τ)) : Session ρ τ :=
  ⟨session.config, session.lock, session.state, session.flow, session.transport.transport,
    session.port, session.log⟩

/-- The session over the transport that its own is seen as. -/
def through (view : τ → σ) (session : Session ρ τ) : Session ρ σ :=
  ⟨session.config, session.lock, session.state, session.flow, view session.transport, session.port,
    session.log⟩

@[simp] theorem state_through (view : τ → σ) (session : Session ρ τ) :
    (session.through view).state = session.state := rfl

variable {view : τ → σ}

/-- A call on the view is a call on the transport that is seen. -/
theorem matches_call_through {f : τ → Except Error α × τ} {g : σ → Except Error α × σ}
    (h : ∀ transport, g (view transport) = ((f transport).1, view (f transport).2)) :
    Attempt.Matches (fun (session : Session ρ τ) twin => twin = session.through view) (call f)
      (call g) := by
  rintro session _ rfl
  have hg : g (session.through view).transport = _ := h session.transport
  rw [on_call, on_call, hg]
  exact ⟨rfl, rfl⟩

variable [PageTransport τ] [PageTransport σ]

/-- A session over a view is like the session over the transport that is seen. -/
theorem likeness_through (hv : IsView view) :
    Likeness fun (session : Session ρ τ) twin => twin = session.through view := by
  constructor
  case config_eq | state_eq | flow_eq =>
    rintro session _ rfl
    rfl
  case withLog | withState | withFlow =>
    rintro session _ rfl value
    rfl
  case callStart => exact matches_call_through hv.start
  case callStop => exact matches_call_through hv.stop
  case callPushPage => exact fun page => matches_call_through (hv.pushPage · page)
  case callPollPage => exact fun page => matches_call_through (hv.pollPage · page)

/-- A call on a session gives and leaves the same over a view of its transport. -/
theorem perform_through (hv : IsView view) (operation : Operation) (session : Session ρ τ) :
    (session.through view).perform operation =
      ((session.perform operation).1, (session.perform operation).2.through view) := by
  obtain ⟨hresult, hnext⟩ := (likeness_through hv).perform rfl operation
  exact Prod.ext hresult hnext

theorem run_through (hv : IsView view) (operations : List Operation) (session : Session ρ τ) :
    (session.through view).run operations =
      (session.run operations).map fun (history, last) => (history, last.through view) := by
  induction operations generalizing session with
  | nil => rfl
  | cons operation rest ih =>
    have hp := perform_through hv operation session
    simp only [run, hp]
    rcases session.perform operation with ⟨fault | answer, next⟩
    · rfl
    · simp only [ih]
      rcases next.run rest with fault | ⟨history, last⟩ <;> rfl

/-- A call on a session gives and leaves the same with and without the record. -/
theorem perform_unrecorded (operation : Operation) (session : Session ρ (Recorder τ)) :
    session.unrecorded.perform operation =
      ((session.perform operation).1, (session.perform operation).2.unrecorded) :=
  perform_through Recorder.isView_transport operation session

theorem run_unrecorded (operations : List Operation) (session : Session ρ (Recorder τ)) :
    session.unrecorded.run operations =
      (session.run operations).map fun (history, last) => (history, last.unrecorded) :=
  run_through Recorder.isView_transport operations session

/-- The calls that the session makes on its transport during one call on it, oldest first. -/
def callsOf (operation : Operation) (session : Session ρ τ) : List TransportCall :=
  (session.recorded.perform operation).2.transport.calls

/-- The calls that the session makes on its transport during a run that no fault ends. -/
def calls (operations : List Operation) (session : Session ρ τ) : List TransportCall :=
  match session.recorded.run operations with
  | .ok (_, last) => last.transport.calls
  | .error _ => []

/-- A call on a session adds to an earlier record the calls that it makes. -/
theorem calls_perform (operation : Operation) (session : Session ρ (Recorder τ)) :
    (session.perform operation).2.transport.calls =
      session.transport.calls ++ session.unrecorded.callsOf operation := by
  have hsession : session = session.unrecorded.recorded.through (.behind session.transport.calls) := by
    obtain ⟨config, lock, state, flow, ⟨transport, calls⟩, port, log⟩ := session
    simp [unrecorded, recorded, through, Recorder.behind, Recorder.on]
  conv_lhs => rw [hsession, perform_through (Recorder.isView_behind _)]
  rfl

/-- A call on a session over its transport is one over the recorder, which keeps what it makes. -/
theorem exists_perform_of_unrecorded {session : Session ρ (Recorder τ)} {next : Session ρ τ}
    {operation : Operation} {result : Except Dma.FlowFault (Except Error Answer)}
    (h : session.unrecorded.perform operation = (result, next)) :
    ∃ twin, session.perform operation = (result, twin) ∧ twin.unrecorded = next ∧
      twin.transport.calls =
        session.transport.calls ++ session.unrecorded.callsOf operation := by
  obtain ⟨h1, h2⟩ := Prod.mk.inj ((perform_unrecorded operation session).symm.trans h)
  exact ⟨_, Prod.ext h1 rfl, h2, calls_perform operation session⟩

theorem exists_recorded_of_perform {session next : Session ρ τ} {operation : Operation}
    {result : Except Dma.FlowFault (Except Error Answer)}
    (h : session.perform operation = (result, next)) :
    ∃ twin, session.recorded.perform operation = (result, twin) ∧ twin.unrecorded = next ∧
      twin.transport.calls = session.callsOf operation :=
  @exists_perform_of_unrecorded _ _ _ session.recorded _ _ _ h

theorem exists_recorded_of_run {session last : Session ρ τ} {operations : List Operation}
    {history : History} (h : session.run operations = .ok (history, last)) :
    ∃ twin, session.recorded.run operations = .ok (history, twin) ∧ twin.unrecorded = last ∧
      twin.transport.calls = session.calls operations := by
  have hr := (run_unrecorded operations session.recorded).symm.trans h
  obtain ⟨⟨reached, twin⟩, ht, he⟩ := exists_of_map_eq_ok hr
  obtain ⟨rfl, rfl⟩ := Prod.mk.inj he
  exact ⟨twin, ht, rfl, by rw [calls, ht]⟩

end Session

end Readout
