import Readout.Proofs.Session.Collection

/-!
The course that a call on a session takes: it is not allowed, it has no use for what has landed, or
it collects that first. An error of the call is then its own, its transport's or the collection's.
-/

namespace Readout.Session

variable {ρ τ : Type}

/-- The call is not allowed in this state of the session or of its queues. -/
inductive Disallows (session : Session ρ τ) : Operation → DmaError → Prop where
  | stopped {operation : Operation} :
      session.state = .stopped → Disallows session operation .notStarted
  | outside {superpage : Dma.Superpage} :
      isInBuffer session.config.buffer.size superpage = false →
      Disallows session (.push superpage)
        (.outOfRange superpage.offset superpage.size session.config.buffer.size)
  | misaligned {superpage : Dma.Superpage} :
      superpage.offset % offsetAlignment ≠ 0 →
      Disallows session (.push superpage) (.misalignedOffset superpage.offset)
  | refused {superpage : Dma.Superpage} {error : DmaError} :
      session.flow.tracker.push superpage = .error error →
      Disallows session (.push superpage) error
  | empty {error : DmaError} :
      session.flow.tracker.pop = .error error → Disallows session .pop error

/-- A fill or a stop has no fault to find with how it is called but that the session is stopped. -/
theorem Disallows.eq_notStarted {session : Session ρ τ} {operation : Operation} {error : DmaError}
    (h : session.Disallows operation error) (ho : operation = .fill ∨ operation = .stop) :
    error = .notStarted := by
  rcases ho with rfl | rfl
  · cases h
    rfl
  · cases h
    rfl

variable {session middle next : Session ρ (Recorder τ)} {call : TransportCall} {error : Error}

/-- The calls that lead from one session to the other report no page. -/
def Unreported (session next : Session ρ (Recorder τ)) : Prop :=
  ∃ more, next.transport.calls = session.transport.calls ++ more ∧ reportsIn more = []

theorem Unreported.of_calls (h : next.transport.calls = session.transport.calls) :
    session.Unreported next :=
  ⟨[], by rw [h, List.append_nil], rfl⟩

theorem Unreported.of_call (h : next.transport.calls = session.transport.calls ++ [call])
    (hr : call.report? = none) : session.Unreported next :=
  ⟨[call], h, by simp [reportsIn, hr]⟩

theorem Unreported.trans (h : session.Unreported middle) (hn : middle.Unreported next) :
    session.Unreported next := by
  obtain ⟨calls, hcalls, hnone⟩ := h
  obtain ⟨more, hmore, hlast⟩ := hn
  refine ⟨calls ++ more, ?_, ?_⟩
  · rw [hmore, hcalls, List.append_assoc]
  · rw [reportsIn_append, hnone, hlast]
    rfl

/-- One of the calls that lead from one session to the other was answered with the error. -/
def Answered (error : Error) (session next : Session ρ (Recorder τ)) : Prop :=
  ∃ more, next.transport.calls = session.transport.calls ++ more ∧
    ∃ call ∈ more, call.error? = some error

theorem Answered.of_call (h : next.transport.calls = session.transport.calls ++ [call])
    (he : call.error? = some error) : Answered error session next :=
  ⟨[call], h, call, List.mem_singleton_self call, he⟩

theorem Answered.after (h : Answered error middle next)
    (hm : session.transport.calls <+: middle.transport.calls) : Answered error session next := by
  obtain ⟨calls, hcalls⟩ := hm
  obtain ⟨more, hmore, call, hc, he⟩ := h
  exact ⟨calls ++ more, by rw [hmore, ← hcalls, List.append_assoc], call,
    List.mem_append_right _ hc, he⟩

theorem Answered.before (h : Answered error session middle)
    (hn : middle.transport.calls <+: next.transport.calls) : Answered error session next := by
  obtain ⟨calls, hcalls, call, hc, he⟩ := h
  obtain ⟨more, hmore⟩ := hn
  exact ⟨calls ++ more, by rw [← hmore, hcalls, List.append_assoc], call,
    List.mem_append_left _ hc, he⟩

variable [PageTransport τ]

/-- Handing out reports nothing, and fails only where the transport refuses a page. -/
theorem unreported_of_pushPages {result : Except Failure Unit} {n : Nat}
    (h : (pushPages n).on session = (result, next)) :
    session.Unreported next ∧
      ∀ error, result = .error (.error error) → Answered error session next := by
  induction n generalizing session with
  | zero =>
    obtain ⟨rfl, rfl⟩ := Prod.mk.inj h
    exact ⟨.of_calls rfl, nofun⟩
  | succ n ih =>
    cases hn : session.flow.nextPage? with
    | none =>
      obtain ⟨rfl, rfl⟩ := Prod.mk.inj ((pushPages_of_none _ hn).symm.trans h)
      exact ⟨.of_calls rfl, nofun⟩
    | some page =>
      rcases hp : PageTransport.pushPage session.transport page with ⟨refusal | _, transport⟩
      · obtain ⟨rfl, rfl⟩ := Prod.mk.inj ((pushPages_of_refused hn hp).symm.trans h)
        refine ⟨.of_call (Recorder.calls_pushPage hp) rfl, ?_⟩
        rintro error ⟨⟩
        exact .of_call (Recorder.calls_pushPage hp) rfl
      · have hf := Dma.Flow.handOut_of_nextPage hn
        obtain ⟨hnone, hanswered⟩ := ih ((pushPages_of_taken hn hp hf).symm.trans h)
        have htaken := Recorder.calls_pushPage hp
        refine ⟨(Unreported.of_call htaken rfl).trans hnone, fun error he => ?_⟩
        exact (hanswered error he).after ⟨_, htaken.symm⟩

/-- The course of a call, with its result and the session that it leaves. -/
inductive Course (session : Session ρ (Recorder τ)) (operation : Operation) :
    Except Dma.FlowFault (Except Error Answer) × Session ρ (Recorder τ) → Prop where
  | disallowed {error : DmaError} :
      session.Disallows operation error →
      Course session operation (.ok (.error (.dma error)), session)
  | plain {answer : Except Error Answer} {next : Session ρ (Recorder τ)} :
      session.Unreported next →
      (∀ error, answer = .error error → Answered error session next) →
      Course session operation (.ok answer, next)
  | stuck {log : Log} {fault : Dma.FlowFault} {next : Session ρ (Recorder τ)} :
      session.state = .started →
      collectArrivals.on { session with log := log } = (.error (.fault fault), next) →
      Course session operation (.error fault, next)
  | failed {log : Log} {error : Error} {middle next : Session ρ (Recorder τ)} :
      session.state = .started →
      collectArrivals.on { session with log := log } = (.error (.error error), middle) →
      middle.Unreported next →
      Course session operation (.ok (.error error), next)
  | collected {log : Log} {answer : Except Error Answer} {middle next : Session ρ (Recorder τ)} :
      session.state = .started →
      collectArrivals.on { session with log := log } = (.ok (), middle) →
      middle.Unreported next →
      (∀ error, answer = .error error → Answered error middle next) →
      Course session operation (.ok answer, next)

theorem course_start (session : Session ρ (Recorder τ)) :
    Course session .start (session.perform .start) := by
  rw [perform]
  obtain hs | hs := stopped_or_started session
  · rcases ha : PageTransport.start session.transport with ⟨error | _, transport⟩
    · obtain ⟨log, hl⟩ := on_start_of_error hs ha
      rw [hl]
      refine .plain (.of_call (Recorder.calls_start ha) rfl) ?_
      rintro error ⟨⟩
      exact .of_call (Recorder.calls_start ha) rfl
    · obtain ⟨log, hl⟩ := on_start_of_ok hs ha
      rw [hl]
      exact .plain (.of_call (Recorder.calls_start ha) rfl) nofun
  · obtain ⟨log, hl⟩ := on_start_of_started hs
    rw [hl]
    exact .plain (.of_calls rfl) nofun

theorem course_stop (session : Session ρ (Recorder τ)) :
    Course session .stop (session.perform .stop) := by
  rw [perform]
  obtain hs | hs := stopped_or_started session
  · obtain ⟨log, hl⟩ := on_stop_of_stopped hs
    rw [hl]
    exact .plain (.of_calls rfl) nofun
  · rcases hc : collectArrivals.on session.announceStop with ⟨collected, middle⟩
    rcases hh : PageTransport.stop middle.transport with ⟨halted, transport⟩
    have hquiet (last : Session ρ (Recorder τ)) (hlast : last.transport = transport) :
        middle.Unreported last := by
      rw [← hlast] at hh
      exact .of_call (Recorder.calls_stop hh) rfl
    rcases collected with (error | fault) | _
    · obtain ⟨log, hl⟩ := @on_stop_of_collected _ _ _ _ _ _ (.error error) halted hs hc hh
      rw [hl]
      exact .failed hs hc (hquiet _ rfl)
    · rw [on_stop_of_fault hs hc]
      exact .stuck hs hc
    · obtain ⟨log, hl⟩ := @on_stop_of_collected _ _ _ _ _ _ (.ok ()) halted hs hc hh
      rw [hl]
      cases halted with
      | ok _ => exact .collected hs hc (hquiet _ rfl) nofun
      | error error =>
        refine .collected hs hc (hquiet _ rfl) ?_
        rintro error ⟨⟩
        exact .of_call (Recorder.calls_stop hh) rfl

theorem course_push (session : Session ρ (Recorder τ)) (superpage : Dma.Superpage) :
    Course session (.push superpage) (session.perform (.push superpage)) := by
  rw [perform]
  obtain hs | hs := stopped_or_started session
  · rw [on_push_of_stopped hs]
    exact .disallowed (.stopped hs)
  · cases hb : isInBuffer session.config.buffer.size superpage with
    | false =>
      rw [on_push_of_outside hs hb]
      exact .disallowed (.outside hb)
    | true =>
      by_cases ha : superpage.offset % offsetAlignment = 0
      · cases ht : session.flow.tracker.push superpage with
        | error dmaError =>
          rw [on_push_of_refused hs hb ha ht]
          exact .disallowed (.refused ht)
        | ok tracker =>
          obtain ⟨refilled, last, hr, -⟩ := Account.pushPages_path
            { session with flow := { session.flow with tracker := tracker } } .empty
            session.flow.ring.free hs
          obtain ⟨log, hl⟩ := on_push_of_accepted hs hb ha ht hr
          rw [hl]
          exact .plain (unreported_of_pushPages hr).1 nofun
      · rw [on_push_of_misaligned hs hb ha]
        exact .disallowed (.misaligned ha)

theorem course_fill (session : Session ρ (Recorder τ)) :
    Course session .fill (session.perform .fill) := by
  rw [perform]
  obtain hs | hs := stopped_or_started session
  · rw [on_fill_of_stopped hs]
    exact .disallowed (.stopped hs)
  · rcases hc : collectArrivals.on session with ⟨(error | fault) | _, middle⟩
    · rw [on_fill_of_uncollected hs hc]
      exact .failed hs hc (.of_calls rfl)
    · rw [on_fill_of_uncollected hs hc]
      exact .stuck hs hc
    · have hm : middle.state = .started :=
        (@Account.collect_path _ _ _ _ session .empty (.ok ()) hs hc).1
      obtain ⟨refilled, last, hf, -⟩ := Account.pushPages_path
        { middle with flow := middle.flow.promote.2 } .empty middle.flow.promote.2.ring.free hm
      obtain ⟨hquiet, hanswered⟩ := unreported_of_pushPages hf
      rw [on_fill_of_collected hs hc hf]
      cases refilled with
      | ok _ => exact .collected hs hc hquiet nofun
      | error error =>
        refine .collected hs hc hquiet ?_
        rintro error ⟨⟩
        exact hanswered error rfl

theorem course_pop (session : Session ρ (Recorder τ)) :
    Course session .pop (session.perform .pop) := by
  rw [perform]
  cases hp : session.flow.tracker.pop with
  | error dmaError =>
    rw [on_pop_of_error hp]
    exact .disallowed (.empty hp)
  | ok popped =>
    rw [on_pop_of_ok hp]
    exact .plain (.of_calls rfl) nofun

theorem course (session : Session ρ (Recorder τ)) (operation : Operation) :
    Course session operation (session.perform operation) := by
  cases operation with
  | start => exact course_start session
  | stop => exact course_stop session
  | push superpage => exact course_push session superpage
  | fill => exact course_fill session
  | pop => exact course_pop session

variable {config : ChannelConfig} {operation : Operation}
  {result : Except Dma.FlowFault (Except Error Answer)} {more : List TransportCall}

/-- An error of a call is the transport's, that of a call which is not allowed, or a refusal of the
last page that is reported to the call. -/
theorem error_cases_of_perform (h : session.perform operation = (.ok (.error error), next)) :
    Answered error session next ∨
      (∃ dmaError, error = .dma dmaError ∧ session.Disallows operation dmaError) ∨
      session.state = .started ∧ ∃ log more reports report dmaError,
        next.transport.calls = session.transport.calls ++ more ∧
        reportsIn more = reports ++ [report] ∧ error = .dma dmaError ∧
        Account.Landing { session with log := log } reports report (.ok (.error dmaError)) := by
  have hcourse := course session operation
  rw [h] at hcourse
  cases hcourse with
  | disallowed hd => exact .inr (.inl ⟨_, rfl, hd⟩)
  | plain _ ha => exact .inl (ha error rfl)
  | @failed log _ middle _ hs hm hquiet =>
    obtain ⟨polls, hpolls, -, collection⟩ := Account.exists_collection hm
    obtain ⟨last, hlast, hnone⟩ := hquiet
    dsimp only at hpolls
    rcases collection.error_cases rfl with
      ⟨call, hc, he⟩ | ⟨reports, report, dmaError, hreports, he, hl⟩
    · have hanswered : Answered error session middle := ⟨polls, hpolls, call, hc, he⟩
      exact .inl (hanswered.before ⟨last, hlast.symm⟩)
    · refine .inr (.inr ⟨hs, log, polls ++ last, reports, report, dmaError, ?_, ?_, he, hl⟩)
      · rw [hlast, hpolls, List.append_assoc]
      · rw [reportsIn_append, hnone, List.append_nil, hreports]
  | collected _ hm _ ha =>
    obtain ⟨polls, hpolls, -⟩ := Account.exists_collection hm
    exact .inl ((ha error rfl).after ⟨polls, hpolls.symm⟩)

/-- A page that is too long fails the call that it is reported to. -/
theorem overrun_of_perform (hc : session.Coherent config)
    (h : session.perform operation = (result, next))
    (hmore : next.transport.calls = session.transport.calls ++ more) {report : Dma.Report}
    (hr : report ∈ reportsIn more) (hlong : config.pageSize < report.length) :
    result = .ok (.error (.dma (.pageOverrun report.length config.pageSize))) := by
  have hcourse := course session operation
  rw [h] at hcourse
  have fails {log : Log} {outcome : Except Failure Unit} {middle : Session ρ (Recorder τ)}
      (hs : session.state = .started)
      (hm : collectArrivals.on { session with log := log } = (outcome, middle))
      (hquiet : middle.Unreported next) :
      outcome = .error (.error (.dma (.pageOverrun report.length config.pageSize))) := by
    obtain ⟨polls, hpolls, -, collection⟩ := Account.exists_collection hm
    obtain ⟨last, hlast, hnone⟩ := hquiet
    have hnoted : ({ session with log := log } : Session ρ (Recorder τ)).Coherent config :=
      hc.of_flow rfl rfl
    rw [hlast, hpolls, List.append_assoc] at hmore
    rw [← List.append_cancel_left hmore, reportsIn_append, hnone, List.append_nil] at hr
    exact collection.overrun hnoted hs hr hlong
  have silent (hnone : session.Unreported next) : False := by
    obtain ⟨last, hlast, hnone⟩ := hnone
    rw [← List.append_cancel_left (hlast.symm.trans hmore), hnone] at hr
    exact absurd hr List.not_mem_nil
  cases hcourse with
  | disallowed _ => exact (silent (.of_calls rfl)).elim
  | plain hquiet _ => exact (silent hquiet).elim
  | stuck hs hm =>
    have ho := fails hs hm (.of_calls rfl)
    simp at ho
  | failed hs hm hquiet =>
    have ho := fails hs hm hquiet
    rw [Except.error.injEq, Failure.error.injEq] at ho
    rw [ho]
  | collected hs hm hquiet _ =>
    have ho := fails hs hm hquiet
    simp at ho

end Readout.Session
