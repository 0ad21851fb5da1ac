import Mathlib.Logic.Relation
import Readout.Proofs.Dma.Flow
import Readout.Proofs.Dma.Outcome
import Readout.Proofs.Session.Calls

/-!
The steps that calls on a session are made of: one answer of the transport, or one move of the
superpages, at a time. Every call that returns is a path of such steps, so what each step keeps is
kept by every call.
-/

namespace Readout

/-- A session with the ledger of its superpages. -/
structure Account (ρ τ : Type) where
  session : Session ρ τ
  ledger : Ledger

namespace Account

open Session

variable {ρ τ : Type} [PageTransport τ]

/-- One answer of the transport or one move of the superpages, with what the ledger keeps of it. -/
inductive Step : Account ρ τ → Account ρ τ → Prop where
  | note (session : Session ρ τ) (ledger : Ledger) (log : Log) :
      Step ⟨session, ledger⟩ ⟨{ session with log := log }, ledger⟩
  | begin {session : Session ρ τ} {ledger : Ledger} {transport : τ} :
      session.state = .stopped →
      PageTransport.start session.transport = (.ok (), transport) →
      Step ⟨session, ledger⟩
        ⟨{ session with flow := session.flow.clear, transport := transport, state := .started },
          .empty⟩
  | refuse {session : Session ρ τ} {ledger : Ledger} {transport : τ} {error : Error} :
      session.state = .stopped →
      PageTransport.start session.transport = (.error error, transport) →
      Step ⟨session, ledger⟩
        ⟨{ session with flow := session.flow.clear, transport := transport }, .empty⟩
  | accept {session : Session ρ τ} {ledger : Ledger} {superpage : Dma.Superpage}
      {tracker : Dma.Tracker} :
      session.state = .started →
      isInBuffer session.config.buffer.size superpage = true →
      superpage.offset % offsetAlignment = 0 →
      session.flow.tracker.push superpage = .ok tracker →
      Step ⟨session, ledger⟩
        ⟨{ session with flow := { session.flow with tracker := tracker } },
          ledger.accept superpage⟩
  | pageRefused {session : Session ρ τ} {ledger : Ledger} {page : Dma.Page} {transport : τ}
      {error : Error} :
      session.state = .started →
      session.flow.nextPage? = some page →
      PageTransport.pushPage session.transport page = (.error error, transport) →
      Step ⟨session, ledger⟩ ⟨{ session with transport := transport }, ledger⟩
  | pageTaken {session : Session ρ τ} {ledger : Ledger} {page : Dma.Page} {transport : τ}
      {flow : Dma.Flow} :
      session.state = .started →
      session.flow.nextPage? = some page →
      PageTransport.pushPage session.transport page = (.ok (), transport) →
      session.flow.handOut page = (.ok (), flow) →
      Step ⟨session, ledger⟩ ⟨{ session with transport := transport, flow := flow }, ledger⟩
  | pollFailed {session : Session ρ τ} {ledger : Ledger} {page : Dma.Page} {transport : τ}
      {error : Error} :
      session.state = .started →
      session.flow.inFlight.head? = some page →
      PageTransport.pollPage session.transport page = (.error error, transport) →
      Step ⟨session, ledger⟩ ⟨{ session with transport := transport }, ledger⟩
  | pageOut {session : Session ρ τ} {ledger : Ledger} {page : Dma.Page} {transport : τ} :
      session.state = .started →
      session.flow.inFlight.head? = some page →
      PageTransport.pollPage session.transport page = (.ok none, transport) →
      Step ⟨session, ledger⟩ ⟨{ session with transport := transport }, ledger⟩
  | pageLanded {session : Session ρ τ} {ledger : Ledger} {page : Dma.Page} {transport : τ}
      {length : Nat} {credited : Except DmaError Unit} {flow : Dma.Flow} :
      session.state = .started →
      session.flow.inFlight.head? = some page →
      PageTransport.pollPage session.transport page = (.ok (some length), transport) →
      session.flow.land page length = (.ok credited, flow) →
      Step ⟨session, ledger⟩ ⟨{ session with transport := transport, flow := flow }, ledger⟩
  | promote {session : Session ρ τ} {ledger : Ledger} :
      session.state = .started →
      Step ⟨session, ledger⟩ ⟨{ session with flow := session.flow.promote.2 }, ledger⟩
  | finish {session : Session ρ τ} {ledger : Ledger} {transport : τ} {answer : Except Error Unit} :
      session.state = .started →
      PageTransport.stop session.transport = (answer, transport) →
      Step ⟨session, ledger⟩
        ⟨{ session with
            transport := transport, flow := session.flow.finish.2, state := .stopped }, ledger⟩
  | pop {session : Session ρ τ} {ledger : Ledger} {superpage : Dma.Superpage}
      {tracker : Dma.Tracker} :
      session.flow.tracker.pop = .ok (superpage, tracker) →
      Step ⟨session, ledger⟩
        ⟨{ session with flow := { session.flow with tracker := tracker } }, ledger.pop superpage⟩

/-- One account leads to the other by any number of steps. -/
abbrev Path : Account ρ τ → Account ρ τ → Prop := Relation.ReflTransGen Step

theorem Path.keeps {P : Account ρ τ → Prop} {first last : Account ρ τ}
    (hstep : ∀ {account next : Account ρ τ}, Step account next → P account → P next)
    (path : Path first last) (h : P first) : P last := by
  induction path with
  | refl => exact h
  | tail _ step ih => exact hstep step ih

variable {session next : Session ρ τ} {ledger : Ledger}

/-- How a round of handing pages out comes to its end. -/
inductive PushEnd (session : Session ρ τ) : Except Error Unit × Session ρ τ → Prop where
  | done : PushEnd session (.ok (), session)
  | refused {page : Dma.Page} {error : Error} {transport : τ} :
      session.flow.nextPage? = some page →
      PageTransport.pushPage session.transport page = (.error error, transport) →
      PushEnd session (.error error, { session with transport := transport })

/-- Handing out never faults: the rings are asked for room before each page. -/
theorem pushPages_cases (session : Session ρ τ) (ledger : Ledger) (n : Nat)
    (hs : session.state = .started) :
    ∃ (middle next : Session ρ τ) (result : Except Error Unit),
      middle.state = .started ∧ Path ⟨session, ledger⟩ ⟨middle, ledger⟩ ∧
      PushEnd middle (result, next) ∧ (pushPages n).on session = (result.mapError .error, next) := by
  induction n generalizing session with
  | zero => exact ⟨session, session, .ok (), hs, .refl, .done, rfl⟩
  | succ n ih =>
    cases hn : session.flow.nextPage? with
    | none => exact ⟨session, session, .ok (), hs, .refl, .done, pushPages_of_none _ hn⟩
    | some page =>
      rcases hp : PageTransport.pushPage session.transport page with ⟨error | _, transport⟩
      · exact ⟨session, _, .error error, hs, .refl, .refused hn hp, pushPages_of_refused hn hp⟩
      · have hf := Dma.Flow.handOut_of_nextPage hn
        obtain ⟨middle, next, result, hm, path, ends, hr⟩ :=
          ih { session with transport := transport, flow := _ } hs
        exact ⟨middle, next, result, hm, path.head (.pageTaken hs hn hp hf), ends,
          (pushPages_of_taken hn hp hf).trans hr⟩

theorem pushPages_path (session : Session ρ τ) (ledger : Ledger) (n : Nat)
    (hs : session.state = .started) :
    ∃ (result : Except Error Unit) (next : Session ρ τ),
      (pushPages n).on session = (result.mapError .error, next) ∧
        Path ⟨session, ledger⟩ ⟨next, ledger⟩ := by
  obtain ⟨middle, next, result, hm, path, ends, hr⟩ := pushPages_cases session ledger n hs
  refine ⟨result, next, hr, ?_⟩
  cases ends with
  | done => exact path
  | refused hn hp => exact path.tail (.pageRefused hm hn hp)

/-- How a collection comes to its end: no page is left, or the oldest one is not credited. -/
inductive CollectEnd (session : Session ρ τ) : Except Failure Unit × Session ρ τ → Prop where
  | done : session.flow.inFlight = [] → CollectEnd session (.ok (), session)
  | failed {page : Dma.Page} {error : Error} {transport : τ} :
      session.flow.inFlight.head? = some page →
      PageTransport.pollPage session.transport page = (.error error, transport) →
      CollectEnd session (.error (.error error), { session with transport := transport })
  | out {page : Dma.Page} {transport : τ} :
      session.flow.inFlight.head? = some page →
      PageTransport.pollPage session.transport page = (.ok none, transport) →
      CollectEnd session (.ok (), { session with transport := transport })
  | fault {page : Dma.Page} {transport : τ} {length : Nat} {fault : Dma.FlowFault}
      {flow : Dma.Flow} :
      session.flow.inFlight.head? = some page →
      PageTransport.pollPage session.transport page = (.ok (some length), transport) →
      session.flow.land page length = (.error fault, flow) →
      CollectEnd session
        (.error (.fault fault), { session with transport := transport, flow := flow })
  | uncredited {page : Dma.Page} {transport : τ} {length : Nat} {error : DmaError}
      {flow : Dma.Flow} :
      session.flow.inFlight.head? = some page →
      PageTransport.pollPage session.transport page = (.ok (some length), transport) →
      session.flow.land page length = (.ok (.error error), flow) →
      CollectEnd session
        (.error (.error (.dma error)), { session with transport := transport, flow := flow })

/-- Pages that land and are credited one after the other, each the oldest that is out. -/
inductive Credits : Session ρ τ → List Dma.Report → Session ρ τ → Prop where
  | nil (session : Session ρ τ) : Credits session [] session
  | cons {session last : Session ρ τ} {page : Dma.Page} {transport : τ} {length : Nat}
      {flow : Dma.Flow} {reports : List Dma.Report} :
      session.flow.inFlight.head? = some page →
      PageTransport.pollPage session.transport page = (.ok (some length), transport) →
      session.flow.land page length = (.ok (.ok ()), flow) →
      Credits { session with transport := transport, flow := flow } reports last →
      Credits session (⟨page, length⟩ :: reports) last

theorem Credits.path {reports : List Dma.Report} (h : Credits session reports next)
    (ledger : Ledger) (hs : session.state = .started) :
    next.state = .started ∧ Path ⟨session, ledger⟩ ⟨next, ledger⟩ := by
  induction h with
  | nil => exact ⟨hs, .refl⟩
  | cons hp hc hf _ ih =>
    obtain ⟨hn, path⟩ := ih hs
    exact ⟨hn, path.head (.pageLanded hs hp hc hf)⟩

/-- A collection credits the pages in flight, oldest first, up to the one that ends it. -/
theorem collect_credits (session : Session ρ τ) {pages : List Dma.Page}
    (hp : session.flow.inFlight = pages) :
    ∃ (reports : List Dma.Report) (middle : Session ρ τ),
      Credits session reports middle ∧ CollectEnd middle ((collect pages).on session) := by
  induction pages generalizing session with
  | nil => exact ⟨[], session, .nil _, .done hp⟩
  | cons page rest ih =>
    have hhead : session.flow.inFlight.head? = some page := by simp [hp]
    rcases hc : PageTransport.pollPage session.transport page with
      ⟨error | _ | length, transport⟩
    · rw [collect_of_failed hc]
      exact ⟨[], session, .nil _, .failed hhead hc⟩
    · rw [collect_of_out hc]
      exact ⟨[], session, .nil _, .out hhead hc⟩
    · rcases hf : session.flow.land page length with ⟨fault | error | _, flow⟩
      · rw [collect_of_fault hc hf]
        exact ⟨[], session, .nil _, .fault hhead hc hf⟩
      · rw [collect_of_uncredited hc hf]
        exact ⟨[], session, .nil _, .uncredited hhead hc hf⟩
      · rw [collect_of_credited hc hf]
        have hrest : flow.inFlight = rest := by
          simp [(Dma.Flow.land_eq_ok_iff.mp hf).2.2.2, hp]
        obtain ⟨reports, middle, credits, ends⟩ :=
          ih { session with transport := transport, flow := flow } hrest
        exact ⟨⟨page, length⟩ :: reports, middle, .cons hhead hc hf credits, ends⟩

theorem collect_cases (session : Session ρ τ) (ledger : Ledger) {pages : List Dma.Page}
    (hp : session.flow.inFlight = pages) (hs : session.state = .started) :
    ∃ middle : Session ρ τ, middle.state = .started ∧
      Path ⟨session, ledger⟩ ⟨middle, ledger⟩ ∧
      CollectEnd middle ((collect pages).on session) := by
  obtain ⟨reports, middle, credits, ends⟩ := collect_credits session hp
  obtain ⟨hm, path⟩ := credits.path ledger hs
  exact ⟨middle, hm, path, ends⟩

theorem collect_path (session : Session ρ τ) (ledger : Ledger) {result : Except Error Unit}
    (hs : session.state = .started)
    (h : collectArrivals.on session = (result.mapError .error, next)) :
    next.state = .started ∧ Path ⟨session, ledger⟩ ⟨next, ledger⟩ := by
  obtain ⟨middle, hm, path, ends⟩ := collect_cases session ledger rfl hs
  -- a collection asks for the pages that are in flight when it begins
  change CollectEnd middle (collectArrivals.on session) at ends
  rw [h] at ends
  generalize ho : (result.mapError Failure.error, next) = outcome at ends
  cases ends with
  | done =>
    obtain rfl := congrArg Prod.snd ho
    exact ⟨hm, path⟩
  | failed hp hc =>
    obtain rfl := congrArg Prod.snd ho
    exact ⟨hm, path.tail (.pollFailed hm hp hc)⟩
  | out hp hc =>
    obtain rfl := congrArg Prod.snd ho
    exact ⟨hm, path.tail (.pageOut hm hp hc)⟩
  | fault => cases result <;> simp at ho
  | uncredited hp hc hf =>
    obtain rfl := congrArg Prod.snd ho
    exact ⟨hm, path.tail (.pageLanded hm hp hc hf)⟩

theorem start_path {answer : Except Error Answer}
    (h : session.perform .start = (.ok answer, next)) :
    Path ⟨session, ledger⟩ ⟨next, ledger.record ⟨session.state, .start, answer⟩⟩ := by
  obtain ⟨result, hr, -⟩ := exists_of_returned h
  cases hs : session.state with
  | started =>
    obtain ⟨log, hl⟩ := on_start_of_started hs
    obtain rfl := congrArg Prod.snd (hl.symm.trans hr)
    exact .single (.note _ _ _)
  | stopped =>
    rcases ha : PageTransport.start session.transport with ⟨error | _, transport⟩
    · obtain ⟨log, hl⟩ := on_start_of_error hs ha
      obtain rfl := congrArg Prod.snd (hl.symm.trans hr)
      exact (Relation.ReflTransGen.single (.refuse hs ha)).tail (.note _ _ _)
    · obtain ⟨log, hl⟩ := on_start_of_ok hs ha
      obtain rfl := congrArg Prod.snd (hl.symm.trans hr)
      exact (Relation.ReflTransGen.single (.begin hs ha)).tail (.note _ _ _)

theorem stop_path {answer : Except Error Answer}
    (h : session.perform .stop = (.ok answer, next)) :
    Path ⟨session, ledger⟩ ⟨next, ledger.record ⟨session.state, .stop, answer⟩⟩ := by
  obtain ⟨result, hr, -⟩ := exists_of_returned h
  cases hs : session.state with
  | stopped =>
    obtain ⟨log, hl⟩ := on_stop_of_stopped hs
    obtain rfl := congrArg Prod.snd (hl.symm.trans hr)
    exact .single (.note _ _ _)
  | started =>
    have announced : Path ⟨session, ledger⟩ ⟨session.announceStop, ledger⟩ :=
      .single (.note _ _ _)
    rcases hc : collectArrivals.on session.announceStop with ⟨failure, middle⟩
    have halt {collected : Except Error Unit}
        (hc : collectArrivals.on session.announceStop = (collected.mapError .error, middle)) :
        Path ⟨session, ledger⟩ ⟨next, ledger⟩ := by
      have hs' : session.announceStop.state = .started := hs
      obtain ⟨hm, path⟩ := collect_path _ ledger hs' hc
      rcases hh : PageTransport.stop middle.transport with ⟨halted, transport⟩
      obtain ⟨log, hl⟩ := on_stop_of_collected hs hc hh
      obtain rfl := congrArg Prod.snd (hl.symm.trans hr)
      exact (((announced.trans path).tail (.promote hm)).tail (.finish hm hh)).tail (.note _ _ _)
    rcases failure with (error | fault) | _
    · exact @halt (.error error) hc
    · rw [on_stop_of_fault hs hc] at hr
      cases result <;> simp at hr
    · exact @halt (.ok ()) hc

theorem push_path {superpage : Dma.Superpage} {answer : Except Error Answer}
    (h : session.perform (.push superpage) = (.ok answer, next)) :
    Path ⟨session, ledger⟩ ⟨next, ledger.record ⟨session.state, .push superpage, answer⟩⟩ := by
  obtain ⟨result, hr, rfl⟩ := exists_of_returned h
  have refused {error : Error}
      (he : (push superpage).on session = (.error (.error error), session)) :
      Path ⟨session, ledger⟩
        ⟨next, ledger.record ⟨session.state, .push superpage, result.map fun _ => .done⟩⟩ := by
    obtain ⟨h1, rfl⟩ := Prod.mk.inj (he.symm.trans hr)
    cases result with
    | ok _ => simp at h1
    | error _ => exact .refl
  cases hs : session.state with
  | stopped => exact hs ▸ refused (on_push_of_stopped hs)
  | started =>
    rw [← hs]
    cases hb : isInBuffer session.config.buffer.size superpage with
    | false => exact refused (on_push_of_outside hs hb)
    | true =>
      by_cases ha : superpage.offset % offsetAlignment = 0
      · cases ht : session.flow.tracker.push superpage with
        | error dmaError => exact refused (on_push_of_refused hs hb ha ht)
        | ok tracker =>
          obtain ⟨refilled, last, hf, path⟩ := pushPages_path
            { session with flow := { session.flow with tracker := tracker } }
            (ledger.accept superpage) session.flow.ring.free hs
          obtain ⟨log, hl⟩ := on_push_of_accepted hs hb ha ht hf
          obtain ⟨h1, rfl⟩ := Prod.mk.inj (hl.symm.trans hr)
          cases result with
          | error _ => simp at h1
          | ok _ => exact (path.head (.accept hs hb ha ht)).tail (.note _ _ _)
      · exact refused (on_push_of_misaligned hs hb ha)

theorem fill_path {answer : Except Error Answer}
    (h : session.perform .fill = (.ok answer, next)) :
    Path ⟨session, ledger⟩ ⟨next, ledger.record ⟨session.state, .fill, answer⟩⟩ := by
  obtain ⟨result, hr, -⟩ := exists_of_returned h
  cases hs : session.state with
  | stopped =>
    obtain rfl := congrArg Prod.snd ((on_fill_of_stopped hs).symm.trans hr)
    exact .refl
  | started =>
    rcases hc : collectArrivals.on session with ⟨(error | fault) | _, middle⟩
    · obtain rfl := congrArg Prod.snd ((on_fill_of_uncollected hs hc).symm.trans hr)
      have hc : collectArrivals.on session =
          ((Except.error error : Except Error Unit).mapError .error, middle) := hc
      exact (collect_path _ ledger hs hc).2
    · rw [on_fill_of_uncollected hs hc] at hr
      cases result <;> simp at hr
    · have hc' : collectArrivals.on session =
          ((Except.ok () : Except Error Unit).mapError .error, middle) := hc
      obtain ⟨hm, path⟩ := collect_path _ ledger hs hc'
      obtain ⟨refilled, last, hf, path'⟩ := pushPages_path
        { middle with flow := middle.flow.promote.2 } ledger middle.flow.promote.2.ring.free hm
      obtain rfl := congrArg Prod.snd ((on_fill_of_collected hs hc hf).symm.trans hr)
      exact (path.tail (.promote hm)).trans path'

theorem pop_path {answer : Except Error Answer}
    (h : session.perform .pop = (.ok answer, next)) :
    Path ⟨session, ledger⟩ ⟨next, ledger.record ⟨session.state, .pop, answer⟩⟩ := by
  obtain ⟨result, hr, rfl⟩ := exists_of_returned h
  cases hp : session.flow.tracker.pop with
  | error dmaError =>
    obtain ⟨h1, rfl⟩ := Prod.mk.inj ((on_pop_of_error hp).symm.trans hr)
    cases result with
    | ok _ => simp at h1
    | error _ => exact .refl
  | ok popped =>
    obtain ⟨h1, rfl⟩ := Prod.mk.inj ((on_pop_of_ok hp).symm.trans hr)
    cases result with
    | error _ => simp at h1
    | ok superpage =>
      obtain rfl : popped.1 = superpage := by simpa using h1
      exact .single (.pop hp)

theorem perform_path (ledger : Ledger) {operation : Operation} {answer : Except Error Answer}
    (h : session.perform operation = (.ok answer, next)) :
    Path ⟨session, ledger⟩ ⟨next, ledger.record ⟨session.state, operation, answer⟩⟩ := by
  cases operation with
  | start => exact start_path h
  | stop => exact stop_path h
  | push superpage => exact push_path h
  | fill => exact fill_path h
  | pop => exact pop_path h

/-- Only what has landed can end a call: the collection that a stop or a fill of a started session
begins with. -/
theorem collect_of_perform_fault {operation : Operation} {fault : Dma.FlowFault}
    (h : session.perform operation = (.error fault, next)) :
    session.state = .started ∧ ∃ log, collectArrivals.on { session with log := log } =
      (.error (.fault fault), next) := by
  cases operation with
  | start =>
    have h := returned_eq_error_iff.mp h
    cases hs : session.state with
    | started =>
      obtain ⟨log, hl⟩ := on_start_of_started hs
      simp [hl] at h
    | stopped =>
      rcases ha : PageTransport.start session.transport with ⟨error | _, transport⟩
      · obtain ⟨log, hl⟩ := on_start_of_error hs ha
        simp [hl] at h
      · obtain ⟨log, hl⟩ := on_start_of_ok hs ha
        simp [hl] at h
  | stop =>
    have h := returned_eq_error_iff.mp h
    obtain hs | hs := stopped_or_started session
    · obtain ⟨log, hl⟩ := on_stop_of_stopped hs
      simp [hl] at h
    · refine ⟨hs, session.announceStop.log, ?_⟩
      rcases hm : collectArrivals.on session.announceStop with ⟨collected, middle⟩
      have returns {result : Except Error Unit}
          (hm : collectArrivals.on session.announceStop = (result.mapError .error, middle)) :
          False := by
        rcases hh : PageTransport.stop middle.transport with ⟨halted, transport⟩
        obtain ⟨log, hl⟩ := on_stop_of_collected hs hm hh
        rw [hl] at h
        cases result <;> cases halted <;> simp [Except.bind] at h
      rcases collected with (error | other) | _
      · exact (@returns (.error error) hm).elim
      · exact hm.trans ((on_stop_of_fault hs hm).symm.trans h)
      · exact (@returns (.ok ()) hm).elim
  | push superpage =>
    have h := returned_eq_error_iff.mp h
    cases hs : session.state with
    | stopped => simp [on_push_of_stopped hs] at h
    | started =>
      cases hb : isInBuffer session.config.buffer.size superpage with
      | false => simp [on_push_of_outside hs hb] at h
      | true =>
        by_cases ha : superpage.offset % offsetAlignment = 0
        · cases ht : session.flow.tracker.push superpage with
          | error dmaError => simp [on_push_of_refused hs hb ha ht] at h
          | ok tracker =>
            obtain ⟨refilled, last, hf, -⟩ := pushPages_path
              { session with flow := { session.flow with tracker := tracker } } .empty
              session.flow.ring.free hs
            obtain ⟨log, hl⟩ := on_push_of_accepted hs hb ha ht hf
            simp [hl] at h
        · simp [on_push_of_misaligned hs hb ha] at h
  | fill =>
    have h := returned_eq_error_iff.mp h
    obtain hs | hs := stopped_or_started session
    · simp [on_fill_of_stopped hs] at h
    · refine ⟨hs, session.log, ?_⟩
      rcases hm : collectArrivals.on session with ⟨failure | _, middle⟩
      · obtain ⟨hfailure, rfl⟩ := Prod.mk.inj ((on_fill_of_uncollected hs hm).symm.trans h)
        obtain rfl := Except.error.inj hfailure
        rfl
      · have hm' : collectArrivals.on session =
            ((Except.ok () : Except Error Unit).mapError .error, middle) := hm
        have hs' := (collect_path session .empty hs hm').1
        obtain ⟨refilled, last, hf, -⟩ := pushPages_path
          { middle with flow := middle.flow.promote.2 } .empty middle.flow.promote.2.ring.free hs'
        rw [on_fill_of_collected hs hm hf] at h
        cases refilled <;> simp [Except.map] at h
  | pop =>
    have h := returned_eq_error_iff.mp h
    cases hp : session.flow.tracker.pop with
    | error dmaError => simp [on_pop_of_error hp] at h
    | ok popped => simp [on_pop_of_ok hp] at h

theorem run_path (ledger : Ledger) {operations : List Operation} {history : History}
    (h : session.run operations = .ok (history, next)) :
    Path ⟨session, ledger⟩ ⟨next, history.foldl Ledger.record ledger⟩ := by
  induction operations generalizing session ledger history with
  | nil =>
    simp only [run, Except.ok.injEq, Prod.mk.injEq] at h
    obtain ⟨rfl, rfl⟩ := h
    exact .refl
  | cons operation rest ih =>
    obtain ⟨answer, middle, later, ha, hrest, rfl⟩ := exists_of_run_cons h
    exact (perform_path ledger ha).trans (ih _ hrest)

end Account

end Readout
