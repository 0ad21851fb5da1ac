import Readout.Proofs.Session.Received
import Readout.Proofs.Session.Safety

/-!
What a stop leaves behind: a stopped session with nothing in its rings, and every superpage of the
run in the ready queue. The errors that it meets on the way change nothing of this, and the first of
them is its answer; only a count that overflows keeps it from returning.
-/

namespace Readout

open Dma

/--
The errors that the answers to the calls lead to, in turn: those of the transport, and the refusals
of pages that have landed.
-/
def errorsMet : Flow → List TransportCall → List Error
  | _, [] => []
  | flow, .poll page (.ok (some length)) :: rest =>
    match flow.land page length with
    | (.ok (.error error), next) => .dma error :: errorsMet next rest
    | (_, next) => errorsMet next rest
  | flow, call :: rest => call.error?.toList ++ errorsMet flow rest

section ErrorsMet

variable {flow next : Flow} {page : Page} {length : Nat} {calls : List TransportCall}

theorem errorsMet_of_credited (hf : flow.land page length = (.ok (.ok ()), next)) :
    errorsMet flow (.poll page (.ok (some length)) :: calls) = errorsMet next calls := by
  rw [errorsMet, hf]

theorem errorsMet_of_uncredited {error : DmaError}
    (hf : flow.land page length = (.ok (.error error), next)) :
    errorsMet flow (.poll page (.ok (some length)) :: calls) =
      .dma error :: errorsMet next calls := by
  rw [errorsMet, hf]

theorem errorsMet_stop (flow : Flow) (halted : Except Error Unit) :
    errorsMet flow [.stop halted] = (failure? halted).toList := by
  cases halted <;> rfl

end ErrorsMet

/-- The superpages are in the queues in which they were, and the rings are as large as they were. -/
structure Dma.Flow.Holds (flow next : Flow) : Prop where
  ready_eq : next.tracker.ready = flow.tracker.ready
  transfer_eq : next.tracker.transfer.map (·.superpage.identity) =
    flow.tracker.transfer.map (·.superpage.identity)
  capacity_eq : next.ring.capacity = flow.ring.capacity

namespace Dma.Flow

variable {flow middle next : Flow} {page : Page} {length : Nat}

theorem Holds.refl (flow : Flow) : flow.Holds flow := ⟨rfl, rfl, rfl⟩

theorem Holds.trans (h : flow.Holds middle) (hn : middle.Holds next) : flow.Holds next :=
  ⟨hn.ready_eq.trans h.ready_eq, hn.transfer_eq.trans h.transfer_eq,
    hn.capacity_eq.trans h.capacity_eq⟩

theorem holds_of_land {credited : Except DmaError Unit}
    (hf : flow.land page length = (.ok credited, next)) : flow.Holds next := by
  have hready : next.tracker.ready = flow.tracker.ready := by
    rw [tracker_of_land hf, Tracker.ready_pageArrived]
  have hidentities : next.tracker.identities = flow.tracker.identities := by
    rw [tracker_of_land hf, Tracker.identities_pageArrived]
  refine ⟨hready, ?_, (sizes_of_land hf).1⟩
  unfold Tracker.identities at hidentities
  rw [hready] at hidentities
  exact List.append_cancel_left hidentities

/-- Promoting first makes no difference to where the superpages of an ended run are. -/
theorem ready_finish_promote (flow : Flow) :
    flow.promote.2.finish.2.tracker.ready =
      flow.tracker.ready ++ flow.tracker.transfer.map Transfer.finish := by
  conv_rhs => rw [flow.tracker.transfer_eq_promotable_append, List.map_append, ← List.append_assoc]
  rfl

end Dma.Flow

namespace Account

open Session

variable {ρ τ : Type} [PageTransport τ]

theorem Credits.holds {session next : Session ρ τ} {reports : List Report}
    (h : Credits session reports next) : session.flow.Holds next.flow := by
  induction h with
  | nil session => exact .refl session.flow
  | cons _ _ hf _ ih => exact (Flow.holds_of_land hf).trans ih

/-- What is credited meets no error. -/
theorem Credits.errorsMet_append {session next : Session ρ τ} {reports : List Report}
    (h : Credits session reports next) (calls : List TransportCall) :
    errorsMet session.flow (reports.map Report.call ++ calls) = errorsMet next.flow calls := by
  induction h with
  | nil => rfl
  | cons _ _ hf _ ih => exact (errorsMet_of_credited hf).trans ih

/-- The polls that lead from one session to the other meet the error of the result, if it is one. -/
structure Polled (session next : Session ρ (Recorder τ)) (polls : List TransportCall)
    (result : Except Error Unit) : Prop where
  calls_eq : next.transport.calls = session.transport.calls ++ polls
  polls_only : ∀ call ∈ polls, ∃ page polled, call = .poll page polled
  holds : session.flow.Holds next.flow
  met : ∀ calls, errorsMet session.flow (polls ++ calls) =
    (failure? result).toList ++ errorsMet next.flow calls

variable {session middle next : Session ρ (Recorder τ)} {result : Except Error Unit}
  {polls : List TransportCall}

omit [PageTransport τ] in
/-- A poll that nothing comes behind. -/
theorem Polled.of_poll {page : Page} {polled : Except Error (Option Nat)}
    (hcalls : next.transport.calls = session.transport.calls ++ [.poll page polled])
    (hholds : session.flow.Holds next.flow)
    (hmet : ∀ calls, errorsMet session.flow (.poll page polled :: calls) =
      (failure? result).toList ++ errorsMet next.flow calls) :
    Polled session next [.poll page polled] result := by
  refine ⟨hcalls, ?_, hholds, hmet⟩
  rw [List.forall_mem_singleton]
  exact ⟨page, polled, rfl⟩

theorem Credits.polled {reports : List Report} (h : Credits session reports middle)
    (hn : Polled middle next polls result) :
    Polled session next (reports.map Report.call ++ polls) result := by
  refine ⟨?_, ?_, h.holds.trans hn.holds, fun calls => ?_⟩
  · rw [hn.calls_eq, h.calls, List.append_assoc]
  · rw [List.forall_mem_append]
    exact ⟨fun call => exists_poll_of_mem, hn.polls_only⟩
  · rw [List.append_assoc, h.errorsMet_append, hn.met]

theorem exists_polled_of_collectEnd (h : CollectEnd session (result.mapError .error, next)) :
    ∃ polls, Polled session next polls result := by
  generalize ho : (result.mapError Failure.error, next) = outcome at h
  cases h with
  | done =>
    obtain ⟨hresult, rfl⟩ := Prod.mk.inj ho
    cases result with
    | error _ => simp at hresult
    | ok _ => exact ⟨[], by simp, nofun, .refl _, fun _ => rfl⟩
  | failed _ hc =>
    obtain ⟨hresult, rfl⟩ := Prod.mk.inj ho
    cases result with
    | ok _ => simp at hresult
    | error error =>
      obtain rfl : error = _ := by simpa using hresult
      exact ⟨_, .of_poll (Recorder.calls_pollPage hc) (.refl _) fun _ => rfl⟩
  | out _ hc =>
    obtain ⟨hresult, rfl⟩ := Prod.mk.inj ho
    cases result with
    | error _ => simp at hresult
    | ok _ => exact ⟨_, .of_poll (Recorder.calls_pollPage hc) (.refl _) fun _ => rfl⟩
  | fault => cases result <;> simp at ho
  | uncredited _ hc hf =>
    obtain ⟨hresult, rfl⟩ := Prod.mk.inj ho
    cases result with
    | ok _ => simp at hresult
    | error error =>
      obtain rfl : error = _ := by simpa using hresult
      exact ⟨_, .of_poll (Recorder.calls_pollPage hc) (Flow.holds_of_land hf) fun _ =>
        errorsMet_of_uncredited hf⟩

/-- What a collection asks for accounts for its result, and moves no superpage. -/
theorem exists_polled_of_collect
    (h : collectArrivals.on session = (result.mapError .error, next)) :
    ∃ polls, Polled session next polls result := by
  obtain ⟨reports, middle, credits, ends⟩ := collect_credits session rfl
  change CollectEnd middle (collectArrivals.on session) at ends
  rw [h] at ends
  obtain ⟨polls, hpolled⟩ := exists_polled_of_collectEnd ends
  exact ⟨_, credits.polled hpolled⟩

end Account

namespace Session

variable {ρ τ : Type}

/-- A call that returns answers with the first of the errors that it meets. -/
def answerOf : List Error → Except Error Answer
  | [] => .ok .done
  | error :: _ => .error error

theorem answerOf_failures (collected halted : Except Error Unit) :
    answerOf ((failure? collected).toList ++ (failure? halted).toList) =
      (collected.bind fun _ => halted).map fun _ => .done := by
  cases collected <;> cases halted <;> rfl

theorem mapError_inj {α : Type} {x y : Except Error α}
    (h : x.mapError Failure.error = y.mapError Failure.error) : x = y := by
  cases x <;> cases y <;> simp_all

/-- What a stop has done when it returns, with the calls that it made and its answer. -/
structure Ended (session next : Session ρ τ) (calls : List TransportCall)
    (answer : Except Error Answer) : Prop where
  state_eq : next.state = .stopped
  inFlight_eq : next.flow.inFlight = []
  ring_eq : next.flow.ring = ⟨session.flow.ring.capacity, ⟨0, 0⟩, ⟨0, 0⟩⟩
  transfer_eq : next.flow.tracker.transfer = []
  exists_ended : ∃ ended, next.flow.tracker.ready = session.flow.tracker.ready ++ ended ∧
    ended.map Superpage.identity = session.flow.tracker.transfer.map (·.superpage.identity)
  exists_polls : ∃ polls halted, calls = polls ++ [.stop halted] ∧
    ∀ call ∈ polls, ∃ page polled, call = .poll page polled
  answer_eq : answer = answerOf (errorsMet session.flow calls)

variable [PageTransport τ]

/-- A stop that returns has ended the run, whatever it has met with. -/
theorem exists_ended_of_stop {session next : Session ρ (Recorder τ)}
    {answer : Except Error Answer} (hs : session.state = .started)
    (h : session.perform .stop = (.ok answer, next)) :
    ∃ calls, next.transport.calls = session.transport.calls ++ calls ∧
      session.Ended next calls answer := by
  obtain ⟨result, hr, rfl⟩ := exists_of_returned h
  rcases hc : collectArrivals.on session.announceStop with ⟨outcome, middle⟩
  have ended {collected : Except Error Unit}
      (hc : collectArrivals.on session.announceStop = (collected.mapError .error, middle)) :
      ∃ calls, next.transport.calls = session.transport.calls ++ calls ∧
        session.Ended next calls (result.map fun _ => .done) := by
    rcases hh : PageTransport.stop middle.transport with ⟨halted, transport⟩
    obtain ⟨polls, hpolled⟩ := Account.exists_polled_of_collect hc
    obtain ⟨log, hl⟩ := on_stop_of_collected hs hc hh
    obtain ⟨hresult, rfl⟩ := Prod.mk.inj (hl.symm.trans hr)
    have hready := hpolled.holds.ready_eq
    have htransfer := hpolled.holds.transfer_eq
    refine ⟨polls ++ [.stop halted], ?_, rfl, rfl, ?_, rfl, ?_, ⟨polls, halted, rfl, ?_⟩, ?_⟩
    · rw [Recorder.calls_stop hh, hpolled.calls_eq, List.append_assoc]
      rfl
    · exact congrArg (Dma.Ring.mk · ⟨0, 0⟩ ⟨0, 0⟩) hpolled.holds.capacity_eq
    · refine ⟨middle.flow.tracker.transfer.map Transfer.finish, ?_, ?_⟩
      · exact middle.flow.ready_finish_promote.trans (congrArg (· ++ _) hready)
      · rw [List.map_map]
        exact (List.map_congr_left fun transfer _ => transfer.identity_finish).trans htransfer
    · exact hpolled.polls_only
    · have hmet : errorsMet session.flow (polls ++ [.stop halted]) = _ := hpolled.met _
      rw [hmet, errorsMet_stop, answerOf_failures, mapError_inj hresult]
  rcases outcome with (error | fault) | _
  · exact @ended (.error error) hc
  · rw [on_stop_of_fault hs hc] at hr
    cases result <;> simp at hr
  · exact @ended (.ok ()) hc

/-- Runs that are given built superpages keep what is in transfer inside the buffer. -/
theorem fits_of_run {session last : Session ρ τ} {operations : List Operation} {history : History}
    (hbuilt : ∀ superpage, .push superpage ∈ operations → superpage.Built)
    (hf : session.flow.tracker.Fits session.config.buffer.size)
    (h : session.run operations = .ok (history, last)) :
    last.flow.tracker.Fits last.config.buffer.size := by
  induction operations generalizing session history with
  | nil =>
    obtain ⟨-, rfl⟩ := Prod.mk.inj (Except.ok.inj h)
    exact hf
  | cons operation rest ih =>
    obtain ⟨answer, next, later, hp, hr, -⟩ := exists_of_run_cons h
    have hnext := fits_of_perform
      (fun superpage he => hbuilt superpage (he ▸ List.mem_cons_self)) hf hp
    exact ih (fun superpage hs => hbuilt superpage (List.mem_cons_of_mem _ hs)) hnext hr

/--
A stop of a started session ends the run whatever its transport answers: nothing is in flight, the
rings are empty, the transport was stopped once, and every superpage that was in transfer is over,
behind those that were over before. Its answer is the first error that it met. Only a count that
overflows keeps it from returning, which takes a superpage that was pushed with bytes of its own and
a buffer that memory has no room for.
-/
theorem ended_of_run {transport : τ} {session last : Session ρ τ} (h : session.Opened transport)
    {operations : List Operation} {history : History}
    (hr : session.run operations = .ok (history, last)) (hs : last.state = .started) :
    (∀ answer next, last.perform .stop = (.ok answer, next) →
      last.Ended next (last.callsOf .stop) answer) ∧
    (∀ fault next, last.perform .stop = (.error fault, next) →
      (∃ overflow : CountOverflow, fault = .count overflow ∧
        byteBound ≤ overflow.received + overflow.length) ∧
      ∃ pushed ∈ (Ledger.ofHistory history).accepted, 0 < pushed.received) ∧
    (session.config.buffer.size < memoryBound →
      (∀ superpage, .push superpage ∈ operations → superpage.Built) →
      ∃ answer next, last.perform .stop = (.ok answer, next)) := by
  have hlast := h.coherent.run hr
  refine ⟨?_, ?_, ?_⟩
  · intro answer next hp
    obtain ⟨twin, ht, rfl, hcalls⟩ := exists_recorded_of_perform hp
    obtain ⟨calls, hmore, hended⟩ := @exists_ended_of_stop _ _ _ last.recorded _ _ hs ht
    have hmade : calls = last.callsOf .stop := by
      rw [← hcalls, hmore]
      rfl
    rw [← hmade]
    exact ⟨hended.state_eq, hended.inFlight_eq, hended.ring_eq, hended.transfer_eq,
      hended.exists_ended, hended.exists_polls, hended.answer_eq⟩
  · intro fault next hp
    constructor
    · obtain ⟨middle, -, ho⟩ := exists_overflows_of_perform .empty hlast hp
      exact ho.exists_count
    · obtain ⟨hpage, -⟩ := h.orderly
      obtain ⟨twin, -, rfl, htruth, -⟩ := h.exists_truthful hr
      obtain ⟨after, ha, -, -⟩ := exists_perform_of_unrecorded hp
      obtain ⟨-, log, hc⟩ := Account.collect_of_perform_fault ha
      obtain ⟨polls, -, -, collection⟩ := Account.exists_collection hc
      have hnoted : Account.Truthful session.config
          ⟨{ twin with log := log }, Ledger.ofHistory history⟩ := htruth.step hpage (.note _ _ _)
      cases collection with
      | credited _ _ _ hanswer => simp at hanswer
      | stuck hl => exact hnoted.stuck hpage hs hl
  · intro hb hbuilt
    have hfits : session.flow.tracker.Fits session.config.buffer.size := by
      obtain ⟨-, hfresh⟩ := h.exists_fresh
      rw [hfresh]
      exact Tracker.fits_of_transfer_eq_nil rfl
    exact exists_perform hlast (fits_of_run hbuilt hfits hr) hb .stop

/-- One superpage is complete, one is cut short by a page that is too long, one not asked for. -/
theorem ended_of_run_overrun :
    ∃ history last next,
      (trial (⟨[8192, 9000], none, false, true, false⟩ : Simulation.ScriptedTransport)).run
          [.start, .push (.fresh 0 8192), .push (.fresh 8192 16384), .push (.fresh 24576 8192)] =
        .ok (history, last) ∧
      last.state = .started ∧
      last.perform .stop = (.ok (.error (.dma (.pageOverrun 9000 8192))), next) ∧
      last.Ended next [.poll ⟨0, 0, 0, 8192⟩ (.ok (some 8192)),
        .poll ⟨1, 1, 8192, 8192⟩ (.ok (some 9000)),
        .stop (.error (.register (.writeProtected 9002)))]
        (.error (.dma (.pageOverrun 9000 8192))) := by
  have computed : ((trial (⟨[8192, 9000], none, false, true, false⟩ :
      Simulation.ScriptedTransport)).run
      [.start, .push (.fresh 0 8192), .push (.fresh 8192 16384), .push (.fresh 24576 8192)]).map
        (fun reached => (reached.2.state, (reached.2.perform .stop).1,
          reached.2.callsOf .stop)) =
      .ok (.started, .ok (.error (.dma (.pageOverrun 9000 8192))),
        [.poll ⟨0, 0, 0, 8192⟩ (.ok (some 8192)), .poll ⟨1, 1, 8192, 8192⟩ (.ok (some 9000)),
          .stop (.error (.register (.writeProtected 9002)))]) := by
    decide +kernel
  obtain ⟨⟨history, last⟩, hr, hl⟩ := exists_of_map_eq_ok computed
  simp only [Prod.mk.injEq] at hl
  obtain ⟨hs, hanswer, hcalls⟩ := hl
  obtain ⟨hended, -, -⟩ := ended_of_run (opened_trial _) hr hs
  have hlast := hended _ _ (Prod.ext hanswer rfl)
  rw [hcalls] at hlast
  exact ⟨history, last, _, hr, hs, Prod.ext hanswer rfl, hlast⟩

/-- A file of as many bytes as an offset can name, with pages of half that size. -/
def boundlessConfig : ChannelConfig :=
  { ChannelConfig.standard .crorc "42:00.0" 1 with
    buffer := .file "/dev/shm/readout" 0xffffffffffffffff
    pageSize := 0x8000000000000000 }

/-- What opening it over a transport gives on which one page lands in full. -/
def boundless : Session Register.BlankPort Simulation.ScriptedTransport :=
  .fresh boundlessConfig ⟨boundlessConfig.lockName, Lock.socketName boundlessConfig.lockName⟩
    (.empty boundlessConfig.pageSize boundlessConfig.transferCapacity
      boundlessConfig.readyCapacity) ⟨⟩ ⟨[0x8000000000000000], none, false, false, false⟩

/-- A superpage of one such page that was filled before it is pushed. -/
def filledBefore : Superpage := ⟨0, 0x8000000000000000, 0x8000000000000000, false, 0⟩

/-- The stop ends in the count of the superpage: the run goes on, and no transport was stopped. -/
theorem ended_of_run_overflow :
    (∃ transport, boundless.Opened transport) ∧ filledBefore.Built ∧
    ∃ history last fault next,
      boundless.run [.start, .push filledBefore] = .ok (history, last) ∧
      last.state = .started ∧ last.perform .stop = (.error fault, next) ∧
      next.state = .started ∧ next.flow.inFlight = [⟨0, 0, 0, 0x8000000000000000⟩] ∧
      last.callsOf .stop =
        [.poll ⟨0, 0, 0, 0x8000000000000000⟩ (.ok (some 0x8000000000000000))] := by
  have computed : (boundless.run [.start, .push filledBefore]).map
      (fun reached => (reached.2.state, (reached.2.perform .stop).1,
        (reached.2.perform .stop).2.state)) =
      .ok (.started, .error (.count ⟨0x8000000000000000, 0x8000000000000000⟩), .started) := by
    decide +kernel
  have left : (boundless.run [.start, .push filledBefore]).map
      (fun reached => ((reached.2.perform .stop).2.flow.inFlight, reached.2.callsOf .stop)) =
      .ok ([⟨0, 0, 0, 0x8000000000000000⟩],
        [.poll ⟨0, 0, 0, 0x8000000000000000⟩ (.ok (some 0x8000000000000000))]) := by
    decide +kernel
  obtain ⟨⟨history, last⟩, hr, hl⟩ := exists_of_map_eq_ok computed
  rw [hr] at left
  obtain ⟨hflight, hcalls⟩ := Prod.mk.inj (Except.ok.inj left)
  simp only [Prod.mk.injEq] at hl
  obtain ⟨hs, hfault, hstate⟩ := hl
  have hset : (Superpage.fresh 0 0x8000000000000000).setReceived 0x8000000000000000 =
      .ok filledBefore := by decide
  exact ⟨⟨_, opened_fresh (by decide) rfl (by decide) (by decide) _ _⟩,
    .setReceived (.fresh 0 0x8000000000000000) hset, history, last, _, _, hr, hs,
    Prod.ext hfault rfl, hstate, hflight, hcalls⟩

end Session

end Readout
