import Readout.Proofs.Session.Received

/-!
What a stop makes of the pages that have landed by then: they are credited in turn up to the first
that is refused, and those behind that one are not asked for.
-/

namespace Readout

open Dma

theorem landings_view {τ σ : Type} [PageTransport τ] [PageTransport σ] {view : τ → σ}
    (hv : IsView view) (transport : τ) (pages : List Page) :
    landings (view transport) pages = landings transport pages := by
  induction pages generalizing transport with
  | nil => rfl
  | cons page rest ih =>
    rw [landings, landings, hv.pollPage]
    rcases PageTransport.pollPage transport page with ⟨error | _ | length, after⟩
    · rfl
    · rfl
    · exact congrArg _ (ih after)

namespace Account

variable {ρ τ : Type} [PageTransport τ] {session : Session ρ (Recorder τ)}
  {polls : List TransportCall} {outcome : Except Failure Unit}

/-- A collection that returns comes to the end of what has landed, or to a page that is refused. -/
theorem Collection.landings_cases (h : Collection session polls outcome)
    (hreturns : ∀ fault, outcome ≠ .error (.fault fault)) :
    ∃ left, landings session.transport session.flow.inFlight = reportsIn polls ++ left ∧
      (left ≠ [] → ∃ reports report error, reportsIn polls = reports ++ [report] ∧
        Landing session reports report (.ok (.error error))) := by
  cases h with
  | credited credits hnone hlast _ =>
    refine ⟨[], ?_, fun hleft => absurd rfl hleft⟩
    rw [credits.landings_eq, hnone, reportsIn_append, reportsIn_map_call, hlast,
      List.append_nil, List.append_nil]
  | @refused reports report error hl =>
    obtain ⟨left, hleft⟩ := hl.exists_landings
    refine ⟨left, ?_, fun _ => ⟨reports, report, error, reportsIn_map_call _, hl⟩⟩
    rw [hleft, reportsIn_map_call, List.append_assoc]
    rfl
  | stuck _ => exact absurd rfl (hreturns _)

end Account

namespace Session

variable {ρ τ : Type} [PageTransport τ]

/-- A stop that returns has collected what has landed, and ends every transfer. -/
theorem exists_collected_of_stop {session next : Session ρ (Recorder τ)}
    {answer : Except Error Answer} (hs : session.state = .started)
    (h : session.perform .stop = (.ok answer, next)) :
    ∃ polls more outcome, next.transport.calls = session.transport.calls ++ more ∧
      reportsIn more = reportsIn polls ∧ (∀ call ∈ more, ∀ answer, call ≠ .start answer) ∧
      Account.Collection session.announceStop polls outcome ∧
      (∀ fault, outcome ≠ .error (.fault fault)) ∧ next.flow.tracker.transfer = [] := by
  obtain ⟨result, hr, -⟩ := exists_of_returned h
  rcases hc : collectArrivals.on session.announceStop with ⟨outcome, middle⟩
  rcases hh : PageTransport.stop middle.transport with ⟨halted, transport⟩
  obtain ⟨polls, hpolls, hkind, collection⟩ := Account.exists_collection hc
  have returns {collected : Except Error Unit}
      (hc : collectArrivals.on session.announceStop = (collected.mapError .error, middle)) :
      next.transport.calls = session.transport.calls ++ (polls ++ [.stop halted]) ∧
        next.flow.tracker.transfer = [] := by
    obtain ⟨log, hl⟩ := on_stop_of_collected hs hc hh
    obtain rfl := congrArg Prod.snd (hl.symm.trans hr)
    refine ⟨?_, rfl⟩
    rw [Recorder.calls_stop hh, hpolls, List.append_assoc]
    rfl
  have hreports : reportsIn (polls ++ [.stop halted]) = reportsIn polls := by
    rw [reportsIn_append]
    exact List.append_nil _
  have hrunning : ∀ call ∈ polls ++ [.stop halted], ∀ answer, call ≠ .start answer := by
    rw [List.forall_mem_append, List.forall_mem_singleton]
    refine ⟨?_, nofun⟩
    intro call hc answer
    obtain ⟨page, polled, rfl⟩ := hkind call hc
    exact nofun
  rcases outcome with (error | fault) | _
  · obtain ⟨hcalls, htransfer⟩ := @returns (.error error) hc
    exact ⟨polls, _, _, hcalls, hreports, hrunning, collection, nofun, htransfer⟩
  · rw [on_stop_of_fault hs hc] at hr
    cases result <;> simp at hr
  · obtain ⟨hcalls, htransfer⟩ := @returns (.ok ()) hc
    exact ⟨polls, _, _, hcalls, hreports, hrunning, collection, nofun, htransfer⟩

end Session

namespace Account

open Session

variable {ρ τ : Type} [PageTransport τ] {config : ChannelConfig}
  {session next : Session ρ (Recorder τ)} {ledger : Ledger} {more : List TransportCall}

/-- The report that a stop refuses is too long, or its superpage was pushed with bytes of its own. -/
theorem Truthful.refused_of_stop (h : Truthful config ⟨session, ledger⟩)
    (hpage : 0 < config.pageSize) (hs : session.state = .started) {answer : Except Error Answer}
    (hp : session.perform .stop = (.ok answer, next))
    (hmore : next.transport.calls = session.transport.calls ++ more)
    {reports : List Report} {report : Report} {error : DmaError}
    (hlist : reportsIn more = reports ++ [report])
    (hl : Landing session.announceStop reports report (.ok (.error error))) :
    config.pageSize < report.length ∧
        answer = .error (.dma (.pageOverrun report.length config.pageSize)) ∨
      ∃ place pushed own,
        ledger.Allots config.pageSize (Account.reports ⟨session, ledger⟩ ++ reportsIn more) place
          pushed (own ++ [report]) ∧ 0 < pushed.received := by
  have hannounced : Truthful config ⟨session.announceStop, ledger⟩ := h.step hpage (.note _ _ _)
  rcases hannounced.refused hpage hs hl with ⟨hlong, -⟩ | ⟨place, pushed, own, hown, hpos, -⟩
  · have hlast : report ∈ reportsIn more := by
      rw [hlist]
      exact List.mem_append_right _ (List.mem_singleton_self _)
    have hfails := overrun_of_perform h.orderly.coherent hp hmore hlast hlong
    exact .inl ⟨hlong, Except.ok.inj hfails⟩
  · refine .inr ⟨place, pushed, own, ?_, hpos⟩
    rw [hlist]
    exact hown

end Account

namespace Session

variable {ρ τ : Type} [PageTransport τ]

/--
A stop credits the landed pages in turn, and gives back every superpage with what was reported for
its pages. It stops asking at a page that it refuses, so pages that landed behind one that is too
long are left out, however many they are; only bytes of a superpage's own can make it refuse any
other, or keep it from returning.
-/
theorem landed_of_stop {transport : τ} {session last : Session ρ τ} (h : session.Opened transport)
    {operations : List Operation} {history : History}
    (hr : session.run operations = .ok (history, last)) (hs : last.state = .started) :
    (∀ fault next, last.perform .stop = (.error fault, next) →
      ∃ pushed ∈ (Ledger.ofHistory history).accepted, 0 < pushed.received) ∧
    ∀ answer next, last.perform .stop = (.ok answer, next) →
      ∃ counted left, landings last.transport last.flow.inFlight = counted ++ left ∧
        reportsIn (last.callsOf .stop) = counted ∧
        ((Ledger.ofHistory history).popped ++ next.flow.tracker.ready).map Superpage.identity =
          (Ledger.ofHistory history).accepted.map Superpage.identity ∧
        (∀ place given,
          ((Ledger.ofHistory history).popped ++ next.flow.tracker.ready)[place]? = some given →
          ∃ pushed own, (Ledger.ofHistory history).Allots session.config.pageSize
              (runReports (session.calls operations) ++ counted) place pushed own ∧
            (given.ready = true ↔ pushed.ready = true ∨
              own.map (·.page.offset) = pushed.identity.pageOffsets session.config.pageSize) ∧
            (pushed.received = 0 →
              given.received = total (Report.counted session.config.pageSize) own)) ∧
        (left ≠ [] → ∃ earlier report, counted = earlier ++ [report] ∧
          (session.config.pageSize < report.length ∧
              answer = .error (.dma (.pageOverrun report.length session.config.pageSize)) ∨
            ∃ place pushed own, (Ledger.ofHistory history).Allots session.config.pageSize
              (runReports (session.calls operations) ++ counted) place pushed (own ++ [report]) ∧
              0 < pushed.received)) := by
  obtain ⟨hpage, -⟩ := h.orderly
  obtain ⟨twin, -, rfl, htruth, hreports⟩ := h.exists_truthful hr
  constructor
  · intro fault next hp
    obtain ⟨after, ha, -, -⟩ := exists_perform_of_unrecorded hp
    obtain ⟨-, log, hc⟩ := Account.collect_of_perform_fault ha
    obtain ⟨polls, -, -, collection⟩ := Account.exists_collection hc
    have hnoted : Account.Truthful session.config
        ⟨{ twin with log := log }, Ledger.ofHistory history⟩ := htruth.step hpage (.note _ _ _)
    cases collection with
    | credited _ _ _ hanswer => simp at hanswer
    | stuck hl => exact hnoted.stuck hpage hs hl
  · intro answer next hp
    obtain ⟨after, ha, rfl, hmore⟩ := exists_perform_of_unrecorded hp
    obtain ⟨polls, more, outcome, hcalls, hcounted, hrunning, collection, hreturns, htransfer⟩ :=
      exists_collected_of_stop hs ha
    obtain ⟨left, hleft, hrefused⟩ := collection.landings_cases hreturns
    rw [← hcounted] at hleft hrefused
    have hended : Account.Truthful session.config ⟨after, Ledger.ofHistory history⟩ :=
      htruth.path hpage (Account.stop_path ha)
    have hafter : Account.reports ⟨after, Ledger.ofHistory history⟩ =
        runReports (session.calls operations) ++ reportsIn more := by
      rw [Account.reports, Account.calls, hcalls, runReports_append hrunning, ← hreports]
      rfl
    have hstop : twin.unrecorded.callsOf .stop = more :=
      List.append_cancel_left (hmore.symm.trans hcalls)
    refine ⟨reportsIn more, left, ?_, by rw [hstop], hended.identities_finished htransfer, ?_, ?_⟩
    · rw [← hleft]
      exact landings_view Recorder.isView_transport twin.transport twin.flow.inFlight
    · intro place given hg
      obtain ⟨pushed, own, hown, hready, hcount⟩ := hended.exists_given hpage hg
      rw [hafter] at hown
      exact ⟨pushed, own, hown, hready, fun hfresh => (hcount hfresh).1⟩
    · intro hmissing
      obtain ⟨reports, report, error, hlist, hl⟩ := hrefused hmissing
      refine ⟨reports, report, hlist, ?_⟩
      have hcases := htruth.refused_of_stop hpage hs ha hcalls hlist hl
      rwa [hreports] at hcases

/-- A superpage is given back as ready even if the last of its pages is too long. -/
theorem landed_of_stop_overrun_last :
    ∃ history last,
      (trial (⟨[8192, 9000], none, false, false, false⟩ : Simulation.ScriptedTransport)).run
          [.start, .push (.fresh 0 8192), .push (.fresh 8192 8192)] = .ok (history, last) ∧
      (last.perform .stop).2.flow.tracker.ready =
        [⟨0, 8192, 8192, true, 0⟩, ⟨8192, 8192, 0, true, 0⟩] ∧
      ∃ pushed own, (Ledger.ofHistory history).Allots 8192 (runReports ((trial (⟨[8192, 9000], none,
          false, false, false⟩ : Simulation.ScriptedTransport)).calls
          [.start, .push (.fresh 0 8192), .push (.fresh 8192 8192)]) ++
          [⟨⟨0, 0, 0, 8192⟩, 8192⟩, ⟨⟨1, 1, 8192, 8192⟩, 9000⟩]) 1 pushed own ∧
        (pushed.ready = true ∨ own.map (·.page.offset) = pushed.identity.pageOffsets 8192) := by
  have computed : ((trial (⟨[8192, 9000], none, false, false, false⟩ :
      Simulation.ScriptedTransport)).run
      [.start, .push (.fresh 0 8192), .push (.fresh 8192 8192)]).map
        (fun reached => ((Ledger.ofHistory reached.1).popped, reached.2.state,
          (reached.2.perform .stop).2.flow.tracker.ready)) =
      .ok ([], .started, [⟨0, 8192, 8192, true, 0⟩, ⟨8192, 8192, 0, true, 0⟩]) := by
    decide +kernel
  have stopped : ((trial (⟨[8192, 9000], none, false, false, false⟩ :
      Simulation.ScriptedTransport)).run
      [.start, .push (.fresh 0 8192), .push (.fresh 8192 8192)]).map
        (fun reached => ((reached.2.perform .stop).1, reportsIn (reached.2.callsOf .stop))) =
      .ok (.ok (.error (.dma (.pageOverrun 9000 8192))),
        [⟨⟨0, 0, 0, 8192⟩, 8192⟩, ⟨⟨1, 1, 8192, 8192⟩, 9000⟩]) := by decide +kernel
  obtain ⟨⟨history, last⟩, hr, hl⟩ := exists_of_map_eq_ok computed
  rw [hr] at stopped
  obtain ⟨hanswer, hreports⟩ := Prod.mk.inj (Except.ok.inj stopped)
  simp only [Prod.mk.injEq] at hl
  obtain ⟨hpopped, hs, hready⟩ := hl
  obtain ⟨-, hreturns⟩ := landed_of_stop (opened_trial _) hr hs
  obtain ⟨counted, left, -, hcounted, -, hgiven, -⟩ := hreturns _ _ (Prod.ext hanswer rfl)
  obtain ⟨pushed, own, hown, hiff, -⟩ := hgiven 1 ⟨8192, 8192, 0, true, 0⟩
    (by rw [hpopped, hready]; rfl)
  rw [← hcounted, hreports] at hown
  exact ⟨history, last, hr, hready, pushed, own, hown, hiff.mp rfl⟩

/-- Two superpages of one page each have landed, and the second comes back as it was pushed. -/
theorem landed_of_stop_overrun_first :
    ∃ history last,
      (trial (⟨[9000, 8192], none, false, false, false⟩ : Simulation.ScriptedTransport)).run
          [.start, .push (.fresh 0 8192), .push (.fresh 8192 8192)] = .ok (history, last) ∧
      last.state = .started ∧
      landings last.transport last.flow.inFlight =
        [⟨⟨0, 0, 0, 8192⟩, 9000⟩, ⟨⟨1, 1, 8192, 8192⟩, 8192⟩] ∧
      reportsIn (last.callsOf .stop) = [⟨⟨0, 0, 0, 8192⟩, 9000⟩] ∧
      (last.perform .stop).2.flow.tracker.ready =
        [⟨0, 8192, 0, true, 0⟩, .fresh 8192 8192] := by
  have computed : ((trial (⟨[9000, 8192], none, false, false, false⟩ :
      Simulation.ScriptedTransport)).run
      [.start, .push (.fresh 0 8192), .push (.fresh 8192 8192)]).map
        (fun reached => (reached.2.state, landings reached.2.transport reached.2.flow.inFlight,
          reportsIn (reached.2.callsOf .stop),
          (reached.2.perform .stop).2.flow.tracker.ready)) =
      .ok (.started, [⟨⟨0, 0, 0, 8192⟩, 9000⟩, ⟨⟨1, 1, 8192, 8192⟩, 8192⟩],
        [⟨⟨0, 0, 0, 8192⟩, 9000⟩], [⟨0, 8192, 0, true, 0⟩, .fresh 8192 8192]) := by
    decide +kernel
  obtain ⟨⟨history, last⟩, hr, hl⟩ := exists_of_map_eq_ok computed
  simp only [Prod.mk.injEq] at hl
  obtain ⟨hs, hlanded, hreports, hready⟩ := hl
  exact ⟨history, last, hr, hs, hlanded, hreports, hready⟩

end Session

end Readout
