import Readout.Proofs.Session.Accounting
import Readout.Proofs.Session.Course

/-!
The bytes that a superpage has received are those reported for its pages, a page that is too long
counting nothing. Whatever has landed is accounted for when a collection asks for it; a count is
refused only where a superpage was pushed with bytes of its own.
-/

namespace Readout

open Dma

namespace Dma.Identity.Admitted

variable {config : ChannelConfig} {pushed : Superpage} {own : List Report}

/-- What is pushed with nothing received counts what is reported, and is filled by whole pages. -/
theorem received_after (h : pushed.identity.Admitted config) (hfresh : pushed.received = 0)
    (hle : own.length ≤ pushed.identity.pages config.pageSize) :
    (pushed.after config.pageSize own).received = total (Report.counted config.pageSize) own := by
  have hwhole : pushed.identity.pages config.pageSize * config.pageSize = pushed.size :=
    Nat.div_mul_cancel (Nat.dvd_of_mod_eq_zero h.whole)
  have hfits := Nat.mul_le_mul_right config.pageSize hle
  have hbound := h.end_lt
  simp only [Superpage.identity] at hbound
  rw [Superpage.received_after (by omega) (by omega), hfresh, Nat.zero_add]

theorem isFilled_outcome_iff (h : pushed.identity.Admitted config) (hpage : 0 < config.pageSize)
    (hfresh : pushed.received = 0) (hle : own.length ≤ pushed.identity.pages config.pageSize) :
    (pushed.outcome config.pageSize own).isFilled = true ↔
      own.map Report.length =
        List.replicate (pushed.identity.pages config.pageSize) config.pageSize := by
  have hwhole : pushed.identity.pages config.pageSize * config.pageSize = pushed.size :=
    Nat.div_mul_cancel (Nat.dvd_of_mod_eq_zero h.whole)
  have hsize : (pushed.outcome config.pageSize own).size = pushed.size :=
    congrArg Identity.size Superpage.identity_outcome
  rw [Superpage.isFilled, beq_iff_eq, hsize, Superpage.received_outcome,
    h.received_after hfresh hle, ← hwhole]
  exact total_counted_eq_iff hpage _ hle

end Dma.Identity.Admitted

namespace Account

open Session

variable {ρ τ : Type} {config : ChannelConfig} {session middle : Session ρ (Recorder τ)}
  {ledger : Ledger} {reports : List Report} {report : Report}

/-- The superpages that are over and those in transfer, as they are. -/
def superpages (account : Account ρ τ) : List Superpage :=
  account.finished ++ account.session.flow.tracker.transfer.map Transfer.superpage

theorem Truthful.admitted_of_allots {account : Account ρ (Recorder τ)}
    (h : account.Truthful config) {place : Nat} {pushed : Superpage} {own : List Report}
    (ha : account.ledger.Allots config.pageSize account.reports place pushed own) :
    pushed.identity.Admitted config :=
  h.admitted pushed (List.mem_of_getElem? ha.accepted_eq)

/-- A superpage that is over is ready, counts and is filled as the reports on its pages say. -/
theorem Truthful.exists_given {account : Account ρ (Recorder τ)} (h : account.Truthful config)
    (hpage : 0 < config.pageSize) {place : Nat} {given : Superpage}
    (hg : account.finished[place]? = some given) :
    ∃ pushed own, account.ledger.Allots config.pageSize account.reports place pushed own ∧
      (given.ready = true ↔ pushed.ready = true ∨
        own.map (·.page.offset) = pushed.identity.pageOffsets config.pageSize) ∧
      (pushed.received = 0 → given.received = total (Report.counted config.pageSize) own ∧
        (given.isFilled = true ↔ own.map Report.length =
          List.replicate (pushed.identity.pages config.pageSize) config.pageSize)) := by
  obtain ⟨pushed, own, hown, rfl⟩ := h.exists_outcome_of_finished hg
  have hadmitted := h.admitted_of_allots hown
  refine ⟨pushed, own, hown, hown.ready_outcome_iff, fun hfresh => ⟨?_, ?_⟩⟩
  · rw [Superpage.received_outcome, hadmitted.received_after hfresh hown.length_le]
  · exact hadmitted.isFilled_outcome_iff hpage hfresh hown.length_le

/-- At any time a superpage has received what was reported for its pages. -/
theorem Truthful.exists_received {account : Account ρ (Recorder τ)} (h : account.Truthful config)
    {place : Nat} {given : Superpage} (hg : account.superpages[place]? = some given) :
    ∃ pushed own, account.ledger.Allots config.pageSize account.reports place pushed own ∧
      (pushed.received = 0 → given.received = total (Report.counted config.pageSize) own ∧
        given.received ≤ own.length * config.pageSize) := by
  have hsame : account.superpages.map Superpage.received =
      (account.finished ++ account.session.flow.tracker.transfer.map Transfer.finish).map
        Superpage.received := by
    simp [superpages, Transfer.received_finish]
  have hreceived := congrArg (·[place]?) hsame
  simp only [List.getElem?_map, hg, Option.map_some] at hreceived
  obtain ⟨settled, hsettled, heq⟩ := Option.map_eq_some_iff.mp hreceived.symm
  obtain ⟨pushed, own, hown, rfl⟩ := h.exists_outcome hsettled
  refine ⟨pushed, own, hown, fun hfresh => ?_⟩
  have hcount := (h.admitted_of_allots hown).received_after hfresh hown.length_le
  rw [← heq, Superpage.received_outcome, hcount]
  exact ⟨rfl, total_counted_le _ own⟩

/-- A transfer has counted as many pages as were reported for its superpage. -/
theorem Truthful.length_eq_arrived {account : Account ρ (Recorder τ)} (h : account.Truthful config)
    (hpage : 0 < config.pageSize) (hs : account.session.state = .started) {i place : Nat}
    {transfer : Transfer} {pushed : Superpage} {own : List Report}
    (ht : account.session.flow.tracker.transfer[i]? = some transfer)
    (hplace : place = account.finished.length + i)
    (ha : account.ledger.Allots config.pageSize account.reports place pushed own) :
    own.length = transfer.arrived := by
  obtain ⟨hlt, rfl⟩ := List.getElem?_eq_some_iff.mp ht
  have hsplit := (List.take_append_drop i account.session.flow.tracker.transfer).symm
  rw [List.drop_eq_getElem_cons hlt] at hsplit
  have hcredited := h.orderly.credited hpage hs _ _ _ hsplit
  have hlanded := congrArg List.length (map_page_runReports account.calls)
  rw [List.length_map] at hlanded
  have hfront : account.ledger.popped.length + account.session.flow.tracker.ready.length +
      (account.session.flow.tracker.transfer.take i).length = place := by
    rw [hplace, finished, List.length_append, List.length_take_of_le (Nat.le_of_lt hlt)]
  rw [length_eq_count ha.shares_eq, hcredited, hfront]
  exact congrArg (fun n => (List.take n _).count place) hlanded

/-- A superpage that waits for a page has room for it if it was pushed with nothing received. -/
theorem Truthful.room_of_fresh (h : Truthful config ⟨session, ledger⟩)
    (owner : session.flow.tracker.Owner ledger.accepted (finished ⟨session, ledger⟩)
      (Account.reports ⟨session, ledger⟩)) (hfresh : owner.pushed.received = 0) :
    owner.transfer.superpage.received + config.pageSize ≤ owner.transfer.superpage.size ∧
      owner.transfer.superpage.size < byteBound := by
  have hadmitted := h.admitted owner.pushed (List.mem_of_getElem? owner.getElem?_accepted)
  have hend := hadmitted.end_lt
  have hwhole := hadmitted.whole
  have hsize := h.orderly.coherent.pageSize_eq
  simp only [Superpage.identity] at hend hwhole
  rw [← hsize] at hwhole ⊢
  exact owner.room_of_fresh hwhole (by omega) hfresh

variable [PageTransport τ]

/-- Reports that are credited join those of the run. -/
theorem Truthful.credits (h : Truthful config ⟨session, ledger⟩) (hpage : 0 < config.pageSize)
    (hs : session.state = .started) (credits : Credits session reports middle) :
    Truthful config ⟨middle, ledger⟩ ∧ middle.state = .started ∧
      Account.reports ⟨middle, ledger⟩ = Account.reports ⟨session, ledger⟩ ++ reports := by
  obtain ⟨hm, path⟩ := credits.path ledger hs
  refine ⟨h.path hpage path, hm, ?_⟩
  have hpolls : ∀ call ∈ reports.map Report.call, ∀ answer, call ≠ .start answer := by
    intro call hc answer
    obtain ⟨page, polled, rfl⟩ := exists_poll_of_mem hc
    exact nofun
  rw [Account.reports, calls, credits.calls, runReports_append hpolls, reportsIn_map_call]
  rfl

/-- A report is refused for its length, or for a superpage that was pushed with bytes of its own. -/
theorem Truthful.refused {error : DmaError} (h : Truthful config ⟨session, ledger⟩)
    (hpage : 0 < config.pageSize) (hs : session.state = .started)
    (hl : Landing session reports report (.ok (.error error))) :
    config.pageSize < report.length ∧ error = .pageOverrun report.length config.pageSize ∨
      ∃ place pushed own,
        ledger.Allots config.pageSize
          (Account.reports ⟨session, ledger⟩ ++ (reports ++ [report])) place pushed
          (own ++ [report]) ∧
        0 < pushed.received ∧
        error = .receivedOverflow ((pushed.after config.pageSize own).received + report.length)
          pushed.size := by
  obtain @⟨middle, page, length, transport, _, flow, credits, hp, hc, hf⟩ := hl
  obtain ⟨htruth, hm, hreports⟩ := h.credits hpage hs credits
  have hsize := htruth.orderly.coherent.pageSize_eq
  have hcases := htruth.orderly.coherent.inStep.error_cases_of_land hp hf
  dsimp only at hsize hcases
  rw [hsize] at hcases
  rcases hcases with hlong | ⟨hle, transfer, ht, hroom, he⟩
  · exact .inl hlong
  obtain ⟨owner⟩ := htruth.exists_owner hpage hm hp
  obtain rfl : owner.transfer = transfer := Option.some.inj (owner.find_eq.symm.trans ht)
  have step : Step ⟨middle, ledger⟩ ⟨{ middle with transport := transport, flow := flow }, ledger⟩ :=
    .pageLanded hm hp hc hf
  have hlanded := reports_of_calls ⟨middle, ledger⟩
    ⟨{ middle with transport := transport, flow := flow }, ledger⟩ (Recorder.calls_pollPage hc)
  have hshare := owner.shares_concat ⟨page, length⟩
  have hafter := owner.superpage_eq_after
  rw [hsize] at hshare hafter
  have hown := (htruth.step hpage step).allots owner.getElem?_accepted
    (by rw [hlanded]; exact hshare)
  rw [hlanded] at hown
  refine .inr ⟨owner.earlier.length, owner.pushed, owner.own, ?_, ?_, ?_⟩
  · rw [← List.append_assoc, ← hreports]
    exact hown
  · apply Nat.pos_of_ne_zero
    intro hfresh
    obtain ⟨hfits, -⟩ := htruth.room_of_fresh owner hfresh
    omega
  · rw [he, hafter, Superpage.size_after]

/-- A count overflows only for a superpage that was pushed with bytes of its own. -/
theorem Truthful.stuck {fault : FlowFault} (h : Truthful config ⟨session, ledger⟩)
    (hpage : 0 < config.pageSize) (hs : session.state = .started)
    (hl : Landing session reports report (.error fault)) :
    ∃ pushed ∈ ledger.accepted, 0 < pushed.received := by
  obtain ⟨credits, hp, -, hf⟩ := hl
  obtain ⟨htruth, hm, -⟩ := h.credits hpage hs credits
  have hsize := htruth.orderly.coherent.pageSize_eq
  obtain ⟨hle, transfer, ht, hover⟩ := htruth.orderly.coherent.inStep.overflow_of_land hp hf
  obtain ⟨owner⟩ := htruth.exists_owner hpage hm hp
  obtain rfl : owner.transfer = transfer := Option.some.inj (owner.find_eq.symm.trans ht)
  refine ⟨owner.pushed, List.mem_of_getElem? owner.getElem?_accepted, ?_⟩
  apply Nat.pos_of_ne_zero
  intro hfresh
  obtain ⟨hfits, hbound⟩ := htruth.room_of_fresh owner hfresh
  rw [hsize] at hle
  omega

/-- An error of a fill or of a stop that its transport did not answer with. -/
theorem Truthful.error_cases_of_perform (h : Truthful config ⟨session, ledger⟩)
    (hpage : 0 < config.pageSize) {operation : Operation} {error : DmaError}
    {next : Session ρ (Recorder τ)} {more : List TransportCall}
    (ho : operation = .fill ∨ operation = .stop)
    (hp : session.perform operation = (.ok (.error (.dma error)), next))
    (hmore : next.transport.calls = session.transport.calls ++ more)
    (hsilent : ∀ call ∈ more, call.error? ≠ some (.dma error)) :
    error = .notStarted ∨ (∃ length, error = .pageOverrun length config.pageSize) ∨
      ∃ place pushed own report,
        ledger.Allots config.pageSize (Account.reports ⟨session, ledger⟩ ++ reportsIn more) place
          pushed (own ++ [report]) ∧
        0 < pushed.received ∧
        error = .receivedOverflow ((pushed.after config.pageSize own).received + report.length)
          pushed.size := by
  rcases Session.error_cases_of_perform hp with
    ⟨made, hcalls, call, hc, he⟩ | ⟨dmaError, he, hd⟩ |
    ⟨hs, log, made, reports, report, dmaError, hcalls, hlist, he, hl⟩
  · rw [← List.append_cancel_left (hmore.symm.trans hcalls)] at hc
    exact absurd he (hsilent call hc)
  · obtain rfl := Error.dma.inj he
    exact .inl (hd.eq_notStarted ho)
  · obtain rfl := Error.dma.inj he
    rw [← List.append_cancel_left (hmore.symm.trans hcalls)] at hlist
    have hnoted : Truthful config ⟨{ session with log := log }, ledger⟩ :=
      h.step hpage (.note _ _ _)
    rcases hnoted.refused hpage hs hl with ⟨-, rfl⟩ | ⟨place, pushed, own, hown, hpos, rfl⟩
    · exact .inr (.inl ⟨_, rfl⟩)
    · refine .inr (.inr ⟨place, pushed, own, report, ?_, hpos, rfl⟩)
      rw [hlist]
      exact hown

end Account

namespace Session

variable {ρ τ : Type} [PageTransport τ]

/--
A superpage that was pushed with nothing received has received what was reported for its pages, as
far as they are not too long, at any time and when it is popped. A page that is too long fails the
call that it is reported to; a fill or a stop refuses any other only for a superpage that was pushed
with bytes of its own, unless its transport answers so.
-/
theorem received_of_run {transport : τ} {session last : Session ρ τ} (h : session.Opened transport)
    {operations : List Operation} {history : History}
    (hr : session.run operations = .ok (history, last)) :
    (∀ place popped, (Ledger.ofHistory history).popped[place]? = some popped →
      ∃ pushed own, (Ledger.ofHistory history).Allots session.config.pageSize
          (runReports (session.calls operations)) place pushed own ∧
        (pushed.received = 0 →
          popped.received = total (Report.counted session.config.pageSize) own ∧
          (popped.isFilled = true ↔ own.map Report.length =
            List.replicate (pushed.identity.pages session.config.pageSize)
              session.config.pageSize))) ∧
    (∀ account, Account.Path ⟨session.recorded, .empty⟩ account →
      ∀ place given, account.superpages[place]? = some given →
        ∃ pushed own,
          account.ledger.Allots session.config.pageSize account.reports place pushed own ∧
          (pushed.received = 0 →
            given.received = total (Report.counted session.config.pageSize) own ∧
            given.received ≤ own.length * session.config.pageSize) ∧
          ∀ i transfer, account.session.state = .started →
            account.session.flow.tracker.transfer[i]? = some transfer →
            place = account.finished.length + i → own.length = transfer.arrived) ∧
    (∀ operation result next, last.perform operation = (result, next) →
      ∀ report ∈ reportsIn (last.callsOf operation), session.config.pageSize < report.length →
        result = .ok (.error (.dma (.pageOverrun report.length session.config.pageSize)))) ∧
    ∀ operation error next, operation = .fill ∨ operation = .stop →
      last.perform operation = (.ok (.error (.dma error)), next) →
      (∀ call ∈ last.callsOf operation, call.error? ≠ some (.dma error)) →
      (∀ current requested, error ≠ .receivedRollback current requested) ∧
      ∀ requested size, error = .receivedOverflow requested size →
        ∃ place pushed own report,
          (Ledger.ofHistory history).Allots session.config.pageSize
            (runReports (session.calls operations) ++ reportsIn (last.callsOf operation)) place
            pushed (own ++ [report]) ∧
          0 < pushed.received ∧ size = pushed.size ∧
          requested = (pushed.after session.config.pageSize own).received + report.length := by
  obtain ⟨hpage, -⟩ := h.orderly
  obtain ⟨twin, -, rfl, htruth, hreports⟩ := h.exists_truthful hr
  have hcoherent := htruth.orderly.coherent
  refine ⟨?_, ?_, ?_, ?_⟩
  · intro place popped hp
    obtain ⟨pushed, own, hown, -, hcount⟩ :=
      htruth.exists_given hpage (Account.getElem?_finished hp)
    rw [hreports] at hown
    exact ⟨pushed, own, hown, hcount⟩
  · intro account path place given hg
    have ht := h.truthful.path hpage path
    obtain ⟨pushed, own, hown, hreceived⟩ := ht.exists_received hg
    refine ⟨pushed, own, hown, hreceived, ?_⟩
    intro i transfer hs hi hplace
    exact ht.length_eq_arrived hpage hs hi hplace hown
  · intro operation result next hp report hr hlong
    obtain ⟨after, ha, -, hmore⟩ := exists_perform_of_unrecorded hp
    exact overrun_of_perform hcoherent ha hmore hr hlong
  · intro operation error next ho hp hsilent
    obtain ⟨after, ha, -, hmore⟩ := exists_perform_of_unrecorded hp
    rcases htruth.error_cases_of_perform hpage ho ha hmore hsilent with
      rfl | ⟨length, rfl⟩ | ⟨place, pushed, own, report, hown, hpos, rfl⟩
    · exact ⟨nofun, nofun⟩
    · exact ⟨nofun, nofun⟩
    · refine ⟨nofun, ?_⟩
      rintro requested size ⟨⟩
      rw [hreports] at hown
      exact ⟨place, pushed, own, report, hown, hpos, rfl, rfl⟩

/-- One of the two pages of a superpage is reported as too long, and the other as it should be. -/
theorem received_of_run_overrun :
    ∃ history last,
      (trial (⟨[9000, 8192], none, false, false, false⟩ : Simulation.ScriptedTransport)).run
          [.start, .push (.fresh 0 16384), .fill, .fill, .pop] = .ok (history, last) ∧
      ∃ own, (Ledger.ofHistory history).Allots 8192 (runReports ((trial (⟨[9000, 8192], none,
          false, false, false⟩ : Simulation.ScriptedTransport)).calls
          [.start, .push (.fresh 0 16384), .fill, .fill, .pop])) 0 (.fresh 0 16384) own ∧
        total (Report.counted 8192) own = 8192 ∧ own.map Report.length ≠ [8192, 8192] := by
  have computed : ((trial (⟨[9000, 8192], none, false, false, false⟩ :
      Simulation.ScriptedTransport)).run
      [.start, .push (.fresh 0 16384), .fill, .fill, .pop]).map
        (fun reached => ((Ledger.ofHistory reached.1).accepted,
          (Ledger.ofHistory reached.1).popped)) =
      .ok ([.fresh 0 16384], [⟨0, 16384, 8192, true, 0⟩]) := by decide +kernel
  obtain ⟨⟨history, last⟩, hr, hl⟩ := exists_of_map_eq_ok computed
  obtain ⟨haccepted, hpopped⟩ := Prod.mk.inj hl
  have hfirst : (Ledger.ofHistory history).popped[0]? = some ⟨0, 16384, 8192, true, 0⟩ :=
    congrArg (·[0]?) hpopped
  obtain ⟨hgiven, -⟩ := received_of_run (opened_trial _) hr
  obtain ⟨pushed, own, hown, hcount⟩ := hgiven 0 _ hfirst
  have hpushed : some (Superpage.fresh 0 16384) = some pushed :=
    (congrArg (·[0]?) haccepted).symm.trans hown.accepted_eq
  obtain rfl := Option.some.inj hpushed
  obtain ⟨hreceived, hfilled⟩ := hcount rfl
  exact ⟨history, last, hr, own, hown, hreceived.symm, mt hfilled.mpr (by decide)⟩

end Session

end Readout
