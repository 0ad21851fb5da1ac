import Readout.Proofs.Session.Coverage

/-!
Every superpage of a run is, at any time, what was pushed and what the reports on its pages have made
of it, however the reports are spread over the calls.
-/

namespace Readout

open Dma

namespace TransportCall

/-- The reports of a run when the call has been made: a start begins a new run. -/
def addTo (reports : List Report) : TransportCall → List Report
  | .start _ => []
  | call => reports ++ call.report?.toList

theorem addTo_eq {call : TransportCall} (h : ∀ answer, call ≠ .start answer)
    (reports : List Report) : call.addTo reports = reports ++ call.report?.toList := by
  cases call with
  | start answer => exact absurd rfl (h answer)
  | stop answer => rfl
  | push page answer => rfl
  | poll page answer => rfl

end TransportCall

/-- The reports since the transport was last started. -/
def runReports (calls : List TransportCall) : List Report :=
  calls.foldl TransportCall.addTo []

theorem runReports_concat (calls : List TransportCall) (call : TransportCall) :
    runReports (calls ++ [call]) = call.addTo (runReports calls) := by
  simp [runReports]

/-- Calls that begin no new run add their reports to those of the run. -/
theorem runReports_append {more : List TransportCall}
    (h : ∀ call ∈ more, ∀ answer, call ≠ .start answer) (calls : List TransportCall) :
    runReports (calls ++ more) = runReports calls ++ reportsIn more := by
  induction more using List.reverseRecOn with
  | nil => simp [reportsIn]
  | append_singleton more call ih =>
    rw [List.forall_mem_append, List.forall_mem_singleton] at h
    rw [← List.append_assoc, runReports_concat, ih h.1, TransportCall.addTo_eq h.2,
      reportsIn_append, ← List.append_assoc]
    cases hr : call.report? <;> simp [reportsIn, hr]

/-- What was reported is what has landed, with its length. -/
theorem map_page_runReports (calls : List TransportCall) :
    (runReports calls).map Report.page = (Traffic.ofCalls calls).landed := by
  induction calls using List.reverseRecOn with
  | nil => rfl
  | append_singleton calls call ih =>
    have htraffic : Traffic.ofCalls (calls ++ [call]) = (Traffic.ofCalls calls).record call := by
      simp [Traffic.ofCalls]
    rw [runReports_concat, htraffic]
    cases call with
    | start answer => rfl
    | stop answer => simpa [TransportCall.addTo, TransportCall.report?, Traffic.record] using ih
    | push page answer =>
      simpa [TransportCall.addTo, TransportCall.report?, Traffic.record] using ih
    | poll page answer =>
      rcases answer with error | _ | length <;>
        simpa [TransportCall.addTo, TransportCall.report?, Traffic.record] using ih

/-- The superpage was accepted at this place, and these reports are the ones on its pages. -/
structure Ledger.Allots (ledger : Ledger) (pageSize : Nat) (reports : List Report) (place : Nat)
    (pushed : Superpage) (own : List Report) : Prop where
  accepted_eq : ledger.accepted[place]? = some pushed
  shares_eq : (shares pageSize (ledger.accepted.map Superpage.identity) reports)[place]? = some own
  onPages : own.map (·.page.offset) <+: pushed.identity.pageOffsets pageSize

theorem Ledger.Allots.length_le {ledger : Ledger} {pageSize place : Nat} {reports own : List Report}
    {pushed : Superpage} (h : ledger.Allots pageSize reports place pushed own) :
    own.length ≤ pushed.identity.pages pageSize := by
  have hle := h.onPages.length_le
  rwa [List.length_map, Identity.length_pageOffsets] at hle

/-- Ready is what was pushed as ready, and what all pages were reported of. -/
theorem Ledger.Allots.ready_outcome_iff {ledger : Ledger} {pageSize place : Nat}
    {reports own : List Report} {pushed : Superpage}
    (h : ledger.Allots pageSize reports place pushed own) :
    (pushed.outcome pageSize own).ready = true ↔
      pushed.ready = true ∨ own.map (·.page.offset) = pushed.identity.pageOffsets pageSize := by
  have hall : own.length = pushed.identity.pages pageSize ↔
      own.map (·.page.offset) = pushed.identity.pageOffsets pageSize := by
    rw [← Identity.length_pageOffsets, ← List.length_map (·.page.offset)]
    exact ⟨h.onPages.eq_of_length, congrArg List.length⟩
  rw [Superpage.ready_outcome_iff, hall]

namespace Account

variable {ρ τ : Type} {config : ChannelConfig}

def reports (account : Account ρ (Recorder τ)) : List Report := runReports account.calls

theorem reports_of_calls (account after : Account ρ (Recorder τ)) {call : TransportCall}
    (h : after.session.transport.calls = account.session.transport.calls ++ [call]) :
    after.reports = call.addTo account.reports := by
  unfold reports calls
  rw [h, runReports_concat]

theorem reports_of_unreported (account after : Account ρ (Recorder τ)) {call : TransportCall}
    (h : after.session.transport.calls = account.session.transport.calls ++ [call])
    (hn : call.report? = none) (hs : ∀ answer, call ≠ .start answer) :
    after.reports = account.reports := by
  rw [reports_of_calls account after h, TransportCall.addTo_eq hs, hn]
  exact List.append_nil _

/-- The superpages that are over, as they were or will be popped. -/
def finished (account : Account ρ τ) : List Superpage :=
  account.ledger.popped ++ account.session.flow.tracker.ready

theorem map_identity_finished (account : Account ρ τ) :
    account.finished.map Superpage.identity = account.ended := by
  simp [finished, ended]

/-- What the reports make of the superpages is what is over and what would be at a stop. -/
structure Truthful (config : ChannelConfig) (account : Account ρ (Recorder τ)) : Prop where
  orderly : account.Orderly config account.traffic
  admitted : account.Admitted config
  outcomes_eq : outcomes config.pageSize account.ledger.accepted account.reports =
    account.finished ++ account.session.flow.tracker.transfer.map Transfer.finish

variable {session : Session ρ (Recorder τ)} {ledger : Ledger}

/-- While the session is started the reports have come as far as the counts of the transfers. -/
theorem Truthful.length_reports (h : Truthful config ⟨session, ledger⟩)
    (hs : session.state = .started) :
    (reports ⟨session, ledger⟩).length =
      total (Identity.pages config.pageSize) ((finished ⟨session, ledger⟩).map Superpage.identity) +
        session.flow.tracker.arrivedPages := by
  have hlanded := (h.orderly.running hs).length_landed
  have hreports := congrArg List.length (map_page_runReports (calls ⟨session, ledger⟩))
  rw [List.length_map] at hreports
  rw [map_identity_finished]
  exact hreports.trans hlanded

/-- No more pages were reported than were accepted. -/
theorem Truthful.length_reports_le (h : Truthful config ⟨session, ledger⟩)
    (hpage : 0 < config.pageSize) (hs : session.state = .started) :
    (reports ⟨session, ledger⟩).length ≤
      total (Identity.pages config.pageSize) (ledger.accepted.map Superpage.identity) := by
  have hi := h.orderly.coherent.inStep.inOrder
  have hsize := h.orderly.coherent.pageSize_eq
  have haccepted := h.orderly.balanced.accepted_eq
  dsimp only at hi hsize haccepted
  have htotal := hi.total_pages (by rw [hsize]; exact hpage) _ fun transfer ht => ht
  have harrived : session.flow.tracker.arrivedPages ≤
      total Transfer.pages session.flow.tracker.transfer := by
    apply total_le
    intro transfer ht
    have hsound := hi.sound transfer ht
    exact Nat.le_trans hsound.arrived_le_pushed hsound.pushed_le_pages
  rw [hsize] at htotal
  rw [h.length_reports hs, haccepted, total_append, htotal, map_identity_finished]
  omega

/-- The page that lands makes of its superpage what its report does. -/
theorem Truthful.exists_owner (h : Truthful config ⟨session, ledger⟩)
    (hpage : 0 < config.pageSize) (hs : session.state = .started) {page : Page}
    (hp : session.flow.inFlight.head? = some page) :
    Nonempty (session.flow.tracker.Owner ledger.accepted (finished ⟨session, ledger⟩)
      (reports ⟨session, ledger⟩)) := by
  have hi := h.orderly.coherent.inStep
  have hsize := h.orderly.coherent.pageSize_eq
  have hlength := h.length_reports hs
  have heq := h.outcomes_eq
  dsimp only at hi hsize heq
  rw [← hsize] at hpage hlength heq
  exact hi.inOrder.exists_owner hpage (hi.outstanding_ne_nil hp) hlength heq

/-- What has landed was taken in the order of the plan, so each superpage has its own pages. -/
theorem Truthful.allots {account : Account ρ (Recorder τ)} (h : account.Truthful config)
    {place : Nat} {pushed : Superpage} {own : List Report}
    (hpushed : account.ledger.accepted[place]? = some pushed)
    (hown : (shares config.pageSize (account.ledger.accepted.map Superpage.identity)
      account.reports)[place]? = some own) :
    account.ledger.Allots config.pageSize account.reports place pushed own := by
  have hidentity : (account.ledger.accepted.map Superpage.identity)[place]? =
      some pushed.identity := by
    rw [List.getElem?_map, hpushed]
    rfl
  have hplan : (account.reports.map Report.page).map Page.offset <+:
      (account.ledger.accepted.map Superpage.identity).flatMap (·.pageOffsets config.pageSize) := by
    rw [← map_offset_plan config.pageSize config.bufferPages, reports, map_page_runReports]
    exact (h.orderly.landed_isPrefix.trans h.orderly.follows.takenPages_isPrefix).map _
  rw [List.map_map] at hplan
  exact ⟨hpushed, hown, offsets_of_mem_shares hplan hidentity hown⟩

/-- Each superpage is what the reports on its own pages have made of what was pushed. -/
theorem Truthful.exists_outcome {account : Account ρ (Recorder τ)} (h : account.Truthful config)
    {place : Nat} {given : Superpage}
    (hg : (account.finished ++ account.session.flow.tracker.transfer.map Transfer.finish)[place]? =
      some given) :
    ∃ pushed own, account.ledger.Allots config.pageSize account.reports place pushed own ∧
      given = pushed.outcome config.pageSize own := by
  rw [← h.outcomes_eq] at hg
  obtain ⟨pushed, own, hpushed, hown, rfl⟩ := exists_of_mem_outcomes hg
  exact ⟨pushed, own, h.allots hpushed hown, rfl⟩

theorem Truthful.exists_outcome_of_finished {account : Account ρ (Recorder τ)}
    (h : account.Truthful config) {place : Nat} {given : Superpage}
    (hg : account.finished[place]? = some given) :
    ∃ pushed own, account.ledger.Allots config.pageSize account.reports place pushed own ∧
      given = pushed.outcome config.pageSize own := by
  apply h.exists_outcome
  rw [List.getElem?_append_left (List.getElem?_eq_some_iff.mp hg).1]
  exact hg

/-- Where nothing is in transfer all that was accepted is over. -/
theorem Truthful.identities_finished {account : Account ρ (Recorder τ)}
    (h : account.Truthful config) (ht : account.session.flow.tracker.transfer = []) :
    account.finished.map Superpage.identity = account.ledger.accepted.map Superpage.identity := by
  have houtcomes := congrArg (List.map Superpage.identity) h.outcomes_eq
  rw [ht, List.map_nil, List.append_nil, identities_outcomes] at houtcomes
  exact houtcomes.symm

theorem getElem?_finished {account : Account ρ τ} {place : Nat} {popped : Superpage}
    (h : account.ledger.popped[place]? = some popped) : account.finished[place]? = some popped := by
  rw [finished, List.getElem?_append_left (List.getElem?_eq_some_iff.mp h).1]
  exact h

theorem finish_start {superpage : Superpage} {pages : Nat} (h : pages ≠ 0) :
    (Transfer.start superpage pages).finish = superpage := by
  simp [Transfer.finish, Transfer.isComplete, Transfer.start, h.symm]

variable [PageTransport τ]

theorem Truthful.step {account after : Account ρ (Recorder τ)} (hpage : 0 < config.pageSize)
    (step : Step account after) (h : account.Truthful config) : after.Truthful config := by
  refine ⟨h.orderly.step hpage step, h.admitted.step h.orderly.coherent step, ?_⟩
  have heq := h.outcomes_eq
  cases step with
  | note => exact heq
  | @begin session ledger _ _ ha =>
    rw [reports_of_calls ⟨session, ledger⟩ _ (Recorder.calls_start ha)]
    rfl
  | @refuse session ledger _ _ _ ha =>
    rw [reports_of_calls ⟨session, ledger⟩ _ (Recorder.calls_start ha)]
    rfl
  | @accept session ledger superpage tracker hs hb ha hp =>
    have hadmitted := h.admitted.step h.orderly.coherent (.accept hs hb ha hp)
    have hpages := (hadmitted superpage (by simp [Ledger.accept])).pages_ne_zero hpage
    have hle := h.length_reports_le hpage hs
    have hsize := h.orderly.coherent.pageSize_eq
    obtain ⟨-, -, -, -, -, rfl⟩ := Tracker.push_eq_ok_iff.mp hp
    dsimp only at heq hsize
    have hnew : (Transfer.start superpage (superpage.size / session.flow.tracker.pageSize)).finish =
        superpage := finish_start (by rw [hsize]; exact hpages)
    have hpushed := outcomes_push hle hpages
    rw [heq] at hpushed
    simp only [Ledger.accept, List.map_append, List.map_singleton, hnew]
    exact hpushed.trans (List.append_assoc _ _ _)
  | @pageRefused session ledger _ _ _ _ _ hp =>
    rw [reports_of_unreported ⟨session, ledger⟩ _ (Recorder.calls_pushPage hp) rfl (by simp)]
    exact heq
  | @pageTaken session ledger _ _ flow _ hn hp hf =>
    rw [reports_of_unreported ⟨session, ledger⟩ _ (Recorder.calls_pushPage hp) rfl (by simp)]
    have htracker := Flow.tracker_of_handOut hn hf
    have hfinish : flow.tracker.transfer.map Transfer.finish =
        session.flow.tracker.transfer.map Transfer.finish := by
      rw [htracker]
      exact map_updateFirst _ Transfer.pagePushed _ (fun _ => rfl) _
    have hready : flow.tracker.ready = session.flow.tracker.ready := by
      rw [htracker]
      rfl
    dsimp only [finished]
    rw [hfinish, hready]
    exact heq
  | @pollFailed session ledger _ _ _ _ _ hp =>
    rw [reports_of_unreported ⟨session, ledger⟩ _ (Recorder.calls_pollPage hp) rfl (by simp)]
    exact heq
  | @pageOut session ledger _ _ _ _ hp =>
    rw [reports_of_unreported ⟨session, ledger⟩ _ (Recorder.calls_pollPage hp) rfl (by simp)]
    exact heq
  | @pageLanded session ledger page _ length _ flow hs hhead hp hf =>
    rw [reports_of_calls ⟨session, ledger⟩ _ (Recorder.calls_pollPage hp)]
    obtain ⟨owner⟩ := h.exists_owner hpage hs hhead
    have hlanded := owner.outcomes_concat ⟨page, length⟩
    rw [h.orderly.coherent.pageSize_eq] at hlanded
    dsimp only [finished]
    rw [Flow.tracker_of_land hf, Tracker.ready_pageArrived]
    exact hlanded
  | @promote session ledger _ =>
    dsimp only at heq
    rw [session.flow.tracker.transfer_eq_promotable_append, List.map_append,
      ← List.append_assoc] at heq
    exact heq.trans (congrArg (· ++ _) (List.append_assoc _ _ _))
  | @finish session ledger _ _ _ ha =>
    rw [reports_of_unreported ⟨session, ledger⟩ _ (Recorder.calls_stop ha) rfl (by simp)]
    refine heq.trans ?_
    simp [finished, Flow.finish, Tracker.reclaim]
  | @pop session ledger superpage tracker hp =>
    obtain ⟨ready, hready, rfl⟩ := Tracker.pop_eq_ok_iff.mp hp
    refine Eq.trans heq ?_
    simp [finished, Ledger.pop, hready]

theorem Truthful.path {account after : Account ρ (Recorder τ)} (hpage : 0 < config.pageSize)
    (path : Path account after) (h : account.Truthful config) : after.Truthful config :=
  path.keeps (P := fun account => account.Truthful config) (Truthful.step hpage) h

end Account

namespace Session

variable {ρ τ : Type} {transport : τ} {session last : Session ρ τ}

theorem Opened.truthful (h : session.Opened transport) :
    Account.Truthful session.config ⟨session.recorded, .empty⟩ := by
  obtain ⟨-, ho⟩ := h.orderly
  obtain ⟨-, hfresh⟩ := h.exists_fresh
  refine ⟨ho, nofun, ?_⟩
  rw [hfresh]
  rfl

variable [PageTransport τ] {operations : List Operation} {history : History}

/-- A run over a recorder of its transport is truthful at its end. -/
theorem Opened.exists_truthful (h : session.Opened transport)
    (hr : session.run operations = .ok (history, last)) :
    ∃ twin, session.recorded.run operations = .ok (history, twin) ∧ twin.unrecorded = last ∧
      Account.Truthful session.config ⟨twin, Ledger.ofHistory history⟩ ∧
      Account.reports ⟨twin, Ledger.ofHistory history⟩ = runReports (session.calls operations) := by
  obtain ⟨hpage, -⟩ := h.orderly
  obtain ⟨twin, ht, hl, hcalls⟩ := exists_recorded_of_run hr
  exact ⟨twin, ht, hl, h.truthful.path hpage (Account.run_path .empty ht),
    congrArg runReports hcalls⟩

/--
A superpage that is popped keeps the readiness that it was pushed with, and is made ready exactly
when each of its pages was reported. Reports are counted from the last start, those of a superpage
behind those of all that were accepted before it.
-/
theorem ready_of_run (h : session.Opened transport)
    (hr : session.run operations = .ok (history, last)) {place : Nat} {popped : Superpage}
    (hp : (Ledger.ofHistory history).popped[place]? = some popped) :
    ∃ pushed own, (Ledger.ofHistory history).Allots session.config.pageSize
        (runReports (session.calls operations)) place pushed own ∧
      popped.identity = pushed.identity ∧
      (popped.ready = true ↔ pushed.ready = true ∨
        own.map (·.page.offset) = pushed.identity.pageOffsets session.config.pageSize) := by
  obtain ⟨twin, -, -, htruth, hreports⟩ := h.exists_truthful hr
  obtain ⟨pushed, own, hown, rfl⟩ := htruth.exists_outcome_of_finished (Account.getElem?_finished hp)
  rw [hreports] at hown
  exact ⟨pushed, own, hown, Superpage.identity_outcome, hown.ready_outcome_iff⟩

/-- Of two superpages at a stop, one has all its pages and the other has none. -/
theorem ready_of_run_unfinished :
    ∃ history last,
      (trial (⟨[8192], none, false, false, false⟩ : Simulation.ScriptedTransport)).run
          [.start, .push (.fresh 0 8192), .push (.fresh 8192 8192), .stop, .pop, .pop] =
        .ok (history, last) ∧
      ∃ pushed own, (Ledger.ofHistory history).Allots 8192 (runReports ((trial (⟨[8192], none,
          false, false, false⟩ : Simulation.ScriptedTransport)).calls
          [.start, .push (.fresh 0 8192), .push (.fresh 8192 8192), .stop, .pop, .pop])) 1 pushed
          own ∧
        pushed.ready = false ∧ own.map (·.page.offset) ≠ pushed.identity.pageOffsets 8192 := by
  have computed : ((trial (⟨[8192], none, false, false, false⟩ : Simulation.ScriptedTransport)).run
      [.start, .push (.fresh 0 8192), .push (.fresh 8192 8192), .stop, .pop, .pop]).map
        (fun reached => (Ledger.ofHistory reached.1).popped) =
      .ok [⟨0, 8192, 8192, true, 0⟩, .fresh 8192 8192] := by decide +kernel
  obtain ⟨⟨history, last⟩, hr, hp⟩ := exists_of_map_eq_ok computed
  have hsecond : (Ledger.ofHistory history).popped[1]? = some (.fresh 8192 8192) := by
    rw [hp]
    rfl
  obtain ⟨pushed, own, hown, -, hready⟩ := ready_of_run (opened_trial _) hr hsecond
  obtain ⟨hunready, hmissing⟩ := not_or.mp (mt hready.mpr Bool.false_ne_true)
  exact ⟨history, last, hr, pushed, own, hown, Bool.eq_false_iff.mpr hunready, hmissing⟩

/-- A superpage that is pushed again as it was popped comes back ready with none of its pages. -/
theorem ready_of_run_recycled :
    ∃ history last,
      (trial (⟨[8192], none, false, false, false⟩ : Simulation.ScriptedTransport)).run
          [.start, .push (.fresh 0 8192), .fill, .pop, .push ⟨0, 8192, 8192, true, 0⟩, .stop,
            .pop] = .ok (history, last) ∧
      (Ledger.ofHistory history).popped = [⟨0, 8192, 8192, true, 0⟩, ⟨0, 8192, 8192, true, 0⟩] ∧
      shares 8192 ((Ledger.ofHistory history).accepted.map Superpage.identity)
        (runReports ((trial (⟨[8192], none, false, false, false⟩ :
          Simulation.ScriptedTransport)).calls
          [.start, .push (.fresh 0 8192), .fill, .pop, .push ⟨0, 8192, 8192, true, 0⟩, .stop,
            .pop])) = [[⟨⟨0, 0, 0, 8192⟩, 8192⟩], []] := by
  have computed : ((trial (⟨[8192], none, false, false, false⟩ : Simulation.ScriptedTransport)).run
      [.start, .push (.fresh 0 8192), .fill, .pop, .push ⟨0, 8192, 8192, true, 0⟩, .stop,
        .pop]).map (fun (history, _) => ((Ledger.ofHistory history).popped,
          (Ledger.ofHistory history).accepted.map Superpage.identity)) =
      .ok ([⟨0, 8192, 8192, true, 0⟩, ⟨0, 8192, 8192, true, 0⟩],
        [⟨0, 8192, 0⟩, ⟨0, 8192, 0⟩]) := by decide +kernel
  obtain ⟨⟨history, last⟩, hr, hl⟩ := exists_of_map_eq_ok computed
  obtain ⟨hpopped, haccepted⟩ := Prod.mk.inj hl
  refine ⟨history, last, hr, hpopped, ?_⟩
  rw [haccepted]
  decide +kernel

end Session

end Readout
