import Readout.Proofs.Session.InStep
import Readout.Proofs.Session.Moment

/-!
What a collection asks its transport and what it makes of the answers: the pages in flight in turn,
each credited with its report, up to the one that ends the collection.
-/

namespace Readout

/-- What the answer to a poll reports. -/
def TransportCall.report? : TransportCall → Option Dma.Report
  | .poll page (.ok (some length)) => some ⟨page, length⟩
  | _ => none

/-- The reports among the calls, oldest first. -/
def reportsIn (calls : List TransportCall) : List Dma.Report :=
  calls.filterMap TransportCall.report?

@[simp] theorem reportsIn_append (calls more : List TransportCall) :
    reportsIn (calls ++ more) = reportsIn calls ++ reportsIn more :=
  List.filterMap_append

/-- The poll that was answered with the report. -/
def Dma.Report.call (report : Dma.Report) : TransportCall :=
  .poll report.page (.ok (some report.length))

@[simp] theorem reportsIn_map_call (reports : List Dma.Report) :
    reportsIn (reports.map Dma.Report.call) = reports := by
  induction reports with
  | nil => rfl
  | cons report rest ih => simpa [reportsIn, Dma.Report.call, TransportCall.report?] using ih

/-- The reports that asking for the pages in turn would give, up to the first without one. -/
def landings {τ : Type} [PageTransport τ] : τ → List Dma.Page → List Dma.Report
  | _, [] => []
  | transport, page :: rest =>
    match PageTransport.pollPage transport page with
    | (.ok (some length), transport) => ⟨page, length⟩ :: landings transport rest
    | _ => []

namespace Account

open Session

variable {ρ τ : Type} [PageTransport τ] {config : ChannelConfig} {session next : Session ρ τ}
  {reports : List Dma.Report} {report : Dma.Report} {page : Dma.Page}

/-- A credited page is no longer than a page may be. -/
theorem Credits.length_le (h : Credits session reports next) :
    ∀ report ∈ reports, report.length ≤ session.flow.tracker.pageSize := by
  induction h with
  | nil => simp
  | @cons session last page transport length flow reports hp hc hf credits ih =>
    obtain ⟨-, hsize⟩ := Dma.Flow.sizes_of_land hf
    obtain ⟨-, ha, -⟩ := Dma.Flow.land_eq_ok_iff.mp hf
    rw [List.forall_mem_cons]
    refine ⟨Dma.Tracker.length_le_of_pageArrived (congrArg Prod.fst ha), fun report hr => ?_⟩
    rw [← hsize]
    exact ih report hr

/-- What was credited was asked for, and nothing else was asked. -/
theorem Credits.calls {session next : Session ρ (Recorder τ)}
    (h : Credits session reports next) :
    next.transport.calls = session.transport.calls ++ reports.map Dma.Report.call := by
  induction h with
  | nil => simp
  | cons _ hc _ _ ih =>
    rw [ih]
    simp [Recorder.calls_pollPage hc, Dma.Report.call]

/-- What was credited are the first of the pages that had landed. -/
theorem Credits.landings_eq (h : Credits session reports next) :
    landings session.transport session.flow.inFlight =
      reports ++ landings next.transport next.flow.inFlight := by
  induction h with
  | nil => rfl
  | cons hp hc hf _ ih =>
    obtain ⟨rest, hl⟩ := List.head?_eq_some_iff.mp hp
    have hrest := (Dma.Flow.land_eq_ok_iff.mp hf).2.2.2
    rw [hl, List.tail_cons] at hrest
    dsimp only at ih
    rw [hrest] at ih
    rw [hl, landings, hc, List.cons_append, ← ih]

/-- Behind reports that are credited in turn comes one more, with what its landing leads to. -/
inductive Landing (session : Session ρ τ) (reports : List Dma.Report) :
    Dma.Report → Except Dma.FlowFault (Except DmaError Unit) → Prop where
  | intro {middle : Session ρ τ} {page : Dma.Page} {length : Nat} {transport : τ}
      {result : Except Dma.FlowFault (Except DmaError Unit)} {flow : Dma.Flow} :
      Credits session reports middle →
      middle.flow.inFlight.head? = some page →
      PageTransport.pollPage middle.transport page = (.ok (some length), transport) →
      middle.flow.land page length = (result, flow) →
      Landing session reports ⟨page, length⟩ result

theorem Landing.exists_credits {result : Except Dma.FlowFault (Except DmaError Unit)}
    (h : Landing session reports report result) : ∃ middle, Credits session reports middle := by
  obtain ⟨credits, -⟩ := h
  exact ⟨_, credits⟩

theorem Landing.exists_landings {result : Except Dma.FlowFault (Except DmaError Unit)}
    (h : Landing session reports report result) :
    ∃ left, landings session.transport session.flow.inFlight = reports ++ report :: left := by
  obtain ⟨credits, hp, hc, -⟩ := h
  obtain ⟨rest, hl⟩ := List.head?_eq_some_iff.mp hp
  rw [credits.landings_eq, hl, landings, hc]
  exact ⟨_, rfl⟩

/-- The session that a credited page finds is coherent and started, as the first one was. -/
theorem Credits.coherent (h : Credits session reports next) (hc : session.Coherent config)
    (hs : session.state = .started) : next.Coherent config ∧ next.state = .started := by
  obtain ⟨hn, path⟩ := h.path .empty hs
  exact ⟨hc.path path, hn⟩

/-- A landing is refused for the length of the page, or by the superpage that waits for it. -/
theorem Landing.error_cases {error : DmaError}
    (h : Landing session reports report (.ok (.error error))) (hc : session.Coherent config)
    (hs : session.state = .started) :
    config.pageSize < report.length ∧ error = .pageOverrun report.length config.pageSize ∨
      report.length ≤ config.pageSize ∧
        ∃ requested size, error = .receivedOverflow requested size := by
  obtain ⟨credits, hp, -, hf⟩ := h
  obtain ⟨hm, -⟩ := credits.coherent hc hs
  have hcases := hm.inStep.error_cases_of_land hp hf
  rw [hm.pageSize_eq] at hcases
  rcases hcases with hlong | ⟨hle, transfer, -, -, he⟩
  · exact .inl hlong
  · exact .inr ⟨hle, _, _, he⟩

/-- The calls of a collection with its outcome. -/
inductive Collection (session : Session ρ (Recorder τ)) :
    List TransportCall → Except Failure Unit → Prop where
  | credited {reports : List Dma.Report} {last : List TransportCall}
      {outcome : Except Failure Unit} {middle : Session ρ (Recorder τ)} :
      Credits session reports middle →
      landings middle.transport middle.flow.inFlight = [] →
      reportsIn last = [] →
      (outcome = .ok () ∨ ∃ error, outcome = .error (.error error) ∧
        ∃ call ∈ last, call.error? = some error) →
      Collection session (reports.map Dma.Report.call ++ last) outcome
  | refused {reports : List Dma.Report} {report : Dma.Report} {error : DmaError} :
      Landing session reports report (.ok (.error error)) →
      Collection session ((reports ++ [report]).map Dma.Report.call)
        (.error (.error (.dma error)))
  | stuck {reports : List Dma.Report} {report : Dma.Report} {fault : Dma.FlowFault} :
      Landing session reports report (.error fault) →
      Collection session ((reports ++ [report]).map Dma.Report.call) (.error (.fault fault))

/-- Where the next page has not landed nothing more has. -/
theorem landings_eq_nil {transport after : τ} {rest : List Dma.Page}
    {answer : Except Error (Option Nat)} (hp : PageTransport.pollPage transport page = (answer, after))
    (ha : ∀ length, answer ≠ .ok (some length)) : landings transport (page :: rest) = [] := by
  rw [landings, hp]
  rcases answer with error | _ | length
  · rfl
  · rfl
  · exact absurd rfl (ha length)

theorem exists_poll_of_mem {call : TransportCall} (h : call ∈ reports.map Dma.Report.call) :
    ∃ page answer, call = .poll page answer := by
  obtain ⟨report, -, rfl⟩ := List.mem_map.mp h
  exact ⟨_, _, rfl⟩

/-- The poll behind those that were credited. -/
theorem Credits.poll {session middle : Session ρ (Recorder τ)}
    (h : Credits session reports middle) {answer : Except Error (Option Nat)}
    {transport : Recorder τ}
    (hp : PageTransport.pollPage middle.transport page = (answer, transport)) :
    transport.calls = session.transport.calls ++
        (reports.map Dma.Report.call ++ [.poll page answer]) ∧
      ∀ call ∈ reports.map Dma.Report.call ++ [.poll page answer],
        ∃ page answer, call = .poll page answer := by
  refine ⟨?_, ?_⟩
  · rw [Recorder.calls_pollPage hp, h.calls, List.append_assoc]
  · rw [List.forall_mem_append, List.forall_mem_singleton]
    exact ⟨fun call => exists_poll_of_mem, page, answer, rfl⟩

/-- A poll that is answered with a report joins those that were credited. -/
theorem Credits.poll_landed {session middle : Session ρ (Recorder τ)}
    (h : Credits session reports middle) {length : Nat} {transport : Recorder τ}
    (hp : PageTransport.pollPage middle.transport page = (.ok (some length), transport)) :
    transport.calls = session.transport.calls ++
        (reports ++ [Dma.Report.mk page length]).map Dma.Report.call ∧
      ∀ call ∈ (reports ++ [Dma.Report.mk page length]).map Dma.Report.call,
        ∃ page answer, call = .poll page answer := by
  refine ⟨?_, fun call => exists_poll_of_mem⟩
  obtain ⟨hcalls, -⟩ := h.poll hp
  rw [hcalls, List.map_append]
  rfl

/-- A collection polls, and makes no other call. -/
theorem exists_collection {session next : Session ρ (Recorder τ)}
    {outcome : Except Failure Unit} (h : collectArrivals.on session = (outcome, next)) :
    ∃ polls, next.transport.calls = session.transport.calls ++ polls ∧
      (∀ call ∈ polls, ∃ page answer, call = .poll page answer) ∧
      Collection session polls outcome := by
  obtain ⟨reports, middle, credits, ends⟩ := collect_credits session rfl
  change CollectEnd middle (collectArrivals.on session) at ends
  rw [h] at ends
  cases ends with
  | done hl =>
    refine ⟨reports.map Dma.Report.call ++ [], ?_, ?_, .credited credits ?_ rfl (.inl rfl)⟩
    · rw [credits.calls, List.append_nil]
    · rw [List.append_nil]
      exact fun call => exists_poll_of_mem
    · rw [hl]
      rfl
  | @failed page error _ hp hc =>
    obtain ⟨rest, hl⟩ := List.head?_eq_some_iff.mp hp
    obtain ⟨hcalls, hpolls⟩ := credits.poll hc
    refine ⟨_, hcalls, hpolls, .credited credits ?_ rfl
      (.inr ⟨error, rfl, .poll page (.error error), List.mem_singleton_self _, rfl⟩)⟩
    rw [hl]
    exact landings_eq_nil hc nofun
  | out hp hc =>
    obtain ⟨rest, hl⟩ := List.head?_eq_some_iff.mp hp
    obtain ⟨hcalls, hpolls⟩ := credits.poll hc
    refine ⟨_, hcalls, hpolls, .credited credits ?_ rfl (.inl rfl)⟩
    rw [hl]
    exact landings_eq_nil hc nofun
  | fault hp hc hf =>
    obtain ⟨hcalls, hpolls⟩ := credits.poll_landed hc
    exact ⟨_, hcalls, hpolls, .stuck (.intro credits hp hc hf)⟩
  | uncredited hp hc hf =>
    obtain ⟨hcalls, hpolls⟩ := credits.poll_landed hc
    exact ⟨_, hcalls, hpolls, .refused (.intro credits hp hc hf)⟩

variable {session : Session ρ (Recorder τ)} {polls : List TransportCall}
  {outcome : Except Failure Unit}

/-- A page that is too long ends the collection that it is reported to. -/
theorem Collection.overrun (h : Collection session polls outcome) (hc : session.Coherent config)
    (hs : session.state = .started) (hr : report ∈ reportsIn polls)
    (hlong : config.pageSize < report.length) :
    outcome = .error (.error (.dma (.pageOverrun report.length config.pageSize))) := by
  have short {reports : List Dma.Report} {middle : Session ρ (Recorder τ)}
      (credits : Credits session reports middle) : report ∉ reports := by
    intro hm
    have hle := credits.length_le report hm
    rw [hc.pageSize_eq] at hle
    omega
  have last {reports : List Dma.Report} {last : Dma.Report}
      {result : Except Dma.FlowFault (Except DmaError Unit)}
      (hl : Landing session reports last result) (hr : report ∈ reports ++ [last]) :
      report = last := by
    obtain ⟨middle, credits⟩ := hl.exists_credits
    rcases List.mem_append.mp hr with hr | hr
    · exact absurd hr (short credits)
    · exact List.mem_singleton.mp hr
  cases h with
  | credited credits _ hlast _ =>
    rw [reportsIn_append, reportsIn_map_call, hlast, List.append_nil] at hr
    exact absurd hr (short credits)
  | refused hl =>
    rw [reportsIn_map_call] at hr
    obtain rfl := last hl hr
    rcases hl.error_cases hc hs with ⟨-, he⟩ | ⟨hle, -⟩
    · rw [he]
    · omega
  | stuck hl =>
    rw [reportsIn_map_call] at hr
    obtain rfl := last hl hr
    obtain ⟨credits, hp, -, hf⟩ := hl
    obtain ⟨hm, -⟩ := credits.coherent hc hs
    obtain ⟨hle, -⟩ := hm.inStep.overflow_of_land hp hf
    rw [hm.pageSize_eq] at hle
    dsimp only at hlong
    omega

/-- An error of a collection is an answer of the transport or the refusal of a landing. -/
theorem Collection.error_cases {error : Error} (h : Collection session polls outcome)
    (he : outcome = .error (.error error)) :
    (∃ call ∈ polls, call.error? = some error) ∨
      ∃ reports report dmaError, reportsIn polls = reports ++ [report] ∧
        error = .dma dmaError ∧ Landing session reports report (.ok (.error dmaError)) := by
  cases h with
  | credited _ _ _ hanswer =>
    rcases hanswer with rfl | ⟨other, rfl, call, hc, hanswered⟩
    · simp at he
    · obtain rfl : other = error := by simpa using he
      exact .inl ⟨call, List.mem_append_right _ hc, hanswered⟩
  | @refused reports report dmaError hl =>
    obtain rfl : .dma dmaError = error := by simpa using he
    exact .inr ⟨reports, report, dmaError, reportsIn_map_call _, rfl, hl⟩
  | stuck => simp at he

end Account

end Readout
