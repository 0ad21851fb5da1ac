import Readout.Proofs.Session.Delivery
import Readout.Proofs.Session.Reached
import Readout.Simulation.ScriptedTransport

/-!
A session never gets stuck. Whatever is reported of the oldest page in flight, fewer pages are
awaited behind the fill that asks for it; a fill that succeeds leaves pages in flight for as long as
one is awaited, and moves to the ready queue all that it has room for.
-/

namespace Readout

open Dma

namespace Dma.Flow

variable {flow next : Flow} {page : Page}

/-- A page that lands is awaited no more, even where its landing is refused or ends in a fault. -/
theorem InStep.awaited_of_land (h : flow.InStep) (hp : flow.inFlight.head? = some page)
    {length : Nat} {result : Except FlowFault (Except DmaError Unit)}
    (hf : flow.land page length = (result, next)) :
    next.tracker.awaited + 1 = flow.tracker.awaited := by
  have hless := h.inOrder.awaited_pageArrived (h.outstanding_ne_nil hp) length
  rw [h.land_eq hp] at hf
  rcases ha : flow.tracker.pageArrived length with ⟨overflow | credited, tracker⟩ <;>
  · rw [ha] at hf hless
    obtain ⟨-, rfl⟩ := Prod.mk.inj hf
    exact hless

/-- A transfer that waits for a page that was handed out has it in flight. -/
theorem InStep.inFlight_ne_nil (h : flow.InStep) {transfer : Transfer}
    (ht : transfer ∈ flow.tracker.transfer) (hlt : transfer.arrived < transfer.pushed) :
    flow.inFlight ≠ [] := by
  intro hnil
  have hlength := h.length_outstanding
  rw [hnil, List.length_nil, List.length_eq_zero_iff, Tracker.outstanding,
    List.flatMap_eq_nil_iff] at hlength
  have hnone := congrArg List.length (hlength transfer ht)
  rw [Transfer.length_outstanding, Transfer.inFlight, List.length_nil] at hnone
  omega

/-- With nothing in flight the rings have room, unless they can hold nothing. -/
theorem InStep.free_pos (h : flow.InStep) (hnil : flow.inFlight = [])
    (hcapacity : 0 < flow.ring.capacity) : 0 < flow.ring.free := by
  have hbuffer := h.buffer_size
  have hfifo := h.fifo_size
  rw [hnil, List.length_nil] at hbuffer hfifo
  simp only [Ring.free, Ring.bufferFree, Ring.fifoFree, hbuffer, hfifo, fifoDepth]
  omega

/-- Nothing is left to go out: the rings are full or every page is out. -/
theorem InStep.full_or_pushed (h : flow.InStep) (hn : flow.nextPage? = none) :
    flow.ring.free = 0 ∨ ∀ transfer ∈ flow.tracker.transfer, transfer.pushed = transfer.pages := by
  by_cases hfree : flow.ring.free = 0
  · exact .inl hfree
  · rw [nextPage?, if_neg hfree, Option.map_eq_none_iff] at hn
    exact .inr (h.inOrder.pushed_eq_of_nextPage hn)

/-- While a page is awaited one is in flight, if all that has room is out. -/
theorem InStep.inFlight_ne_nil_of_awaited (h : flow.InStep) (hcapacity : 0 < flow.ring.capacity)
    (hn : flow.nextPage? = none) {transfer : Transfer} (ht : transfer ∈ flow.tracker.transfer)
    (hlt : transfer.arrived < transfer.pages) : flow.inFlight ≠ [] := by
  intro hnil
  rcases h.full_or_pushed hn with hfull | hpushed
  · have hroom := h.free_pos hnil hcapacity
    omega
  · apply h.inFlight_ne_nil ht _ hnil
    rw [hpushed transfer ht]
    exact hlt

end Dma.Flow

namespace Account

open Session

variable {ρ τ : Type} [PageTransport τ] {config : ChannelConfig} {session next : Session ρ τ}
  {reports : List Report}

/-- Each page that is credited is awaited no more. -/
theorem Credits.awaited (h : Credits session reports next) (hi : session.flow.InStep) :
    next.flow.tracker.awaited + reports.length = session.flow.tracker.awaited ∧
      next.flow.InStep := by
  induction h with
  | nil => exact ⟨rfl, hi⟩
  | cons hp _ hf _ ih =>
    have hless := hi.awaited_of_land hp hf
    obtain ⟨hrest, hn⟩ := ih (hi.land hp hf)
    dsimp only at hrest
    rw [List.length_cons]
    exact ⟨by omega, hn⟩

theorem CollectEnd.awaited_le {outcome : Except Failure Unit}
    (h : CollectEnd session (outcome, next)) (hi : session.flow.InStep) :
    next.flow.tracker.awaited ≤ session.flow.tracker.awaited := by
  cases h with
  | done => exact Nat.le_refl _
  | failed => exact Nat.le_refl _
  | out => exact Nat.le_refl _
  | fault hp _ hf => exact Nat.le_of_lt (Nat.lt_of_succ_le (hi.awaited_of_land hp hf).le)
  | uncredited hp _ hf => exact Nat.le_of_lt (Nat.lt_of_succ_le (hi.awaited_of_land hp hf).le)

/-- A collection that succeeds ends where a page has not landed, or where none is left. -/
theorem CollectEnd.flow_eq (h : CollectEnd session (.ok (), next)) : next.flow = session.flow := by
  cases h with
  | done => rfl
  | out => rfl

/-- A collection that begins with a report leaves fewer pages awaited, however it ends. -/
theorem awaited_lt_of_collect {middle : Session ρ τ} {outcome : Except Failure Unit} {page : Page}
    {length : Nat} {transport : τ} (hc : Credits session reports middle)
    (he : CollectEnd middle (outcome, next)) (hi : session.flow.InStep)
    (hp : session.flow.inFlight.head? = some page)
    (hpoll : PageTransport.pollPage session.transport page = (.ok (some length), transport)) :
    next.flow.tracker.awaited < session.flow.tracker.awaited := by
  obtain ⟨hless, hm⟩ := hc.awaited hi
  have hle := he.awaited_le hm
  cases hc with
  | cons =>
    rw [List.length_cons] at hless
    omega
  | nil =>
    -- the first page that is asked for is also the one that ends the collection
    cases he with
    | done hnil => simp [hnil] at hp
    | failed hp' hc =>
      obtain rfl := Option.some.inj (hp'.symm.trans hp)
      simp [hc] at hpoll
    | out hp' hc =>
      obtain rfl := Option.some.inj (hp'.symm.trans hp)
      simp [hc] at hpoll
    | fault hp' _ hf =>
      have := hi.awaited_of_land hp' hf
      dsimp only
      omega
    | uncredited hp' _ hf =>
      have := hi.awaited_of_land hp' hf
      dsimp only
      omega

end Account

namespace Session

variable {ρ τ : Type} [PageTransport τ] {config : ChannelConfig} {session next : Session ρ τ}

/-- What a fill of a started session does: it collects, promotes what is complete, and refills. -/
inductive Filling (session : Session ρ τ) : Except Failure Nat × Session ρ τ → Prop where
  | uncollected {reports : List Report} {middle next : Session ρ τ} {failure : Failure} :
      Account.Credits session reports middle →
      Account.CollectEnd middle (.error failure, next) →
      Filling session (.error failure, next)
  | collected {reports : List Report} {middle collected next : Session ρ τ}
      {refilled : Except Error Unit} :
      Account.Credits session reports middle →
      Account.CollectEnd middle (.ok (), collected) →
      Refilled { collected with flow := collected.flow.promote.2 } (refilled, next) →
      Filling session
        ((refilled.map fun _ => collected.flow.promote.1).mapError .error, next)

theorem filling_fill (hs : session.state = .started) : Filling session (fill.on session) := by
  obtain ⟨reports, middle, credits, ends⟩ := Account.collect_credits session rfl
  change Account.CollectEnd middle (collectArrivals.on session) at ends
  rcases hc : collectArrivals.on session with ⟨failure | _, collected⟩
  · rw [hc] at ends
    rw [on_fill_of_uncollected hs hc]
    exact .uncollected credits ends
  · rw [hc] at ends
    obtain ⟨refilled, next, hr, hrefilled⟩ :=
      exists_refilled { collected with flow := collected.flow.promote.2 }
    rw [on_fill_of_collected hs hc hr]
    exact .collected credits ends hrefilled

/-- Fewer pages are awaited when a fill is told of the oldest page in flight. -/
theorem Filling.awaited_lt {outcome : Except Failure Nat} (h : Filling session (outcome, next))
    (hi : session.flow.InStep) {page : Page} {length : Nat} {transport : τ}
    (hp : session.flow.inFlight.head? = some page)
    (hpoll : PageTransport.pollPage session.transport page = (.ok (some length), transport)) :
    next.flow.tracker.awaited < session.flow.tracker.awaited := by
  generalize ho : (outcome, next) = filled at h
  cases h with
  | uncollected credits ends =>
    obtain ⟨-, rfl⟩ := Prod.mk.inj ho
    exact Account.awaited_lt_of_collect credits ends hi hp hpoll
  | @collected _ _ collected _ _ credits ends hrefilled =>
    obtain ⟨-, rfl⟩ := Prod.mk.inj ho
    have hpromoted := collected.flow.tracker.awaited_promote
    have hsame := hrefilled.sameQueues.awaited_eq
    rw [hsame]
    exact hpromoted.trans_lt (Account.awaited_lt_of_collect credits ends hi hp hpoll)

/-- What a fill that succeeds leaves: nothing that there is room for was held back. -/
structure Supplied (config : ChannelConfig) (session : Session ρ τ) : Prop where
  full_or_pushed : session.flow.ring.free = 0 ∨
    ∀ transfer ∈ session.flow.tracker.transfer, transfer.pushed = transfer.pages
  inFlight_of_awaited : ∀ transfer ∈ session.flow.tracker.transfer,
    transfer.arrived < transfer.pages → session.flow.inFlight ≠ []
  full_or_incomplete : config.readyCapacity ≤ session.flow.tracker.ready.length ∨
    ∀ transfer ∈ session.flow.tracker.transfer, transfer.isComplete = false

theorem Filling.supplied {ledger : Ledger} {promoted : Nat}
    (h : Filling session (.ok promoted, next)) (hpage : 0 < config.pageSize)
    (hs : session.state = .started) (hsound : Account.Sound config ⟨session, ledger⟩)
    (hnext : Account.Sound config ⟨next, ledger⟩) : next.Supplied config := by
  have hi := hnext.coherent.inStep
  generalize ho : ((.ok promoted : Except Failure Nat), next) = filled at h
  cases h with
  | uncollected => simp at ho
  | @collected _ middle collected _ refilled credits ends hrefilled =>
    obtain ⟨hresult, rfl⟩ := Prod.mk.inj ho
    have hsame := hrefilled.sameQueues
    cases hrefilled with
    | refused => simp [Except.map] at hresult
    | done _ hn =>
      refine ⟨hi.full_or_pushed hn, ?_, ?_⟩
      · intro transfer ht hlt
        have hcapacity := hnext.capacity_pos hpage (List.ne_nil_of_mem ht)
        exact hi.inFlight_ne_nil_of_awaited hcapacity hn ht hlt
      · have hmiddle := hsound.path (credits.path ledger hs).2
        have hcases := hmiddle.coherent.inStep.inOrder.promote_cases
        rw [hmiddle.stocked.readyCapacity_eq, ← ends.flow_eq] at hcases
        rw [hsame.ready_eq]
        refine hcases.imp_right fun hincomplete transfer ht => ?_
        obtain ⟨other, hother, heq⟩ := hsame.exists_of_mem ht
        exact (congrArg Transfer.isComplete heq).symm.trans (hincomplete other hother)

/--
No fill leaves a session stuck: what is reported of the oldest page in flight brings the transfers
on by a page, even where the fill then fails, and a fill that succeeds hands out every page that the
rings have room for and promotes every complete superpage that the ready queue has room for. The
rings can hold a page whenever a superpage is queued, so a page that is awaited is in flight.
-/
theorem progress_of_run {transport : τ} {last : Session ρ τ} (h : session.Opened transport)
    {operations : List Operation} {history : History}
    (hr : session.run operations = .ok (history, last)) (hs : last.state = .started) :
    (∀ page length after, last.flow.inFlight.head? = some page →
      PageTransport.pollPage last.transport page = (.ok (some length), after) →
      (last.perform .fill).2.flow.tracker.awaited < last.flow.tracker.awaited) ∧
    (∀ answer next, last.perform .fill = (.ok (.ok answer), next) →
      next.Supplied session.config) ∧
    (last.flow.tracker.transfer ≠ [] → 0 < last.flow.ring.capacity) := by
  have hpage := h.pageSize_pos
  have hsound := h.sound_of_run hr
  refine ⟨?_, ?_, hsound.capacity_pos hpage⟩
  · intro page length after hp hpoll
    have hfilling := filling_fill hs
    rcases hf : fill.on last with ⟨outcome, next⟩
    have hnext : (last.perform .fill).2 = next := by
      rw [perform, hf]
      rcases outcome with (error | fault) | promoted <;> rfl
    rw [hf] at hfilling
    rw [hnext]
    exact hfilling.awaited_lt hsound.coherent.inStep hp hpoll
  · intro answer next hp
    have hnext : Account.Sound session.config ⟨next, Ledger.ofHistory history⟩ :=
      hsound.path (Account.perform_path _ hp)
    obtain ⟨result, hf, hanswer⟩ := exists_of_returned hp
    have hfilling := filling_fill hs
    rw [hf] at hfilling
    cases result with
    | error error => simp [Except.map] at hanswer
    | ok promoted => exact hfilling.supplied hpage hs hsound hnext

/-- A page that is too long fails a fill, which brings its superpage on; the next fill succeeds. -/
theorem progress_of_run_overrun :
    (∃ history last next,
      (trial (⟨[9000], none, false, false, false⟩ : Simulation.ScriptedTransport)).run
          [.start, .push (.fresh 0 16384)] = .ok (history, last) ∧
      last.perform .fill = (.ok (.error (.dma (.pageOverrun 9000 8192))), next) ∧
      next.flow.tracker.awaited < last.flow.tracker.awaited) ∧
    ∃ history last next,
      (trial (⟨[9000], none, false, false, false⟩ : Simulation.ScriptedTransport)).run
          [.start, .push (.fresh 0 16384), .fill] = .ok (history, last) ∧
      last.perform .fill = (.ok (.ok (.promoted 0)), next) ∧ next.Supplied trialConfig := by
  have computed : ((trial (⟨[9000], none, false, false, false⟩ :
      Simulation.ScriptedTransport)).run [.start, .push (.fresh 0 16384)]).map
        (fun reached => (reached.2.state, reached.2.flow.inFlight.head?,
          (PageTransport.pollPage reached.2.transport ⟨0, 0, 0, 8192⟩).1)) =
      .ok (.started, some ⟨0, 0, 0, 8192⟩, .ok (some 9000)) := by decide +kernel
  have failing : ((trial (⟨[9000], none, false, false, false⟩ :
      Simulation.ScriptedTransport)).run [.start, .push (.fresh 0 16384)]).map
        (fun reached => (reached.2.perform .fill).1) =
      .ok (.ok (.error (.dma (.pageOverrun 9000 8192)))) := by decide +kernel
  have continued : ((trial (⟨[9000], none, false, false, false⟩ :
      Simulation.ScriptedTransport)).run [.start, .push (.fresh 0 16384), .fill]).map
        (fun reached => (reached.2.state, (reached.2.perform .fill).1)) =
      .ok (.started, .ok (.ok (.promoted 0))) := by decide +kernel
  constructor
  · obtain ⟨⟨history, last⟩, hr, hl⟩ := exists_of_map_eq_ok computed
    rw [hr] at failing
    simp only [Prod.mk.injEq] at hl
    obtain ⟨hs, hp, hpoll⟩ := hl
    obtain ⟨hless, -, -⟩ := progress_of_run (opened_trial _) hr hs
    exact ⟨history, last, _, hr, Prod.ext (Except.ok.inj failing) rfl,
      hless _ _ _ hp (Prod.ext hpoll rfl)⟩
  · obtain ⟨⟨history, last⟩, hr, hl⟩ := exists_of_map_eq_ok continued
    obtain ⟨hs, hfilled⟩ := Prod.mk.inj hl
    obtain ⟨-, hsupplied, -⟩ := progress_of_run (opened_trial _) hr hs
    exact ⟨history, last, _, hr, Prod.ext hfilled rfl, hsupplied _ _ (Prod.ext hfilled rfl)⟩

end Session

end Readout
