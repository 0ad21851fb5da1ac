import Readout.Proofs.Dma.Fits
import Readout.Proofs.Session.Course

/-!
No call on a session ends in a fault: the rings are never asked for what they do not have, the page
that lands is the one at the tail, and no count overflows in a buffer that memory has room for.
-/

namespace Readout

/-- What is in transfer lies in the buffer, if what was accepted counted no more than it holds. -/
def Account.Fitting {ρ τ : Type} (account : Account ρ τ) : Prop :=
  (∀ superpage ∈ account.ledger.accepted, superpage.received ≤ superpage.size) →
    account.session.flow.tracker.Fits account.session.config.buffer.size

theorem Account.Fitting.step {ρ τ : Type} [PageTransport τ] {account after : Account ρ τ}
    (step : Account.Step account after) (h : account.Fitting) : after.Fitting := by
  intro ha
  cases step with
  | note => exact h ha
  | begin => exact Dma.Tracker.fits_of_transfer_eq_nil rfl
  | refuse => exact Dma.Tracker.fits_of_transfer_eq_nil rfl
  | @accept session _ superpage _ _ hb _ ht =>
    have hnew : superpage.Fits session.config.buffer.size := by
      refine ⟨?_, ha superpage (by simp [Ledger.accept])⟩
      simp only [Session.isInBuffer, Bool.and_eq_true, decide_eq_true_eq] at hb
      exact hb.2
    have hold := h fun other ho => ha other (List.mem_append_left _ ho)
    exact hold.push hnew ht
  | pageRefused => exact h ha
  | pageTaken _ hn _ hf =>
    dsimp only
    rw [Dma.Flow.tracker_of_handOut hn hf]
    exact (h ha).pagePushed
  | pollFailed => exact h ha
  | pageOut => exact h ha
  | pageLanded _ _ _ hf =>
    dsimp only
    rw [Dma.Flow.tracker_of_land hf]
    exact (h ha).pageArrived _
  | promote => exact (h ha).promote
  | finish => exact Dma.Tracker.fits_of_transfer_eq_nil rfl
  | pop hp => exact (h ha).pop hp

namespace Session

variable {ρ τ : Type} {config : ChannelConfig}

/--
What the next calls rest on: every count is at least what is taken from it, a ring in use is a
circle, and each ring has room for the next page and a slot to give back for the oldest one.
-/
structure Safe (session : Session ρ τ) : Prop where
  buffer_size_le : session.flow.ring.buffer.size ≤ session.flow.ring.capacity
  fifo_size_le : session.flow.ring.fifo.size ≤ Dma.fifoDepth
  capacity_pos : 0 < session.flow.ring.buffer.size → 0 < session.flow.ring.capacity
  arrived_le : ∀ transfer ∈ session.flow.tracker.transfer, transfer.arrived ≤ transfer.pushed
  advanceHead : ∀ page, session.flow.nextPage? = some page →
    ∃ ring, session.flow.ring.advanceHead = .ok ring
  slot_eq : ∀ page, session.flow.inFlight.head? = some page →
    page.fifoIndex = session.flow.ring.fifo.tail
  advanceTail : ∀ page, session.flow.inFlight.head? = some page →
    ∃ ring, session.flow.ring.advanceTail = .ok ring

theorem Coherent.safe {session : Session ρ τ} (h : session.Coherent config) : session.Safe := by
  have hi := h.inStep
  have hcapacity := hi.length_le_capacity
  have hdepth := hi.length_le_depth
  have hb := hi.buffer_size
  have hd := hi.fifo_size
  constructor
  · omega
  · omega
  · omega
  · intro transfer ht
    exact (hi.inOrder.sound transfer ht).arrived_le_pushed
  · intro page hn
    obtain ⟨hfree, -⟩ := Dma.Flow.nextPage?_eq_some_iff.mp hn
    exact ⟨_, Dma.Ring.advanceHead_eq_ok hfree⟩
  · intro page hp
    exact hi.fifoIndex_head hp
  · intro page hp
    exact ⟨_, hi.advanceTail_eq hp⟩

/-- The session was answered with the error by its transport. -/
def WasAnswered (error : Error) (session : Session ρ (Recorder τ)) : Prop :=
  ∃ call ∈ session.transport.calls, call.error? = some error

theorem Answered.wasAnswered {error : Error} {session next : Session ρ (Recorder τ)}
    (h : Answered error session next) : next.WasAnswered error := by
  obtain ⟨more, hmore, call, hc, he⟩ := h
  exact ⟨call, by rw [hmore]; exact List.mem_append_right _ hc, he⟩

theorem Disallows.ne_unexpected {session : Session ρ τ} {operation : Operation} {error : DmaError}
    (h : session.Disallows operation error) : error ≠ .unexpectedArrival := by
  rintro rfl
  cases h with
  | refused hp => exact Dma.Tracker.push_ne_unexpected hp
  | empty hp => exact Dma.Tracker.pop_ne_unexpected hp

variable [PageTransport τ]

/-- Calls that are given built superpages keep what is in transfer inside the buffer. -/
theorem fits_of_perform {session next : Session ρ τ} {operation : Operation}
    {answer : Except Error Answer}
    (hbuilt : ∀ superpage, operation = .push superpage → superpage.Built)
    (hf : session.flow.tracker.Fits session.config.buffer.size)
    (h : session.perform operation = (.ok answer, next)) :
    next.flow.tracker.Fits next.config.buffer.size := by
  have hstart : Account.Fitting ⟨session, .empty⟩ := fun _ => hf
  refine (Account.perform_path .empty h).keeps Account.Fitting.step hstart ?_
  intro superpage hs
  rcases Ledger.mem_accepted_record hs with hs | hpushed
  · simp [Ledger.empty] at hs
  · exact (hbuilt superpage hpushed).received_le_size

/-- In a buffer that memory has room for, every call returns. -/
theorem exists_perform {session : Session ρ τ} (hc : session.Coherent config)
    (hf : session.flow.tracker.Fits session.config.buffer.size)
    (hb : config.buffer.size < memoryBound) (operation : Operation) :
    ∃ answer next, session.perform operation = (.ok answer, next) := by
  rcases h : session.perform operation with ⟨fault | answer, next⟩
  · exfalso
    obtain ⟨middle, path, length, overflow, ha, -⟩ := exists_overflows_of_perform .empty hc h
    have hstart : Account.Fitting ⟨session, .empty⟩ := fun _ => hf
    have hm := hc.path path
    have hmiddle : middle.flow.tracker.Fits middle.config.buffer.size :=
      path.keeps Account.Fitting.step hstart (by simp [Ledger.empty])
    rw [hm.config_eq] at hmiddle
    exact hmiddle.pageArrived_ne_error hm.inStep.inOrder hb length overflow ha
  · exact ⟨answer, next, rfl⟩

theorem exists_run {session : Session ρ τ} {operations : List Operation}
    (hc : session.Coherent config)
    (hf : session.flow.tracker.Fits session.config.buffer.size)
    (hb : config.buffer.size < memoryBound)
    (hbuilt : ∀ superpage, .push superpage ∈ operations → superpage.Built) :
    ∃ history last, session.run operations = .ok (history, last) := by
  induction operations generalizing session with
  | nil => exact ⟨[], session, rfl⟩
  | cons operation rest ih =>
    obtain ⟨answer, next, hp⟩ := exists_perform hc hf hb operation
    have hcoherent : next.Coherent config := hc.path (Account.perform_path .empty hp)
    have hfits := fits_of_perform
      (fun superpage he => hbuilt superpage (he ▸ List.mem_cons_self)) hf hp
    obtain ⟨history, last, hr⟩ := ih hcoherent hfits
      fun superpage hs => hbuilt superpage (List.mem_cons_of_mem _ hs)
    refine ⟨⟨session.state, operation, answer⟩ :: history, last, ?_⟩
    simp only [run, hp, hr, Except.map]

/-- A call reports a page that nobody waits for only if its transport did. -/
theorem wasAnswered_of_perform {session next : Session ρ (Recorder τ)} {operation : Operation}
    (hc : session.Coherent config)
    (h : session.perform operation = (.ok (.error (.dma .unexpectedArrival)), next)) :
    next.WasAnswered (.dma .unexpectedArrival) := by
  rcases error_cases_of_perform h with
    hanswered | ⟨dmaError, he, hd⟩ | ⟨hs, log, _, _, _, _, -, -, he, hl⟩
  · exact hanswered.wasAnswered
  · obtain rfl := Error.dma.inj he
    exact absurd rfl hd.ne_unexpected
  · obtain rfl := Error.dma.inj he
    have hnoted : ({ session with log := log } : Session ρ (Recorder τ)).Coherent config :=
      hc.of_flow rfl rfl
    -- a page that lands is one that a transfer waits for
    rcases hl.error_cases hnoted hs with ⟨-, he⟩ | ⟨-, _, _, he⟩ <;> simp at he

/--
Over a buffer that memory has room for every sequence of calls returns, whatever the transport
answers; every state that the calls pass through is safe to go on from, and a page that nobody waits
for is reported only when the transport itself reports one.
-/
theorem run_returns {transport : τ} {session : Session ρ τ} (h : session.Opened transport)
    (hb : session.config.buffer.size < memoryBound) {operations : List Operation}
    (hbuilt : ∀ superpage, .push superpage ∈ operations → superpage.Built) :
    ∃ history last, session.run operations = .ok (history, last) ∧
      Account.Path ⟨session, .empty⟩ ⟨last, Ledger.ofHistory history⟩ ∧
      (∀ middle ledger, Account.Path ⟨session, .empty⟩ ⟨middle, ledger⟩ → middle.Safe) ∧
      ∀ operation next,
        last.perform operation = (.ok (.error (.dma .unexpectedArrival)), next) →
          ∃ call ∈ last.callsOf operation, call.error? = some (.dma .unexpectedArrival) := by
  have hfits : session.flow.tracker.Fits session.config.buffer.size := by
    obtain ⟨-, hs⟩ := h.exists_fresh
    rw [hs]
    exact Dma.Tracker.fits_of_transfer_eq_nil rfl
  obtain ⟨history, last, hr⟩ := exists_run h.coherent hfits hb hbuilt
  refine ⟨history, last, hr, Account.run_path .empty hr, ?_, ?_⟩
  · intro middle ledger path
    exact (h.coherent.path path).safe
  intro operation next hp
  obtain ⟨twin, ht, -, hcalls⟩ := exists_recorded_of_perform hp
  have hlast := h.coherent.run hr
  have htwin : last.recorded.Coherent session.config :=
    ⟨hlast.config_eq, hlast.capacity_eq, hlast.pageSize_eq, hlast.inStep⟩
  rw [← hcalls]
  exact wasAnswered_of_perform htwin ht

/-- A page that is too long, a push that is refused and a stop that fails, then a restart. -/
theorem run_returns_overrun :
    ∃ history last,
      (trial (⟨[9000, 8192], some 3, false, true, false⟩ : Simulation.ScriptedTransport)).run
          [.start, .push (.fresh 0 16384), .push (.fresh 16384 16384), .fill, .stop, .start,
            .fill] = .ok (history, last) ∧
        last.Safe := by
  have hbuilt : ∀ superpage, Operation.push superpage ∈
      [.start, .push (.fresh 0 16384), .push (.fresh 16384 16384), .fill, .stop, .start, .fill] →
      superpage.Built := by
    intro superpage hs
    simp only [List.mem_cons, reduceCtorEq, Operation.push.injEq, List.not_mem_nil, false_or,
      or_false] at hs
    rcases hs with rfl | rfl
    · exact .fresh 0 16384
    · exact .fresh 16384 16384
  obtain ⟨history, last, hr, path, hsafe, -⟩ := run_returns (opened_trial
    (⟨[9000, 8192], some 3, false, true, false⟩ : Simulation.ScriptedTransport))
    (by decide) hbuilt
  exact ⟨history, last, hr, hsafe last _ path⟩

end Session

end Readout
