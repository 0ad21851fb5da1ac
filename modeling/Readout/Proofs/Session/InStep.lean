import Readout.Proofs.Dma.InStep
import Readout.Proofs.Session.Faults
import Readout.Simulation.ScriptedTransport

/-!
In every state that a session reaches, the pages in flight are the pages that its transfers have
out, and the rings keep one slot of each kind for every one of them.
-/

namespace Readout

namespace Session

variable {ρ τ : Type} {session next : Session ρ τ}

/-- The accounts of the pages agree with each other and with the configuration. -/
structure Coherent (config : ChannelConfig) (session : Session ρ τ) : Prop where
  config_eq : session.config = config
  capacity_eq : session.flow.ring.capacity = config.bufferPages
  pageSize_eq : session.flow.tracker.pageSize = config.pageSize
  inStep : session.flow.InStep

theorem Coherent.of_flow {config : ChannelConfig} (h : session.Coherent config)
    (hc : next.config = session.config) (hf : next.flow = session.flow) : next.Coherent config :=
  ⟨hc.trans h.config_eq, hf ▸ h.capacity_eq, hf ▸ h.pageSize_eq, hf ▸ h.inStep⟩

theorem Opened.coherent {transport : τ} (h : session.Opened transport) :
    session.Coherent session.config := by
  obtain ⟨-, hfresh⟩ := h.exists_fresh
  rw [hfresh]
  exact ⟨rfl, rfl, rfl, Dma.Flow.InStep.empty _ (Dma.Tracker.inOrder_empty _ _ _) rfl⟩

/-- A state in which the count of a superpage that waits for a page cannot take the page's length. -/
def Overflows (session : Session ρ τ) (fault : Dma.FlowFault) : Prop :=
  ∃ length overflow, (session.flow.tracker.pageArrived length).1 = .error overflow ∧
    fault = .count overflow

theorem Overflows.exists_count {fault : Dma.FlowFault} (h : session.Overflows fault) :
    ∃ overflow : Dma.CountOverflow, fault = .count overflow ∧
      Dma.byteBound ≤ overflow.received + overflow.length := by
  obtain ⟨length, overflow, ha, rfl⟩ := h
  obtain ⟨transfer, -, rfl, -, hb⟩ := Dma.Tracker.overflow_of_pageArrived ha
  exact ⟨_, rfl, hb⟩

variable [PageTransport τ]

theorem Coherent.step {config : ChannelConfig} {account after : Account ρ τ}
    (step : Account.Step account after) (h : account.session.Coherent config) :
    after.session.Coherent config := by
  cases step with
  | note => exact h.of_flow rfl rfl
  | begin => exact ⟨h.1, h.2, h.3, .clear _⟩
  | refuse => exact ⟨h.1, h.2, h.3, .clear _⟩
  | accept _ _ _ ht =>
    refine ⟨h.1, h.2, ?_, h.4.push ht⟩
    obtain ⟨-, -, -, -, -, rfl⟩ := Dma.Tracker.push_eq_ok_iff.mp ht
    exact h.3
  | pageRefused => exact h.of_flow rfl rfl
  | pageTaken _ hn _ hf =>
    obtain ⟨hcapacity, hsize⟩ := Dma.Flow.sizes_of_handOut hn hf
    exact ⟨h.1, hcapacity.trans h.2, hsize.trans h.3, h.4.handOut hn hf⟩
  | pollFailed => exact h.of_flow rfl rfl
  | pageOut => exact h.of_flow rfl rfl
  | pageLanded _ hp _ hf =>
    obtain ⟨hcapacity, hsize⟩ := Dma.Flow.sizes_of_land hf
    exact ⟨h.1, hcapacity.trans h.2, hsize.trans h.3, h.4.land hp hf⟩
  | promote => exact ⟨h.1, h.2, h.3, h.4.promote⟩
  | finish => exact ⟨h.1, h.2, h.3, .finish _⟩
  | pop hp =>
    refine ⟨h.1, h.2, ?_, h.4.pop hp⟩
    obtain ⟨ready, -, rfl⟩ := Dma.Tracker.pop_eq_ok_iff.mp hp
    exact h.3

theorem Coherent.path {config : ChannelConfig} {account after : Account ρ τ}
    (path : Account.Path account after) (h : account.session.Coherent config) :
    after.session.Coherent config :=
  path.keeps (fun step hc => Coherent.step step hc) h

/-- The only fault that ends a call is a count that overflows. -/
theorem exists_overflows_of_perform {config : ChannelConfig} (ledger : Ledger)
    {operation : Operation} {fault : Dma.FlowFault} (hc : session.Coherent config)
    (h : session.perform operation = (.error fault, next)) :
    ∃ middle : Session ρ τ, Account.Path ⟨session, ledger⟩ ⟨middle, ledger⟩ ∧
      middle.Overflows fault := by
  obtain ⟨middle, page, transport, length, flow, -, path, hp, -, hf, -⟩ :=
    exists_land_of_fault h ledger
  refine ⟨middle, path, ?_⟩
  rw [(hc.path path).inStep.land_eq hp] at hf
  rcases ha : middle.flow.tracker.pageArrived length with ⟨overflow | credited, tracker⟩
  · rw [ha] at hf
    exact ⟨length, overflow, by rw [ha], (Except.error.inj (congrArg Prod.fst hf)).symm⟩
  · simp [ha] at hf

/-- In every state that a run reaches the accounts of the pages agree. -/
theorem Coherent.run {config : ChannelConfig} {operations : List Operation} {history : History}
    (hc : session.Coherent config) (h : session.run operations = .ok (history, next)) :
    next.Coherent config :=
  hc.path (Account.run_path .empty h)

/-- A run that a fault ends has come to a count that cannot take the length of a page. -/
theorem exists_overflows_of_run {config : ChannelConfig} {operations : List Operation}
    {fault : Dma.FlowFault} (hc : session.Coherent config)
    (h : session.run operations = .error fault) :
    ∃ middle : Session ρ τ, middle.Coherent config ∧ middle.Overflows fault := by
  induction operations generalizing session with
  | nil => simp [Session.run] at h
  | cons operation rest ih =>
    rw [Session.run] at h
    rcases hp : session.perform operation with ⟨other | answer, middle⟩
    · simp only [hp, Except.error.injEq] at h
      subst h
      obtain ⟨middle, path, ho⟩ := exists_overflows_of_perform .empty hc hp
      exact ⟨middle, hc.path path, ho⟩
    · have hm : middle.Coherent config := hc.path (Account.perform_path .empty hp)
      simp only [hp] at h
      cases hr : middle.run rest with
      | error other =>
        simp only [hr, Except.map, Except.error.injEq] at h
        exact ih hm (h ▸ hr)
      | ok reached => simp [hr, Except.map] at h

/--
In every state that calls lead to, the pages in flight are those that the transfers have out, in
the order of the queue, each in its own slots; only a count of bytes past 64 bits ends a run.
-/
theorem inFlight_of_run {transport : τ} (h : session.Opened transport)
    (operations : List Operation) :
    (∀ history last, session.run operations = .ok (history, last) →
      last.flow.inFlight =
        (last.flow.tracker.transfer.flatMap (·.outstanding session.config.pageSize)).mapIdx
          (fun i offset =>
            ⟨(last.flow.ring.fifo.tail + i) % Dma.fifoDepth,
              (last.flow.ring.buffer.tail + i) % session.config.bufferPages, offset,
              session.config.pageSize⟩) ∧
      last.flow.ring.buffer.size = last.flow.inFlight.length ∧
      last.flow.ring.fifo.size = last.flow.inFlight.length ∧
      last.flow.tracker.pagesInFlight = last.flow.inFlight.length ∧
      (∀ transfer ∈ last.flow.tracker.transfer, transfer.arrived ≤ transfer.pushed) ∧
      (last.flow.inFlight.map Dma.Page.fifoIndex).Nodup ∧
      (last.flow.inFlight.map Dma.Page.bufferIndex).Nodup) ∧
    ∀ fault, session.run operations = .error fault →
      ∃ overflow : Dma.CountOverflow, fault = .count overflow ∧
        Dma.byteBound ≤ overflow.received + overflow.length := by
  constructor
  · intro history last hr
    have hc := h.coherent.run hr
    have hi := hc.inStep
    have hlen := last.flow.tracker.length_outstanding
    have hpages := hi.inFlight_eq
    rw [Dma.Flow.pagesOut, Dma.Tracker.outstanding, hc.pageSize_eq, hc.capacity_eq] at hpages
    exact ⟨hpages, hi.buffer_size, hi.fifo_size, hlen.symm.trans hi.length_outstanding,
      fun transfer ht => (hi.inOrder.sound transfer ht).arrived_le_pushed, hi.nodup_fifoIndex,
      hi.nodup_bufferIndex⟩
  · intro fault hr
    obtain ⟨middle, -, ho⟩ := exists_overflows_of_run h.coherent hr
    exact ho.exists_count

theorem inFlight_of_run_two_pages :
    ∃ history last,
      (trial (⟨⟩ : Simulation.BareTransport)).run [.start, .push (.fresh 8192 16384)] =
        .ok (history, last) ∧
      last.flow.inFlight = [⟨0, 0, 8192, 8192⟩, ⟨1, 1, 16384, 8192⟩] ∧
      last.flow.tracker.pagesInFlight = 2 := by
  have computed : ((trial (⟨⟩ : Simulation.BareTransport)).run
      [.start, .push (.fresh 8192 16384)]).map (·.2.flow.inFlight) =
        .ok [⟨0, 0, 8192, 8192⟩, ⟨1, 1, 16384, 8192⟩] := by decide +kernel
  obtain ⟨⟨history, last⟩, hr, hl⟩ := exists_of_map_eq_ok computed
  obtain ⟨-, -, -, hcount, -⟩ := (inFlight_of_run (opened_trial _) _).1 history last hr
  exact ⟨history, last, hr, hl, hcount.trans (congrArg List.length hl)⟩

end Session

end Readout
