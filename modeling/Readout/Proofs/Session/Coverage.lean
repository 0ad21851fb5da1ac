import Readout.Proofs.Session.Collection
import Readout.Proofs.Session.Order

/-!
Every page that a session passes to its transport lies in the buffer, in a superpage that is in
transfer when the page is passed.
-/

namespace Readout

open Dma

/-- What a session asks of a superpage: whole pages, aligned, inside the buffer and below the end of
what an offset can name. -/
structure Dma.Identity.Admitted (config : ChannelConfig) (identity : Identity) : Prop where
  aligned : identity.offset % offsetAlignment = 0
  end_le : identity.offset + identity.size ≤ config.buffer.size
  end_lt : identity.offset + identity.size < byteBound
  size_pos : 0 < identity.size
  whole : identity.size % config.pageSize = 0

theorem Dma.Identity.Admitted.pages_ne_zero {config : ChannelConfig} {identity : Identity}
    (h : identity.Admitted config) (hp : 0 < config.pageSize) :
    identity.pages config.pageSize ≠ 0 := by
  have hle := Nat.le_of_dvd h.size_pos (Nat.dvd_of_mod_eq_zero h.whole)
  exact Nat.ne_of_gt (Nat.div_pos hle hp)

namespace Account

variable {ρ τ : Type} {config : ChannelConfig} {account after : Account ρ τ}

def Admitted (config : ChannelConfig) (account : Account ρ τ) : Prop :=
  ∀ superpage ∈ account.ledger.accepted, superpage.identity.Admitted config

theorem Admitted.of_transfer (h : account.Admitted config) (hb : account.Balanced)
    {transfer : Transfer} (ht : transfer ∈ account.session.flow.tracker.transfer) :
    transfer.superpage.identity.Admitted config := by
  have hmem : transfer.superpage.identity ∈ account.ledger.accepted.map Superpage.identity := by
    rw [hb.accepted_eq, List.mem_append]
    exact .inr (List.mem_map_of_mem ht)
  obtain ⟨superpage, hs, hi⟩ := List.mem_map.mp hmem
  rw [← hi]
  exact h superpage hs

variable [PageTransport τ]

theorem Admitted.step (hc : account.session.Coherent config) (step : Step account after)
    (h : account.Admitted config) : after.Admitted config := by
  cases step with
  | note => exact h
  | begin => exact nofun
  | refuse => exact nofun
  | accept _ hb ha hp =>
    intro superpage hs
    rcases List.mem_append.mp hs with hs | hs
    · exact h superpage hs
    · obtain rfl := List.mem_singleton.mp hs
      obtain ⟨-, hsize, -, hwhole, -, -⟩ := Tracker.push_eq_ok_iff.mp hp
      have hbuffer := hc.config_eq
      have hpage := hc.pageSize_eq
      dsimp only at hbuffer hpage
      rw [hbuffer, Session.isInBuffer, Bool.and_eq_true, decide_eq_true_eq,
        decide_eq_true_eq] at hb
      rw [hpage] at hwhole
      exact ⟨ha, hb.2, hb.1, hsize, hwhole⟩
  | pageRefused => exact h
  | pageTaken => exact h
  | pollFailed => exact h
  | pageOut => exact h
  | pageLanded => exact h
  | promote => exact h
  | finish => exact h
  | pop => exact h

theorem Admitted.path {account after : Account ρ (Recorder τ)} (hpage : 0 < config.pageSize)
    (path : Path account after) (ho : account.Orderly config account.traffic)
    (h : account.Admitted config) : after.Admitted config := by
  induction path with
  | refl => exact h
  | tail path step ih => exact ih.step (Orderly.path hpage path ho).coherent step

end Account

namespace Session

variable {ρ τ : Type} {config : ChannelConfig} {session : Session ρ τ} {page : Page}

/-- The page lies in the buffer, within a superpage in transfer, and has a slot of each ring. -/
structure Covers (config : ChannelConfig) (session : Session ρ τ) (page : Page) : Prop where
  size_eq : page.size = config.pageSize
  aligned : page.offset % offsetAlignment = 0
  end_le : page.offset + page.size ≤ config.buffer.size
  end_lt : page.offset + page.size < byteBound
  fifoIndex_lt : page.fifoIndex < fifoDepth
  bufferIndex_lt : page.bufferIndex < config.bufferPages
  inside : ∃ transfer ∈ session.flow.tracker.transfer,
    transfer.superpage.offset ≤ page.offset ∧
      page.offset + page.size ≤ transfer.superpage.offset + transfer.superpage.size

/-- The next page of a transfer is one of its superpage's own. -/
theorem covers_of_nextPage {ledger : Ledger} (hv : config.validate = .ok ())
    (hc : session.Coherent config) (hb : Account.Balanced ⟨session, ledger⟩)
    (ha : Account.Admitted config ⟨session, ledger⟩) (hn : session.flow.nextPage? = some page) :
    session.Covers config page := by
  obtain ⟨-, ⟨hpage, hstride⟩, -⟩ := ChannelConfig.validate_eq_ok_iff.mp hv
  obtain ⟨hfree, offset, ho, rfl⟩ := Flow.nextPage?_eq_some_iff.mp hn
  obtain ⟨transfer, hf, rfl⟩ := Option.map_eq_some_iff.mp ho
  have ht : transfer ∈ session.flow.tracker.transfer := List.mem_of_find?_eq_some hf
  have hlt : transfer.pushed < transfer.pages := by
    simpa [Transfer.hasPageToPush] using List.find?_some hf
  obtain ⟨haligned, hend, hbound, -, -⟩ := ha.of_transfer hb ht
  have hwhole := (hc.inStep.inOrder.sound transfer ht).pages_mul
  have hsize := hc.pageSize_eq
  have hcapacity := hc.capacity_eq
  rw [hsize] at hwhole
  have hnext : (transfer.pushed + 1) * config.pageSize ≤ transfer.superpage.size := by
    rw [← hwhole]
    exact Nat.mul_le_mul_right _ hlt
  rw [Nat.succ_mul] at hnext
  have hpos : 0 < config.bufferPages := by
    simp only [Ring.free, Ring.bufferFree] at hfree
    omega
  simp only [Superpage.identity] at haligned hend hbound
  refine ⟨hsize, ?_, ?_, ?_, Nat.mod_lt _ (Nat.succ_pos 127), ?_, transfer, ht, ?_, ?_⟩
  · have hpages : transfer.pushed * config.pageSize % offsetAlignment = 0 := by
      rw [Nat.mul_mod, hstride, Nat.mul_zero, Nat.zero_mod]
    rw [Transfer.nextOffset, hsize, Nat.add_mod, haligned, hpages]
    rfl
  · simp only [Transfer.nextOffset, hsize]
    omega
  · simp only [Transfer.nextOffset, hsize]
    omega
  · rw [Ring.bufferHead, Slots.head, hcapacity, if_neg (Nat.ne_of_gt hpos)]
    exact Nat.mod_lt _ hpos
  · exact Nat.le_add_right _ _
  · simp only [Transfer.nextOffset, hsize]
    omega

variable [PageTransport τ]

/--
Every page that a run offers to its transport is the next one of a started session at that moment,
in the buffer and within a superpage in transfer. A call that ends in a fault offers none.
-/
theorem covers_of_run {transport : τ} {session last : Session ρ τ} (h : session.Opened transport)
    {operations : List Operation} {history : History}
    (hr : session.run operations = .ok (history, last)) :
    (∃ twin, session.recorded.run operations = .ok (history, twin) ∧ twin.unrecorded = last ∧
      ∀ before page answer after,
        session.calls operations = before ++ .push page answer :: after →
        ∃ account, Account.Path ⟨session.recorded, .empty⟩ account ∧
          Account.Path account ⟨twin, Ledger.ofHistory history⟩ ∧ account.calls = before ∧
          account.session.state = .started ∧ account.session.flow.nextPage? = some page ∧
          account.session.Covers session.config page) ∧
      ∀ operation fault next, last.perform operation = (.error fault, next) →
        ∀ page answer, .push page answer ∉ last.callsOf operation := by
  obtain ⟨hpage, hstart⟩ := h.orderly
  obtain ⟨hv, -⟩ := h.exists_fresh
  have hnone : Account.Admitted session.config ⟨session.recorded, .empty⟩ := nofun
  obtain ⟨twin, ht, rfl, hcalls⟩ := exists_recorded_of_run hr
  constructor
  · refine ⟨twin, ht, rfl, ?_⟩
    intro before page answer after hpush
    rw [← hcalls] at hpush
    obtain ⟨account, start, rest, hbefore, hs, hn⟩ :=
      (Account.run_path .empty ht).exists_nextPage_of_push (Nat.zero_le _) hpush
    have ho := hstart.path hpage start
    exact ⟨account, start, rest, hbefore, hs, hn,
      covers_of_nextPage hv ho.coherent ho.balanced (hnone.path hpage start hstart) hn⟩
  · intro operation fault next hf page answer hpush
    obtain ⟨stuck, hp, -, hmade⟩ := exists_recorded_of_perform hf
    obtain ⟨-, log, hc⟩ := Account.collect_of_perform_fault hp
    obtain ⟨polls, hpolls, hkind, -⟩ := Account.exists_collection hc
    have hrecord : twin.unrecorded.callsOf operation = polls := by
      rw [← hmade, hpolls]
      rfl
    rw [hrecord] at hpush
    obtain ⟨_, _, hpoll⟩ := hkind _ hpush
    simp at hpoll

/-- A page that the transport refuses is covered at each of its offers. -/
theorem covers_of_run_refused :
    ∃ history last,
      (trial (⟨[8192], some 3, false, false, false⟩ : Simulation.ScriptedTransport)).run twoByTwo =
        .ok (history, last) ∧
      ∃ account, Account.Path ⟨(trial (⟨[8192], some 3, false, false, false⟩ :
          Simulation.ScriptedTransport)).recorded, .empty⟩ account ∧
        account.calls = [.start (.ok ()), .push ⟨0, 0, 0, 8192⟩ (.ok ()),
          .push ⟨1, 1, 8192, 8192⟩ (.ok ()), .push ⟨2, 2, 16384, 8192⟩ (.ok ())] ∧
        account.session.Covers trialConfig ⟨3, 3, 24576, 8192⟩ := by
  have computed : ((trial (⟨[8192], some 3, false, false, false⟩ :
      Simulation.ScriptedTransport)).run twoByTwo).map (·.2.state) = .ok .started := by
    decide +kernel
  have hcalls : (trial (⟨[8192], some 3, false, false, false⟩ :
      Simulation.ScriptedTransport)).calls twoByTwo =
        [.start (.ok ()), .push ⟨0, 0, 0, 8192⟩ (.ok ()), .push ⟨1, 1, 8192, 8192⟩ (.ok ()),
          .push ⟨2, 2, 16384, 8192⟩ (.ok ())] ++
        .push ⟨3, 3, 24576, 8192⟩ (.error (.register (.writeProtected 3))) ::
        [.poll ⟨0, 0, 0, 8192⟩ (.ok (some 8192)), .poll ⟨1, 1, 8192, 8192⟩ (.ok none),
          .push ⟨3, 3, 24576, 8192⟩ (.error (.register (.writeProtected 3)))] := by
    decide +kernel
  obtain ⟨⟨history, last⟩, hr, -⟩ := exists_of_map_eq_ok computed
  obtain ⟨⟨twin, -, -, hcovers⟩, -⟩ := covers_of_run (opened_trial _) hr
  obtain ⟨account, path, -, hbefore, -, -, hc⟩ := hcovers _ _ _ _ hcalls
  exact ⟨history, last, hr, account, path, hbefore, hc⟩

end Session

end Readout
