import Readout.Proofs.Dma.Plan
import Readout.Proofs.Session.Balance
import Readout.Proofs.Session.InStep
import Readout.Proofs.Session.Recorded
import Readout.Simulation.ScriptedTransport

/-!
The pages of a run go to the transport in the order of the superpages that were accepted, and what
lands is credited in the same order, whatever the transport refuses on the way.
-/

namespace Readout

/-- What a transport was offered and what has landed, since it was last started. -/
structure Traffic where
  offers : List Dma.Offer
  landed : List Dma.Page
  deriving DecidableEq

namespace Traffic

def none : Traffic := ⟨[], []⟩

def record (traffic : Traffic) : TransportCall → Traffic
  | .start _ => .none
  | .stop _ => traffic
  | .push page answer => { traffic with offers := traffic.offers ++ [⟨page, answer.isOk⟩] }
  | .poll page (.ok (some _)) => { traffic with landed := traffic.landed ++ [page] }
  | .poll _ _ => traffic

def ofCalls (calls : List TransportCall) : Traffic := calls.foldl record .none

theorem record_push_ok (traffic : Traffic) (page : Dma.Page) :
    traffic.record (.push page (.ok ())) =
      { traffic with offers := traffic.offers ++ [⟨page, true⟩] } := rfl

theorem record_push_error (traffic : Traffic) (page : Dma.Page) (error : Error) :
    traffic.record (.push page (.error error)) =
      { traffic with offers := traffic.offers ++ [⟨page, false⟩] } := rfl

theorem record_poll_landed (traffic : Traffic) (page : Dma.Page) (length : Nat) :
    traffic.record (.poll page (.ok (some length))) =
      { traffic with landed := traffic.landed ++ [page] } := rfl

end Traffic

namespace Account

open Dma

variable {ρ τ : Type} {config : ChannelConfig}

/-- What passed between the session and its transport since the last start. -/
def traffic (account : Account ρ (Recorder τ)) : Traffic :=
  .ofCalls account.session.transport.calls

/-- The superpages that are over: popped, or to be popped. -/
def ended (account : Account ρ τ) : List Identity :=
  account.ledger.popped.map Superpage.identity ++
    account.session.flow.tracker.ready.map Superpage.identity

theorem traffic_of_calls (account after : Account ρ (Recorder τ)) {call : TransportCall}
    (h : after.session.transport.calls = account.session.transport.calls ++ [call]) :
    after.traffic = account.traffic.record call := by
  simp [traffic, Traffic.ofCalls, h]

/-- During a run the counts of the pages are those of the calls on the transport. -/
structure Running (config : ChannelConfig) (account : Account ρ τ) (traffic : Traffic) : Prop where
  taken_eq : takenPages traffic.offers = traffic.landed ++ account.session.flow.inFlight
  length_landed : traffic.landed.length =
    total (Identity.pages config.pageSize) account.ended +
      account.session.flow.tracker.arrivedPages
  fifo_tail : account.session.flow.ring.fifo.tail = traffic.landed.length % fifoDepth
  buffer_tail : account.session.flow.ring.buffer.tail = traffic.landed.length % config.bufferPages

/--
The offers keep to the plan of what was accepted, and what has landed was taken. While the session
is started the state of its flow tells how far both have come.
-/
structure Orderly (config : ChannelConfig) (account : Account ρ τ) (traffic : Traffic) : Prop where
  coherent : account.session.Coherent config
  balanced : account.Balanced
  follows : Follows (plan config.pageSize config.bufferPages
    (account.ledger.accepted.map Superpage.identity)) traffic.offers
  landed_isPrefix : traffic.landed <+: takenPages traffic.offers
  running : account.session.state = .started → account.Running config traffic

theorem Balanced.accepted_eq {account : Account ρ τ} (h : account.Balanced) :
    account.ledger.accepted.map Superpage.identity =
      account.ended ++ account.session.flow.tracker.transfer.map (·.superpage.identity) :=
  Eq.trans h (List.append_assoc _ _ _).symm

variable {session next : Session ρ τ} {ledger : Ledger} {traffic : Traffic} {page : Page}
  {flow : Flow} {tracker : Tracker} {superpage : Superpage}

/-- The next page of the session is the one of the plan behind those that were taken. -/
theorem Orderly.nextPage_eq (h : Orderly config ⟨session, ledger⟩ traffic)
    (hpage : 0 < config.pageSize) (hs : session.state = .started)
    (hn : session.flow.nextPage? = some page) :
    (plan config.pageSize config.bufferPages (ledger.accepted.map Superpage.identity))[
      (takenPages traffic.offers).length]? = some page := by
  obtain ⟨hfree, offset, ho, rfl⟩ := Flow.nextPage?_eq_some_iff.mp hn
  obtain ⟨htaken, hlanded, hfifo, hbuffer⟩ := h.running hs
  obtain ⟨-, hcapacity, hsize, hi⟩ := h.coherent
  dsimp only at htaken hlanded hfifo hbuffer hcapacity hsize hi
  have hlength : (takenPages traffic.offers).length =
      traffic.landed.length + session.flow.inFlight.length := by
    rw [htaken, List.length_append]
  have hout : session.flow.tracker.pagesInFlight = session.flow.inFlight.length := by
    rw [← Tracker.length_outstanding, hi.length_outstanding]
  have hplace : (takenPages traffic.offers).length =
      total (Identity.pages session.flow.tracker.pageSize) (ended ⟨session, ledger⟩) +
        total Transfer.pushed session.flow.tracker.transfer := by
    rw [hlength, hlanded, hi.inOrder.total_pushed, hout, hsize, Nat.add_assoc]
  have hpos : config.bufferPages ≠ 0 := by
    simp only [Ring.free, Ring.bufferFree] at hfree
    omega
  have hslots : (⟨session.flow.ring.fifoHead, session.flow.ring.bufferHead, offset,
      session.flow.tracker.pageSize⟩ : Page) =
      ⟨(takenPages traffic.offers).length % fifoDepth,
        (takenPages traffic.offers).length % config.bufferPages, offset,
        session.flow.tracker.pageSize⟩ := by
    rw [hlength]
    simp [Ring.fifoHead, Ring.bufferHead, Slots.head, fifoDepth, hpos, hfifo, hbuffer,
      hi.buffer_size, hi.fifo_size, hcapacity]
  have hplan := hi.inOrder.getElem?_plan_of_nextPage (by rw [hsize]; exact hpage)
    config.bufferPages ho hplace
  have haccepted := h.balanced.accepted_eq
  dsimp only at haccepted
  rw [hslots, haccepted, ← hsize]
  exact hplan

/-- An offer of the next page keeps to the plan, and changes nothing if it is refused. -/
theorem Orderly.pageRefused (h : Orderly config ⟨session, ledger⟩ traffic)
    (hpage : 0 < config.pageSize) (hs : session.state = .started)
    (hn : session.flow.nextPage? = some page) :
    Orderly config ⟨session, ledger⟩
      { traffic with offers := traffic.offers ++ [⟨page, false⟩] } := by
  refine ⟨h.coherent, h.balanced, h.follows.concat (h.nextPage_eq hpage hs hn) false, ?_,
    fun hs => ?_⟩
  · rw [takenPages_concat_refused]
    exact h.landed_isPrefix
  · obtain ⟨htaken, hlanded, hfifo, hbuffer⟩ := h.running hs
    exact ⟨(takenPages_concat_refused _ _).trans htaken, hlanded, hfifo, hbuffer⟩

theorem Orderly.pageTaken (h : Orderly config ⟨session, ledger⟩ traffic)
    (hpage : 0 < config.pageSize) (hs : session.state = .started)
    (hn : session.flow.nextPage? = some page) (hf : session.flow.handOut page = (.ok (), flow)) :
    Orderly config ⟨{ session with flow := flow }, ledger⟩
      { traffic with offers := traffic.offers ++ [⟨page, true⟩] } := by
  have hnext := h.nextPage_eq hpage hs hn
  obtain ⟨hcapacity, hsize⟩ := Flow.sizes_of_handOut hn hf
  have hi := h.coherent.inStep.handOut hn hf
  obtain ⟨-, rfl⟩ := Prod.mk.inj ((Flow.handOut_of_nextPage hn).symm.trans hf)
  refine ⟨⟨h.coherent.config_eq, hcapacity.trans h.coherent.capacity_eq,
    hsize.trans h.coherent.pageSize_eq, hi⟩,
    h.balanced.of_identities (Tracker.identities_pagePushed _), h.follows.concat hnext true, ?_,
    fun hs => ?_⟩
  · rw [takenPages_concat_taken]
    exact h.landed_isPrefix.trans (List.prefix_append _ _)
  · obtain ⟨htaken, hlanded, hfifo, hbuffer⟩ := h.running hs
    refine ⟨?_, ?_, hfifo, hbuffer⟩
    · rw [takenPages_concat_taken, htaken, List.append_assoc]
    · rw [Tracker.arrivedPages_pagePushed]
      exact hlanded

theorem Orderly.pageLanded {length : Nat} {credited : Except DmaError Unit}
    (h : Orderly config ⟨session, ledger⟩ traffic) (hs : session.state = .started)
    (hp : session.flow.inFlight.head? = some page)
    (hf : session.flow.land page length = (.ok credited, flow)) :
    Orderly config ⟨{ session with flow := flow }, ledger⟩
      { traffic with landed := traffic.landed ++ [page] } := by
  obtain ⟨hcapacity, hsize⟩ := Flow.sizes_of_land hf
  obtain ⟨htaken, hlanded, hfifo, hbuffer⟩ := h.running hs
  have hi := h.coherent.inStep
  have hfull := h.coherent.capacity_eq
  obtain ⟨-, -, hring, hflight⟩ := Flow.land_eq_ok_iff.mp hf
  obtain ⟨rest, hl⟩ := List.head?_eq_some_iff.mp hp
  have htracker := Flow.tracker_of_land hf
  have hfreed := Except.ok.inj (hring.symm.trans (hi.advanceTail_eq hp))
  have hrest : takenPages traffic.offers = (traffic.landed ++ [page]) ++ flow.inFlight := by
    rw [htaken]
    simp [hl, hflight]
  dsimp only at hlanded hfifo hbuffer hfull
  refine ⟨⟨h.coherent.config_eq, hcapacity.trans h.coherent.capacity_eq,
    hsize.trans h.coherent.pageSize_eq, hi.land hp hf⟩, h.balanced.of_identities ?_, h.follows, ?_,
    fun _ => ⟨hrest, ?_, ?_, ?_⟩⟩
  · dsimp only
    rw [htracker, Tracker.identities_pageArrived]
  · exact ⟨flow.inFlight, hrest.symm⟩
  · have hcount := Tracker.arrivedPages_pageArrived (hi.outstanding_ne_nil hp) length
    simp only [ended, htracker, Tracker.ready_pageArrived, hcount, List.length_append, hlanded]
    rfl
  · simp [hfreed, Slots.popTail, hfifo, Nat.mod_add_mod]
  · simp [hfreed, Slots.popTail, hbuffer, hfull, Nat.mod_add_mod]

/-- At the start of a stopped session nothing was offered and nothing has landed yet. -/
theorem Orderly.clear (h : Orderly config ⟨session, ledger⟩ traffic) (state : RunState) :
    Orderly config ⟨{ session with flow := session.flow.clear, state := state }, .empty⟩ .none :=
  ⟨⟨h.coherent.config_eq, h.coherent.capacity_eq, h.coherent.pageSize_eq, .clear _⟩, .empty rfl,
    .nil _, List.nil_prefix, fun _ => ⟨rfl, rfl, rfl, (Nat.zero_mod _).symm⟩⟩

/-- Each transfer has counted those of the landed pages that belong to it. -/
def Credited (config : ChannelConfig) (account : Account ρ τ) (traffic : Traffic) : Prop :=
  ∀ front transfer back, account.session.flow.tracker.transfer = front ++ transfer :: back →
    transfer.arrived =
      ((owners config.pageSize 0 (account.ledger.accepted.map Superpage.identity)).take
        traffic.landed.length).count
          (account.ledger.popped.length + account.session.flow.tracker.ready.length + front.length)

theorem Orderly.credited {account : Account ρ τ} (h : account.Orderly config traffic)
    (hpage : 0 < config.pageSize) (hs : account.session.state = .started) :
    account.Credited config traffic := by
  intro front transfer back hl
  have hsize := h.coherent.pageSize_eq
  have hdone : account.ended.length =
      account.ledger.popped.length + account.session.flow.tracker.ready.length := by
    simp [ended]
  have hlanded := (h.running hs).length_landed
  rw [h.balanced.accepted_eq, ← hdone]
  rw [← hsize] at hpage hlanded ⊢
  exact h.coherent.inStep.inOrder.arrived_eq_count hpage hl hlanded

/-- What is promoted was out and has landed, page by page. -/
theorem Orderly.promote (h : Orderly config ⟨session, ledger⟩ traffic)
    (hpage : 0 < config.pageSize) :
    Orderly config ⟨{ session with flow := session.flow.promote.2 }, ledger⟩ traffic := by
  have hi := h.coherent.inStep
  have hsize := h.coherent.pageSize_eq
  refine ⟨⟨h.coherent.config_eq, h.coherent.capacity_eq, hsize, hi.promote⟩,
    h.balanced.of_identities (Tracker.identities_promote _), h.follows, h.landed_isPrefix,
    fun hs => ?_⟩
  obtain ⟨htaken, hlanded, hfifo, hbuffer⟩ := h.running hs
  refine ⟨htaken, ?_, hfifo, hbuffer⟩
  have hcount := hi.inOrder.arrivedPages_promote (by rw [hsize]; exact hpage)
  have hended : ended ⟨{ session with flow := session.flow.promote.2 }, ledger⟩ =
      ended ⟨session, ledger⟩ ++ session.flow.tracker.promotable.map (·.superpage.identity) := by
    have hready : session.flow.promote.2.tracker.ready =
        session.flow.tracker.ready ++ session.flow.tracker.promotable.map Transfer.finish := rfl
    simp [ended, hready]
  dsimp only at hsize hlanded
  rw [hsize] at hcount
  rw [hlanded, hcount, hended, total_append, Nat.add_assoc]
  rfl

/-- Nothing is offered or lands between the end of a run and the next start. -/
theorem Orderly.finish (h : Orderly config ⟨session, ledger⟩ traffic) :
    Orderly config ⟨{ session with flow := session.flow.finish.2, state := .stopped }, ledger⟩
      traffic :=
  ⟨⟨h.coherent.config_eq, h.coherent.capacity_eq, h.coherent.pageSize_eq, .finish _⟩,
    h.balanced.of_identities (Tracker.identities_reclaim _), h.follows, h.landed_isPrefix, nofun⟩

/-- A session that differs only outside its flow is in the same order. -/
theorem Orderly.of_flow (h : Orderly config ⟨session, ledger⟩ traffic)
    (hc : next.config = session.config) (hs : next.state = session.state)
    (hf : next.flow = session.flow) : Orderly config ⟨next, ledger⟩ traffic := by
  refine ⟨h.coherent.of_flow hc hf, h.balanced.of_identities (by rw [hf]), h.follows,
    h.landed_isPrefix, fun hn => ?_⟩
  obtain ⟨htaken, hlanded, hfifo, hbuffer⟩ := h.running (hs.symm.trans hn)
  refine ⟨?_, ?_, ?_, ?_⟩
  · rw [hf]
    exact htaken
  · rw [ended, hf]
    exact hlanded
  · rw [hf]
    exact hfifo
  · rw [hf]
    exact hbuffer

variable [PageTransport τ]

/-- A superpage that is accepted adds its pages behind those of the plan. -/
theorem Orderly.accept (h : Orderly config ⟨session, ledger⟩ traffic)
    (hs : session.state = .started) (hb : Session.isInBuffer session.config.buffer.size superpage)
    (ha : superpage.offset % offsetAlignment = 0)
    (hp : session.flow.tracker.push superpage = .ok tracker) :
    Orderly config ⟨{ session with flow := { session.flow with tracker := tracker } },
      ledger.accept superpage⟩ traffic := by
  have hstep : Step ⟨session, ledger⟩ _ := .accept hs hb ha hp
  have hplan : plan config.pageSize config.bufferPages (ledger.accepted.map Superpage.identity) <+:
      plan config.pageSize config.bufferPages
        ((ledger.accept superpage).accepted.map Superpage.identity) := by
    rw [Ledger.accept, List.map_append]
    exact plan_isPrefix _ _
  refine ⟨h.coherent.step hstep, h.balanced.step hstep, h.follows.mono hplan, h.landed_isPrefix,
    fun _ => ?_⟩
  obtain ⟨htaken, hlanded, hfifo, hbuffer⟩ := h.running hs
  refine ⟨htaken, ?_, hfifo, hbuffer⟩
  have harrived := Tracker.arrivedPages_push hp
  obtain ⟨-, -, -, -, -, rfl⟩ := Tracker.push_eq_ok_iff.mp hp
  dsimp only at hlanded ⊢
  rw [harrived, hlanded]
  rfl

theorem Orderly.pop (h : Orderly config ⟨session, ledger⟩ traffic)
    (hp : session.flow.tracker.pop = .ok (superpage, tracker)) :
    Orderly config ⟨{ session with flow := { session.flow with tracker := tracker } },
      ledger.pop superpage⟩ traffic := by
  have hstep : Step ⟨session, ledger⟩ _ := .pop hp
  refine ⟨h.coherent.step hstep, h.balanced.step hstep, h.follows, h.landed_isPrefix,
    fun hs => ?_⟩
  obtain ⟨htaken, hlanded, hfifo, hbuffer⟩ := h.running hs
  refine ⟨htaken, ?_, hfifo, hbuffer⟩
  obtain ⟨ready, hready, rfl⟩ := Tracker.pop_eq_ok_iff.mp hp
  have hended : ended ⟨session, ledger⟩ =
      ended ⟨{ session with flow := { session.flow with tracker :=
        { session.flow.tracker with
          ready := ready, live := session.flow.tracker.live.erase superpage.offset } } },
        ledger.pop superpage⟩ := by
    simp [ended, Ledger.pop, hready]
  rw [hlanded, hended]
  rfl

/-- Whatever the transport answers, the calls on it stay in order. -/
theorem Orderly.step {account after : Account ρ (Recorder τ)} (hpage : 0 < config.pageSize)
    (step : Step account after) (h : account.Orderly config account.traffic) :
    after.Orderly config after.traffic := by
  cases step with
  | note => exact h.of_flow rfl rfl rfl
  | @begin session ledger _ _ ha =>
    rw [traffic_of_calls ⟨session, ledger⟩ _ (Recorder.calls_start ha)]
    exact (h.clear .started).of_flow rfl rfl rfl
  | @refuse session ledger _ _ _ ha =>
    rw [traffic_of_calls ⟨session, ledger⟩ _ (Recorder.calls_start ha)]
    exact (h.clear session.state).of_flow rfl rfl rfl
  | accept hs hb ha hp => exact h.accept hs hb ha hp
  | @pageRefused session ledger _ _ _ hs hn hp =>
    rw [traffic_of_calls ⟨session, ledger⟩ _ (Recorder.calls_pushPage hp), Traffic.record_push_error]
    exact (h.pageRefused hpage hs hn).of_flow rfl rfl rfl
  | @pageTaken session ledger _ _ _ hs hn hp hf =>
    rw [traffic_of_calls ⟨session, ledger⟩ _ (Recorder.calls_pushPage hp), Traffic.record_push_ok]
    exact (h.pageTaken hpage hs hn hf).of_flow rfl rfl rfl
  | @pollFailed session ledger _ _ _ _ _ hp =>
    rw [traffic_of_calls ⟨session, ledger⟩ _ (Recorder.calls_pollPage hp)]
    exact h.of_flow rfl rfl rfl
  | @pageOut session ledger _ _ _ _ hp =>
    rw [traffic_of_calls ⟨session, ledger⟩ _ (Recorder.calls_pollPage hp)]
    exact h.of_flow rfl rfl rfl
  | @pageLanded session ledger _ _ _ _ _ hs hp hpoll hf =>
    rw [traffic_of_calls ⟨session, ledger⟩ _ (Recorder.calls_pollPage hpoll), Traffic.record_poll_landed]
    exact (h.pageLanded hs hp hf).of_flow rfl rfl rfl
  | promote => exact h.promote hpage
  | @finish session ledger _ _ _ ha =>
    rw [traffic_of_calls ⟨session, ledger⟩ _ (Recorder.calls_stop ha)]
    exact h.finish.of_flow rfl rfl rfl
  | pop hp => exact h.pop hp

theorem Orderly.path {account after : Account ρ (Recorder τ)} (hpage : 0 < config.pageSize)
    (path : Path account after) (h : account.Orderly config account.traffic) :
    after.Orderly config after.traffic :=
  path.keeps (P := fun account => account.Orderly config account.traffic) (Orderly.step hpage) h

end Account

namespace Session

open Dma

variable {ρ τ : Type}

theorem Opened.orderly {transport : τ} {session : Session ρ τ} (h : session.Opened transport) :
    0 < session.config.pageSize ∧
      Account.Orderly session.config ⟨session.recorded, .empty⟩
        (Account.traffic ⟨session.recorded, .empty⟩) := by
  have hc := h.coherent
  obtain ⟨hv, hfresh⟩ := h.exists_fresh
  obtain ⟨-, ⟨hpage, -⟩, -⟩ := ChannelConfig.validate_eq_ok_iff.mp hv
  have hstate : session.state = .stopped := by rw [hfresh]; rfl
  have htracker : session.flow.tracker.identities = [] := by rw [hfresh]; rfl
  refine ⟨hpage, ⟨hc.config_eq, hc.capacity_eq, hc.pageSize_eq, hc.inStep⟩, .empty htracker,
    .nil _, List.nil_prefix, fun hs => ?_⟩
  exact absurd (hstate.symm.trans hs) nofun

variable [PageTransport τ]

/--
Since the last start the transport has taken the pages of the accepted superpages in turn, each with
the next slot of either ring, and was offered a page again for as long as it refused it. The pages
that have landed are the first of those, each counted by the superpage that it belongs to; this also
holds while a call is going on, as when a stop credits what has landed.
-/
theorem pages_of_run {transport : τ} {session last : Session ρ τ} (h : session.Opened transport)
    {operations : List Operation} {history : History}
    (hr : session.run operations = .ok (history, last)) :
    takenPages (Traffic.ofCalls (session.calls operations)).offers <+:
        plan session.config.pageSize session.config.bufferPages
          ((Ledger.ofHistory history).accepted.map Superpage.identity) ∧
      (∀ before refused next after,
        (Traffic.ofCalls (session.calls operations)).offers =
          before ++ refused :: next :: after →
        refused.taken = false → next.page = refused.page) ∧
      (Traffic.ofCalls (session.calls operations)).landed <+:
        takenPages (Traffic.ofCalls (session.calls operations)).offers ∧
      (last.state = .started → Account.Credited session.config ⟨last, Ledger.ofHistory history⟩
        (Traffic.ofCalls (session.calls operations))) ∧
      ∀ account, Account.Path ⟨session.recorded, .empty⟩ account →
        account.session.state = .started → account.Credited session.config account.traffic := by
  obtain ⟨hpage, hstart⟩ := h.orderly
  obtain ⟨twin, ht, rfl, hcalls⟩ := exists_recorded_of_run hr
  have ho : Account.Orderly session.config ⟨twin, Ledger.ofHistory history⟩
      (Traffic.ofCalls (session.calls operations)) := by
    rw [← hcalls]
    exact hstart.path hpage (Account.run_path .empty ht)
  refine ⟨ho.follows.takenPages_isPrefix, ?_, ho.landed_isPrefix, ho.credited hpage, ?_⟩
  · intro before refused next after he
    exact ho.follows.page_eq_of_refused he
  · intro account path
    exact (hstart.path hpage path).credited hpage

/-- Two superpages of two pages each, over a transport that takes three pages. -/
def twoByTwo : List Operation :=
  [.start, .push (.fresh 0 16384), .push (.fresh 16384 16384), .fill]

theorem pages_of_run_refused :
    ∃ history last,
      (trial (⟨[8192], some 3, false, false, false⟩ : Simulation.ScriptedTransport)).run twoByTwo =
        .ok (history, last) ∧
      last.state = .started ∧
      [⟨0, 0, 0, 8192⟩, ⟨1, 1, 8192, 8192⟩, ⟨2, 2, 16384, 8192⟩] <+:
        plan 8192 4 ((Ledger.ofHistory history).accepted.map Superpage.identity) ∧
      Account.Credited trialConfig ⟨last, Ledger.ofHistory history⟩
        ⟨[⟨⟨0, 0, 0, 8192⟩, true⟩, ⟨⟨1, 1, 8192, 8192⟩, true⟩, ⟨⟨2, 2, 16384, 8192⟩, true⟩,
          ⟨⟨3, 3, 24576, 8192⟩, false⟩, ⟨⟨3, 3, 24576, 8192⟩, false⟩], [⟨0, 0, 0, 8192⟩]⟩ := by
  have computed : ((trial (⟨[8192], some 3, false, false, false⟩ :
      Simulation.ScriptedTransport)).run twoByTwo).map (·.2.state) = .ok .started := by
    decide +kernel
  have htraffic : Traffic.ofCalls ((trial (⟨[8192], some 3, false, false, false⟩ :
      Simulation.ScriptedTransport)).calls twoByTwo) =
        ⟨[⟨⟨0, 0, 0, 8192⟩, true⟩, ⟨⟨1, 1, 8192, 8192⟩, true⟩, ⟨⟨2, 2, 16384, 8192⟩, true⟩,
          ⟨⟨3, 3, 24576, 8192⟩, false⟩, ⟨⟨3, 3, 24576, 8192⟩, false⟩], [⟨0, 0, 0, 8192⟩]⟩ := by
    decide +kernel
  obtain ⟨⟨history, last⟩, hr, hs⟩ := exists_of_map_eq_ok computed
  obtain ⟨htaken, -, -, hcredited, -⟩ := pages_of_run (opened_trial _) hr
  rw [htraffic] at htaken hcredited
  exact ⟨history, last, hr, hs, htaken, hcredited hs⟩

end Session

end Readout
