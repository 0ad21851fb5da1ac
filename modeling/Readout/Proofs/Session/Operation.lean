import Readout.Channel.Lifecycle
import Readout.Proofs.Dma.Transfer
import Readout.Register.Blank
import Readout.Simulation.LockTable

/-!
Calls on an open session, one after the other, and the book that its owner can keep of the
superpages that went in and came out.
-/

namespace Readout

theorem exists_of_map_eq_ok {ε α β : Type} {x : Except ε α} {f : α → β} {b : β}
    (h : x.map f = .ok b) : ∃ a, x = .ok a ∧ f a = b := by
  cases x with
  | error _ => simp [Except.map] at h
  | ok a => exact ⟨a, rfl, Except.ok.inj h⟩

/-- A call that the owner of a session makes on its run. -/
inductive Operation where
  | start | stop
  | push (superpage : Dma.Superpage)
  | fill
  | pop
  deriving DecidableEq

/-- What a call that succeeds gives. -/
inductive Answer where
  | done
  | promoted (count : Nat)
  | popped (superpage : Dma.Superpage)
  deriving DecidableEq

/-- A call that returned: the state in which it found the session, and what it gave. -/
structure Entry where
  found : RunState
  operation : Operation
  answer : Except Error Answer

/-- Oldest call first. -/
abbrev History := List Entry

/-- The superpages that were accepted and those that were popped, in the order of the calls. -/
structure Ledger where
  accepted : List Dma.Superpage
  popped : List Dma.Superpage
  deriving DecidableEq

namespace Ledger

def empty : Ledger := ⟨[], []⟩

def accept (ledger : Ledger) (superpage : Dma.Superpage) : Ledger :=
  { ledger with accepted := ledger.accepted ++ [superpage] }

def pop (ledger : Ledger) (superpage : Dma.Superpage) : Ledger :=
  { ledger with popped := ledger.popped ++ [superpage] }

/-- A start of a stopped session opens a new ledger, whether or not it succeeds. -/
def record (ledger : Ledger) (entry : Entry) : Ledger :=
  match entry.operation, entry.answer with
  | .start, _ => if entry.found = .stopped then .empty else ledger
  | .push superpage, .ok _ => ledger.accept superpage
  | .pop, .ok (.popped superpage) => ledger.pop superpage
  | _, _ => ledger

/-- The ledger that the calls leave. -/
def ofHistory (history : History) : Ledger := history.foldl record .empty

/-- Only a push adds to what was accepted. -/
theorem mem_accepted_record {ledger : Ledger} {entry : Entry} {superpage : Dma.Superpage}
    (h : superpage ∈ (ledger.record entry).accepted) :
    superpage ∈ ledger.accepted ∨ entry.operation = .push superpage := by
  unfold record at h
  split at h
  · split at h
    · simp [empty] at h
    · exact .inl h
  · next other answer ho ha =>
    rcases List.mem_append.mp h with h | h
    · exact .inl h
    · exact .inr (List.mem_singleton.mp h ▸ ho)
  · exact .inl h
  · exact .inl h

end Ledger

namespace Session

variable {ρ τ : Type}

/-- The session is what an opening over the transport gave. -/
def Opened (transport : τ) (session : Session ρ τ) : Prop :=
  ∃ (η : Type) (_ : Host η) (config : ChannelConfig) (port : ρ) (clock : Clock) (host : η),
    (openOn config port transport clock host).result = .ok (.ok session)

/-- An opened session has a valid configuration and empty queues. -/
theorem Opened.exists_fresh {transport : τ} {session : Session ρ τ}
    (h : session.Opened transport) :
    session.config.validate = .ok () ∧
      session = .fresh session.config session.lock
        (.empty session.config.pageSize session.config.transferCapacity
          session.config.readyCapacity) session.port transport := by
  obtain ⟨η, _, config, port, clock, host, h⟩ := h
  unfold openOn at h
  cases hv : config.validate with
  | error error => simp [hv] at h
  | ok _ =>
    simp only [hv] at h
    split at h
    next => simp at h
    next => simp at h
    next lock hl =>
      cases ht : Dma.Tracker.allocate config.pageSize config.transferCapacity
        config.readyCapacity with
      | error overflow => simp [ht] at h
      | ok tracker =>
        simp only [ht, Except.ok.injEq] at h
        subst h
        obtain rfl := Dma.Tracker.eq_empty_of_allocate ht
        exact ⟨hv, rfl⟩

/-- A valid configuration whose queues memory has room for can be opened where no lock is held. -/
theorem opened_fresh {config : ChannelConfig} (hv : config.validate = .ok ())
    (hm : config.lockMode = .immediate)
    (ht : config.transferCapacity * Dma.Tracker.transferEntryBytes < memoryBound)
    (hr : config.readyCapacity * Dma.Tracker.readyEntryBytes < memoryBound) (port : ρ)
    (transport : τ) :
    (fresh config ⟨config.lockName, Lock.socketName config.lockName⟩
      (.empty config.pageSize config.transferCapacity config.readyCapacity) port
      transport).Opened transport := by
  refine ⟨Simulation.LockTable, inferInstance, config, port, .ticking 1 Nat.one_pos, .empty, ?_⟩
  have hl : (ChannelLock.acquire config.lockName .immediate (.ticking 1 Nat.one_pos)
      (Sockets.info Simulation.LockTable.empty
        s!"Acquiring DMA channel lock for {config.card.name} channel {config.channel.toNat}")).result =
      .ok (.ok ⟨config.lockName, Lock.socketName config.lockName⟩) := rfl
  simp only [openOn, hv, hm, hl, Dma.Tracker.allocate_eq_ok ht hr]

/-- A buffer of four pages on the dummy card, and room for a single superpage that is over. -/
def trialConfig : ChannelConfig :=
  { ChannelConfig.standard .dummy "42:00.0" 0 with
    buffer := .memory 4096 32768
    readyCapacity := 1 }

/-- What opening the configuration over the transport gives. -/
def trial (transport : τ) : Session Register.BlankPort τ :=
  .fresh trialConfig ⟨trialConfig.lockName, Lock.socketName trialConfig.lockName⟩
    (.empty trialConfig.pageSize trialConfig.transferCapacity trialConfig.readyCapacity) ⟨⟩
    transport

theorem opened_trial (transport : τ) : (trial transport).Opened transport :=
  opened_fresh (by decide) rfl (by decide) (by decide) _ _

/-- The outcome of a call that returns; a fault is no error of the call but the end of it. -/
def returned {α : Type} (give : α → Answer) :
    Except Failure α × Session ρ τ → Except Dma.FlowFault (Except Error Answer) × Session ρ τ
  | (.ok a, session) => (.ok (.ok (give a)), session)
  | (.error (.error error), session) => (.ok (.error error), session)
  | (.error (.fault fault), session) => (.error fault, session)

/-- What a call that returned gave, before its answer was named. -/
theorem exists_of_returned {α : Type} {give : α → Answer}
    {outcome : Except Failure α × Session ρ τ} {next : Session ρ τ} {answer : Except Error Answer}
    (h : returned give outcome = (.ok answer, next)) :
    ∃ result : Except Error α,
      outcome = (result.mapError .error, next) ∧ answer = result.map give := by
  rcases outcome with ⟨(error | fault) | a, last⟩
  · simp only [returned, Prod.mk.injEq, Except.ok.injEq] at h
    exact ⟨.error error, by simp [h.2], h.1.symm⟩
  · simp [returned] at h
  · simp only [returned, Prod.mk.injEq, Except.ok.injEq] at h
    exact ⟨.ok a, by simp [h.2], h.1.symm⟩

theorem returned_eq_error_iff {α : Type} {give : α → Answer}
    {outcome : Except Failure α × Session ρ τ} {next : Session ρ τ} {fault : Dma.FlowFault} :
    returned give outcome = (.error fault, next) ↔ outcome = (.error (.fault fault), next) := by
  rcases outcome with ⟨(error | other) | a, last⟩ <;> simp [returned]

variable [PageTransport τ]

def perform (operation : Operation) (session : Session ρ τ) :
    Except Dma.FlowFault (Except Error Answer) × Session ρ τ :=
  match operation with
  | .start => returned (fun _ => .done) (start.on session)
  | .stop => returned (fun _ => .done) (stop.on session)
  | .push superpage => returned (fun _ => .done) ((push superpage).on session)
  | .fill => returned .promoted (fill.on session)
  | .pop => returned .popped (pop.on session)

/-- The calls in turn, whatever errors they give; a call that cannot return ends the run. -/
def run : List Operation → Session ρ τ → Except Dma.FlowFault (History × Session ρ τ)
  | [], session => .ok ([], session)
  | operation :: rest, session =>
    match session.perform operation with
    | (.error fault, _) => .error fault
    | (.ok answer, next) =>
      (run rest next).map fun (history, last) =>
        (⟨session.state, operation, answer⟩ :: history, last)

/-- The first call of a run returns, and the others follow it. -/
theorem exists_of_run_cons {session last : Session ρ τ} {operation : Operation}
    {rest : List Operation} {history : History}
    (h : session.run (operation :: rest) = .ok (history, last)) :
    ∃ answer next later, session.perform operation = (.ok answer, next) ∧
      next.run rest = .ok (later, last) ∧
      history = ⟨session.state, operation, answer⟩ :: later := by
  rw [run] at h
  rcases hp : session.perform operation with ⟨fault | answer, next⟩
  · simp [hp] at h
  · simp only [hp] at h
    obtain ⟨⟨later, reached⟩, hr, he⟩ := exists_of_map_eq_ok h
    obtain ⟨rfl, rfl⟩ := Prod.mk.inj he
    exact ⟨answer, next, later, rfl, hr, rfl⟩

end Session

end Readout
