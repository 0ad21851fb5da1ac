import Readout.Proofs.Sca.Steps
import Readout.Proofs.Sca.Waiting

/-!
An engine on a bus that keeps the accesses does what it does on the bare one, and the accesses that
are kept are those of the operation's steps, whatever the port and the clock answer.
-/

namespace Readout

namespace Sca

open Register

variable {ρ α β : Type}

namespace Bus

/-- The bus with a port that keeps the accesses from now on. -/
def traced (bus : Bus ρ) : Bus (Traced ρ) := ⟨.on bus.port, bus.clock, bus.log⟩

/-- The bus without the accesses that its port has kept. -/
def untraced (bus : Bus (Traced ρ)) : Bus ρ := ⟨bus.port.port, bus.clock, bus.log⟩

@[simp] theorem untraced_traced (bus : Bus ρ) : bus.traced.untraced = bus := rfl

end Bus

/--
The second transaction does on the bare bus what the first does on the traced one, and the accesses
of the first are as `tells` has it of its result.
-/
def Does (kept : Transaction (Traced ρ) α) (bare : Transaction ρ α)
    (tells : List Access → Except Failure α → Prop) : Prop :=
  ∀ bus : Bus (Traced ρ),
    bare.on bus.untraced = ((kept.on bus).1, (kept.on bus).2.untraced) ∧
    ∃ accesses, (kept.on bus).2.port.accesses = bus.port.accesses ++ accesses ∧
      tells accesses (kept.on bus).1

/-- The accesses are those of the steps. -/
def Follows (offset : Nat) (steps : List Step) (kept : Transaction (Traced ρ) α)
    (bare : Transaction ρ α) : Prop :=
  Does kept bare fun accesses result => Runs offset steps accesses (failure? result)

section Does

variable {kept : Transaction (Traced ρ) α} {bare : Transaction ρ α}
  {f : α → Transaction (Traced ρ) β} {g : α → Transaction ρ β}
  {tells : List Access → Except Failure α → Prop}
  {tellsAll : List Access → Except Failure β → Prop}

theorem does_pure (a : α) (h : tells [] (.ok a)) : Does (pure a) (pure a : Transaction ρ α) tells :=
  fun _ => ⟨rfl, [], (List.append_nil _).symm, h⟩

theorem does_throw (failure : Failure) (h : tells [] (.error failure)) :
    Does (throw failure) (throw failure : Transaction ρ α) tells :=
  fun _ => ⟨rfl, [], (List.append_nil _).symm, h⟩

theorem Does.mono {more : List Access → Except Failure α → Prop} (h : Does kept bare tells)
    (hm : ∀ accesses result, tells accesses result → more accesses result) :
    Does kept bare more := by
  intro bus
  obtain ⟨herase, accesses, happend, hsays⟩ := h bus
  exact ⟨herase, accesses, happend, hm _ _ hsays⟩

theorem Does.bind (tellsNext : α → List Access → Except Failure β → Prop)
    (h : Does kept bare tells) (hnext : ∀ a, Does (f a) (g a) (tellsNext a))
    (hfail : ∀ accesses failure,
      tells accesses (.error failure) → tellsAll accesses (.error failure))
    (hthen : ∀ accesses more a result, tells accesses (.ok a) → tellsNext a more result →
      tellsAll (accesses ++ more) result) :
    Does (kept >>= f) (bare >>= g) tellsAll := by
  intro bus
  obtain ⟨herase, accesses, happend, hsays⟩ := h bus
  rw [Attempt.on_bind, Attempt.on_bind, herase]
  rcases hx : kept.on bus with ⟨failure | a, next⟩
  · rw [hx] at happend hsays
    exact ⟨rfl, accesses, happend, hfail _ _ hsays⟩
  · rw [hx] at happend hsays
    obtain ⟨herase', more, happend', hsays'⟩ := hnext a next
    refine ⟨herase', accesses ++ more, ?_, hthen _ _ _ _ hsays hsays'⟩
    rw [happend', happend, List.append_assoc]

/-- A record in the log is no access. -/
theorem Does.behind_debug {text : String} {rest : Unit → Transaction (Traced ρ) α}
    {rest' : Unit → Transaction ρ α} (h : Does (rest ()) (rest' ()) tells) :
    Does (Bus.debug text >>= rest) (Bus.debug text >>= rest') tells :=
  fun bus => h { bus with log := bus.log.debug text }

theorem Does.behind_warn {text : String} {rest : Unit → Transaction (Traced ρ) α}
    {rest' : Unit → Transaction ρ α} (h : Does (rest ()) (rest' ()) tells) :
    Does (Bus.warn text >>= rest) (Bus.warn text >>= rest') tells :=
  fun bus => h { bus with log := bus.log.warn text }

end Does

section Accesses

variable [RegisterPort ρ]

theorem does_read (index : Nat) :
    Does (Bus.read index) (Bus.read index : Transaction ρ UInt32) fun accesses result =>
      ∃ answer, accesses = [.read index answer] ∧
        result = answer.mapError fun error => .error (.register error) :=
  fun _ => ⟨rfl, _, rfl, _, rfl, rfl⟩

/-- What follows a read goes on from the word that was read. -/
theorem Does.behind_read {index : Nat} {f : UInt32 → Transaction (Traced ρ) α}
    {g : UInt32 → Transaction ρ α} {tells : List Access → Except Failure α → Prop}
    (hfail : ∀ error, tells [.read index (.error error)] (.error (.error (.register error))))
    (hnext : ∀ word, Does (f word) (g word) fun accesses result =>
      tells (.read index (.ok word) :: accesses) result) :
    Does (Bus.read index >>= f) (Bus.read index >>= g) tells := by
  refine Does.bind _ (does_read index) hnext ?_ ?_
  · rintro _ error ⟨answer, rfl, ha⟩
    cases answer with
    | ok => simp at ha
    | error e =>
      obtain rfl := Except.error.inj ha
      exact hfail e
  · rintro _ more word result ⟨answer, rfl, ha⟩ hmore
    cases answer with
    | error => simp at ha
    | ok =>
      obtain rfl := Except.ok.inj ha
      exact hmore

theorem does_write (index : Nat) (value : UInt32) :
    Does (Bus.write index value) (Bus.write index value : Transaction ρ Unit)
      fun accesses result =>
        ∃ answer, accesses = [.write index value answer] ∧
          result = answer.mapError fun error => .error (.register error) :=
  fun _ => ⟨rfl, _, rfl, _, rfl, rfl⟩

/-- The looks of a wait end with the word that is waited for, with an error, or too late. -/
theorem looks_of_waiting {index : Nat} {isDone : UInt32 → Bool} {waiting : List UInt32}
    (h : ∀ word ∈ waiting, isDone word = false) (late : ScaError)
    (last : Except RegisterError UInt32) :
    Looks index isDone late (List.map (.read index) (List.map .ok waiting ++ [last]))
      (failure? (outlast late isDone last)) := by
  induction waiting with
  | nil =>
    cases last with
    | error error => exact .failed
    | ok word =>
      cases hd : isDone word with
      | true =>
        rw [outlast_of_done hd]
        exact .seen hd
      | false =>
        rw [outlast_of_late hd]
        exact .late hd
  | cons word waiting ih =>
    obtain ⟨hword, hwaiting⟩ := List.forall_mem_cons.1 h
    exact .again hword (ih hwaiting)

theorem does_await (timeout : Duration) (late : ScaError) (index : Nat) (isDone : UInt32 → Bool) :
    Does (Bus.await timeout late index isDone)
      (Bus.await timeout late index isDone : Transaction ρ Unit)
      fun accesses result => Waits index isDone late accesses (failure? result) := by
  intro bus
  refine ⟨on_await_view (f := Traced.port) (fun _ => rfl) timeout late isDone bus, ?_⟩
  rcases Nat.lt_or_ge (bus.clock.now + timeout.nanoseconds) Deadline.horizon with hlt | hle
  · obtain ⟨waiting, last, hresult, haccesses, hwaited⟩ :=
      exists_waited_of_await hlt late index isDone
    refine ⟨_, haccesses, ?_⟩
    rw [hresult]
    exact .looked (looks_of_waiting hwaited.waiting_eq late last)
  · rw [on_await_of_overflow hle]
    exact ⟨[], (List.append_nil _).symm, .endless⟩

end Accesses

namespace Follows

variable {offset : Nat} {steps more : List Step} {kept : Transaction (Traced ρ) α}
  {bare : Transaction ρ α} {f : α → Transaction (Traced ρ) β} {g : α → Transaction ρ β}

theorem pure (a : α) : Follows offset [] (Pure.pure a) (Pure.pure a : Transaction ρ α) :=
  does_pure a .done

theorem bind (h : Follows offset steps kept bare) (hnext : ∀ a, Follows offset more (f a) (g a)) :
    Follows offset (steps ++ more) (kept >>= f) (bare >>= g) :=
  Does.bind _ h hnext (fun _ _ hruns => hruns.append_of_fail)
    fun _ _ _ _ hruns hmore => Runs.append hruns hmore

/-- Nothing is accessed for what is only made of the answer. -/
theorem answer (h : Follows offset steps kept bare) (give : α → β) :
    Follows offset steps (kept >>= fun a => Pure.pure (give a))
      (bare >>= fun a => Pure.pure (give a)) := by
  simpa using h.bind fun a => pure (give a)

end Follows

namespace Engine

variable [RegisterPort ρ] (engine : Engine)

theorem follows_store (register : Nat) (value : UInt32) :
    Follows engine.offset [.store register value] (engine.store register value)
      (engine.store register value : Transaction ρ Unit) := by
  refine (does_write _ value).mono ?_
  rintro _ _ ⟨answer, rfl, rfl⟩
  cases answer with
  | ok => exact .single .stored
  | error => exact .single .unstored

theorem follows_awaitIdle :
    Follows engine.offset [.awaitIdle] engine.awaitIdle
      (engine.awaitIdle : Transaction ρ Unit) :=
  (does_await _ _ _ _).mono fun _ _ hwaits => .single (.awaited hwaits)

theorem follows_readTime :
    Follows engine.offset [.fetchTime] engine.readTime
      (engine.readTime : Transaction ρ UInt32) := by
  refine (Sca.does_read _).mono ?_
  rintro _ _ ⟨answer, rfl, rfl⟩
  cases answer with
  | ok => exact .single .timed
  | error => exact .single .untimed

/-- The reply is judged by the command word as it was before the wait. -/
theorem does_read :
    Does engine.read (engine.read : Transaction ρ Reply) (Fetches engine.offset) := by
  refine Does.behind_read (fun _ => .dataFailed) fun data => ?_
  refine Does.behind_read (fun _ => .commandFailed) fun command => ?_
  refine Does.bind (fun _ accesses result => accesses = [] ∧
      result = (Flags.ofCommand? command).elim (.ok ⟨command, data⟩) fun flags =>
        .error (.error (.hardware flags)))
    (does_await _ _ _ _) (fun _ => ?_) (fun _ _ hwaits => .unsettled hwaits) ?_
  · cases Flags.ofCommand? command with
    | some flags => exact Does.behind_warn (does_throw _ ⟨rfl, rfl⟩)
    | none => exact Does.behind_debug (does_pure _ ⟨rfl, rfl⟩)
  · rintro looks _ _ result hwaits ⟨rfl, rfl⟩
    rw [List.append_nil]
    cases hflags : Flags.ofCommand? command with
    | some flags => exact .flagged hwaits hflags
    | none => exact .clean hwaits hflags

theorem follows_read :
    Follows engine.offset [.fetchReply] engine.read (engine.read : Transaction ρ Reply) :=
  engine.does_read.mono fun _ _ hfetches => .single (.fetched hfetches)

theorem follows_strobe :
    Follows engine.offset [.store control execute, .store control idle, .awaitIdle] engine.strobe
      (engine.strobe : Transaction ρ Unit) :=
  (engine.follows_store _ _).bind fun _ => (engine.follows_store _ _).bind fun _ =>
    engine.follows_awaitIdle

theorem follows_write (request : Request) :
    Follows engine.offset request.steps (engine.write request)
      (engine.write request : Transaction ρ Unit) := by
  unfold Engine.write Request.steps
  split
  · exact does_throw _ (.fail .refused)
  · exact Does.behind_debug ((engine.follows_store _ _).bind fun _ =>
      (engine.follows_store _ _).bind fun _ => engine.follows_strobe)

theorem follows_exchange (request : Request) :
    Follows engine.offset request.exchangeSteps (engine.exchange request)
      (engine.exchange request : Transaction ρ Reply) :=
  (engine.follows_write request).bind fun _ => engine.follows_read

theorem follows_exchangeAll (requests : List Request) :
    Follows engine.offset (requests.flatMap Request.exchangeSteps) (engine.exchangeAll requests)
      (engine.exchangeAll requests : Transaction ρ (List Reply)) := by
  induction requests with
  | nil => exact .pure _
  | cons request rest ih =>
    exact (engine.follows_exchange request).bind fun reply =>
      ih.answer fun replies => reply :: replies

/-- The words of a reset are stored one after the other, each followed by a wait. -/
theorem follows_forM (values : List UInt32) :
    Follows engine.offset (values.flatMap fun value => [.store control value, .awaitIdle])
      (values.forM fun value => do
        engine.store control value
        engine.awaitIdle)
      (values.forM fun value => do
        engine.store control value
        engine.awaitIdle : Transaction ρ Unit) := by
  induction values with
  | nil => exact .pure _
  | cons value values ih =>
    exact ((engine.follows_store _ _).bind fun _ => engine.follows_awaitIdle).bind fun _ => ih

theorem follows_reset :
    Follows engine.offset resetPlan engine.reset (engine.reset : Transaction ρ Unit) :=
  Does.behind_debug ((engine.follows_forM resetSteps).bind fun _ => engine.follows_store _ _)

theorem follows_enableGpio :
    Follows engine.offset enablePlan engine.enableGpio
      (engine.enableGpio : Transaction ρ Unit) :=
  (engine.follows_exchange _).bind fun _ => (engine.follows_exchange _).bind fun _ =>
    (engine.follows_write _).bind fun _ => (engine.follows_exchange _).answer fun _ => ()

theorem follows_bringUp :
    Follows engine.offset (resetPlan ++ enablePlan) engine.bringUp
      (engine.bringUp : Transaction ρ Unit) :=
  engine.follows_reset.bind fun _ => engine.follows_enableGpio

/-- Every operation makes the accesses of its steps, whatever its bus answers. -/
theorem perform_follows (operation : Operation) :
    Follows engine.offset operation.steps (engine.perform operation)
      (engine.perform operation : Transaction ρ Answer) := by
  cases operation with
  | bringUp => exact engine.follows_bringUp.answer fun _ => Answer.done
  | write request => exact (engine.follows_write request).answer fun _ => Answer.done
  | read => exact engine.follows_read.answer Answer.reply
  | readTime => exact engine.follows_readTime.answer Answer.word
  | exchangeAll requests => exact (engine.follows_exchangeAll requests).answer Answer.replies
  | writeGpio data =>
    exact Follows.answer
      (engine.follows_bringUp.bind fun _ => (engine.follows_write _).bind fun _ =>
      (engine.follows_exchange _).bind fun _ => engine.follows_exchange _) Answer.reply
  | readGpio => exact (engine.follows_exchange _).answer Answer.reply

/-- The accesses that the operation makes on the bus, oldest first. -/
def accesses (operation : Operation) (bus : Bus ρ) : List Access :=
  ((engine.perform operation).on bus.traced).2.port.accesses

/-- The accesses of an operation go with what it comes to on the bare bus. -/
theorem runs_accesses (operation : Operation) (bus : Bus ρ) :
    Runs engine.offset operation.steps (engine.accesses operation bus)
      (failure? ((engine.perform operation).on bus).1) := by
  obtain ⟨herase, accesses, happend, hruns⟩ := engine.perform_follows operation bus.traced
  have hmade : engine.accesses operation bus = accesses := happend
  rw [Bus.untraced_traced] at herase
  rw [herase, hmade]
  exact hruns

end Engine

end Sca

end Readout
