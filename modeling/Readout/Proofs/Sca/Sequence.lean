import Readout.Proofs.Sca.Likeness
import Readout.Proofs.Sca.Writes

/-!
Requests that are exchanged one after the other. To exchange one list behind another is to exchange
the first and then, unless that failed, the second; so a list comes down to its single requests,
each on the bus that those before it left, and the first that fails is the last to access anything.
-/

namespace Readout

/-- The port with these accesses kept before its own. -/
def Register.Traced.behind {ρ : Type} (earlier : List Access) (traced : Traced ρ) : Traced ρ :=
  ⟨traced.port, earlier ++ traced.accesses⟩

/-- A timeout, a failed access or what the block itself reports. -/
def ScaError.arisesOnBus : ScaError → Bool
  | .busyTimeout | .channelBusyTimeout | .hardware _ | .register _ => true
  | .reservedTransactionId _ | .linkOutOfRange _ _ => false

namespace Sca

/-- A wait that has no end is one for the block. -/
def Failure.arisesOnBus : Failure → Bool
  | .error cause => cause.arisesOnBus
  | .fault _ => true

open Register Attempt

variable {ρ α β : Type}

/-! ## Accesses behind those of an earlier transaction -/

namespace Bus

/-- The bus whose port has kept these accesses before its own. -/
def behind (earlier : List Access) (bus : Bus (Traced ρ)) : Bus (Traced ρ) :=
  { bus with port := bus.port.behind earlier }

theorem behind_traced_untraced (bus : Bus (Traced ρ)) :
    bus.untraced.traced.behind bus.port.accesses = bus := by
  simp [behind, traced, untraced, Traced.on, Traced.behind]

theorem behind_behind (earlier accesses : List Access) (bus : Bus (Traced ρ)) :
    (bus.behind accesses).behind earlier = bus.behind (earlier ++ accesses) := by
  simp [behind, Traced.behind]

theorem accesses_behind_traced (earlier : List Access) (bus : Bus ρ) :
    (bus.traced.behind earlier).port.accesses = earlier :=
  List.append_nil earlier

theorem untraced_behind_traced (earlier : List Access) (bus : Bus ρ) :
    (bus.traced.behind earlier).untraced = bus := rfl

end Bus

/-- What was accessed before makes no difference to an engine. -/
theorem likeness_behind [RegisterPort ρ] (engine : Engine) (earlier : List Access) :
    engine.Likeness (fun _ => False) fun (bus : Bus (Traced ρ)) other =>
      other = bus.behind earlier := by
  constructor
  case withLog =>
    rintro bus _ rfl f
    rfl
  case store =>
    rintro register - value bus _ rfl - -
    simp [Engine.store, Bus.write, Bus.behind, Traced.behind, RegisterPort.write, Traced.keep]
  case fetch =>
    rintro register - bus _ rfl - -
    simp [Engine.fetch, Bus.read, Bus.behind, Traced.behind, RegisterPort.read, Traced.keep]
  case await =>
    rintro timeout late register - isDone bus _ rfl - -
    have hread (port : Traced ρ) :
        RegisterPort.read (port.behind earlier) (engine.offset + register) =
          ((RegisterPort.read port (engine.offset + register)).1,
            (RegisterPort.read port (engine.offset + register)).2.behind earlier) := by
      simp [Traced.behind, RegisterPort.read, Traced.keep]
    exact Prod.mk.inj (on_await_view hread timeout late isDone bus)

/-- The accesses that a transaction makes on the bus. -/
def made (kept : Transaction (Traced ρ) α) (bus : Bus ρ) : List Access :=
  (kept.on bus.traced).2.port.accesses

/-- The first transaction does on a traced bus what the second does on the bare one, and puts its
accesses behind those that were made before. -/
def Keeps (kept : Transaction (Traced ρ) α) (bare : Transaction ρ α) : Prop :=
  ∀ bus : Bus (Traced ρ), kept.on bus = ((bare.on bus.untraced).1,
    (bare.on bus.untraced).2.traced.behind (bus.port.accesses ++ made kept bus.untraced))

section Keeps

variable {kept : Transaction (Traced ρ) α} {bare : Transaction ρ α}
  {f : α → Transaction (Traced ρ) β} {g : α → Transaction ρ β}
  {tells : List Access → Except Failure α → Prop} {bus next : Bus ρ} {a : α} {failure : Failure}

theorem Does.keeps (h : Does kept bare tells)
    (hm : ∀ earlier, Matches (fun bus other => other = bus.behind earlier) kept kept) :
    Keeps kept bare := by
  intro bus
  obtain ⟨hresult, hnext⟩ := hm bus.port.accesses bus.behind_traced_untraced.symm
  have hbare := (h bus.untraced.traced).1
  rw [Bus.untraced_traced] at hbare
  apply Prod.ext
  · rw [hresult, hbare]
  · rw [hnext, hbare, made, ← Bus.behind_behind, Bus.behind_traced_untraced]

theorem Keeps.on_traced (h : Keeps kept bare) (bus : Bus ρ) :
    kept.on bus.traced = ((bare.on bus).1, (bare.on bus).2.traced.behind (made kept bus)) :=
  h bus.traced

theorem Keeps.made_bind_of_ok (h : Keeps kept bare) (hf : ∀ a, Keeps (f a) (g a))
    (hon : bare.on bus = (.ok a, next)) :
    made (kept >>= f) bus = made kept bus ++ made (f a) next := by
  have hkept := h.on_traced bus
  rw [hon] at hkept
  rw [made, on_bind_of_ok hkept, hf, Bus.accesses_behind_traced, Bus.accesses_behind_traced,
    Bus.untraced_behind_traced]

theorem Keeps.made_bind_of_error (h : Keeps kept bare)
    (hon : bare.on bus = (.error failure, next)) :
    made (kept >>= f) bus = made kept bus := by
  have hkept := h.on_traced bus
  rw [hon] at hkept
  rw [made, on_bind_of_error hkept, Bus.accesses_behind_traced]

/-- Nothing is accessed for what is only made of the answer. -/
theorem made_answer (kept : Transaction (Traced ρ) α) (give : α → β) (bus : Bus ρ) :
    made (kept >>= fun a => pure (give a)) bus = made kept bus := by
  unfold made
  rw [on_bind]
  rcases kept.on bus.traced with ⟨_ | _, _⟩ <;> rfl

theorem Keeps.answer (h : Keeps kept bare) (give : α → β) :
    Keeps (kept >>= fun a => pure (give a)) (bare >>= fun a => pure (give a)) := by
  intro bus
  have hmade : made (kept >>= fun a => pure (give a)) bus.untraced = made kept bus.untraced :=
    made_answer kept give bus.untraced
  rw [hmade, on_bind, on_bind, h]
  rcases bare.on bus.untraced with ⟨_ | _, _⟩ <;> rfl

end Keeps

/-! ## Errors of a request that is sent -/

section Errors

variable {offset index : Nat} {isDone : UInt32 → Bool} {late : ScaError} {failure : Failure}
  {step : Step} {request : Request} {accesses : List Access}

theorem Looks.arisesOnBus (h : Looks index isDone late accesses (some failure))
    (hlate : late.arisesOnBus = true) : failure.arisesOnBus = true := by
  generalize ho : some failure = outcome at h
  induction h with
  | seen => cases ho
  | failed =>
    obtain rfl := Option.some.inj ho
    rfl
  | late =>
    obtain rfl := Option.some.inj ho
    exact hlate
  | again _ _ ih => exact ih ho

theorem Waits.arisesOnBus (h : Waits index isDone late accesses (some failure))
    (hlate : late.arisesOnBus = true) : failure.arisesOnBus = true := by
  cases h with
  | looked hlooks => exact hlooks.arisesOnBus hlate
  | endless => rfl

theorem Fetches.arisesOnBus (h : Fetches offset accesses (.error failure)) :
    failure.arisesOnBus = true := by
  cases h with
  | dataFailed | commandFailed | flagged => rfl
  | unsettled hwaits => exact hwaits.arisesOnBus rfl

theorem Step.Makes.arisesOnBus (h : step.Makes offset accesses (some failure))
    (hs : step.isRefusal = false) : failure.arisesOnBus = true := by
  generalize ho : some failure = outcome at h
  cases h with
  | stored | timed => cases ho
  | unstored | untimed =>
    obtain rfl := Option.some.inj ho
    rfl
  | awaited hwaits =>
    subst ho
    exact hwaits.arisesOnBus rfl
  | @fetched _ result hfetches =>
    cases result with
    | ok reply => cases ho
    | error cause =>
      obtain rfl := Option.some.inj ho
      exact hfetches.arisesOnBus
  | refused => cases hs

theorem Runs.arisesOnBus {steps : List Step} (h : Runs offset steps accesses (some failure))
    (hs : ∀ step ∈ steps, step.isRefusal = false) : failure.arisesOnBus = true := by
  obtain ⟨finished, step, rest, before, last, rfl, rfl, -, hlast⟩ := h.exists_of_fail
  exact hlast.arisesOnBus (hs step (List.mem_append_right _ List.mem_cons_self))

theorem Request.isRefusal_eq (h : request.isRefused = false) :
    ∀ step ∈ request.steps, step.isRefusal = false := by
  unfold Request.isRefused at h
  simp [Request.steps, h, Step.isRefusal]

end Errors

/-! ## Lists of requests -/

namespace Engine

variable [RegisterPort ρ] (engine : Engine)

theorem keeps_write (request : Request) :
    Keeps (engine.write request) (engine.write request : Transaction ρ Unit) :=
  Does.keeps (engine.follows_write request) fun earlier =>
    ((likeness_behind engine earlier).write request).matches

theorem keeps_read : Keeps engine.read (engine.read : Transaction ρ Reply) :=
  engine.does_read.keeps fun earlier => (likeness_behind engine earlier).read.matches

theorem keeps_exchangeAll (requests : List Request) :
    Keeps (engine.exchangeAll requests)
      (engine.exchangeAll requests : Transaction ρ (List Reply)) :=
  Does.keeps (engine.follows_exchangeAll requests) fun earlier =>
    ((likeness_behind engine earlier).exchangeAll requests).matches

theorem accesses_write (request : Request) (bus : Bus ρ) :
    engine.accesses (.write request) bus = made (engine.write request) bus :=
  made_answer _ _ bus

theorem accesses_read (bus : Bus ρ) : engine.accesses .read bus = made engine.read bus :=
  made_answer _ _ bus

theorem accesses_exchangeAll (requests : List Request) (bus : Bus ρ) :
    engine.accesses (.exchangeAll requests) bus = made (engine.exchangeAll requests) bus :=
  made_answer _ _ bus

theorem write_of_isRefused {request : Request} (h : request.isRefused = true) :
    (engine.write request : Transaction ρ Unit) =
      throw (.error (.reservedTransactionId (transactionId request.command))) := by
  unfold Request.isRefused at h
  simp [write, h]

theorem exchangeAll_append (front back : List Request) :
    (engine.exchangeAll (front ++ back) : Transaction ρ (List Reply)) = do
      let replies ← engine.exchangeAll front
      let more ← engine.exchangeAll back
      return replies ++ more := by
  induction front with
  | nil => simp [exchangeAll]
  | cons request rest ih => simp [exchangeAll, ih]

theorem exchangeAll_singleton (request : Request) :
    (engine.exchangeAll [request] : Transaction ρ (List Reply)) = do
      let reply ← engine.exchange request
      return [reply] := by
  simp [exchangeAll]

/-- Replies are put behind those of the requests before. -/
theorem foldlM_exchange (requests : List Request) (earlier : List Reply) :
    (requests.foldlM (fun replies request => do
        engine.write request
        let reply ← engine.read
        return replies ++ [reply]) earlier : Transaction ρ (List Reply)) = do
      let replies ← engine.exchangeAll requests
      return earlier ++ replies := by
  induction requests generalizing earlier with
  | nil => simp [exchangeAll]
  | cons request rest ih => simp [exchangeAll, exchange, ih, -bind_pure_comp]

section Append

variable {engine} {front back requests : List Request} {replies : List Reply}
  {bus next last : Bus ρ} {failure : Failure}

theorem on_append_of_ok (h : (engine.exchangeAll front).on bus = (.ok replies, next)) :
    (engine.exchangeAll (front ++ back)).on bus =
      (((engine.exchangeAll back).on next).1.map (replies ++ ·),
        ((engine.exchangeAll back).on next).2) := by
  rw [exchangeAll_append, on_bind_of_ok h, on_bind]
  rcases (engine.exchangeAll back).on next with ⟨_ | _, _⟩ <;> rfl

theorem on_append_of_error (h : (engine.exchangeAll front).on bus = (.error failure, next)) :
    (engine.exchangeAll (front ++ back)).on bus = (.error failure, next) := by
  rw [exchangeAll_append, on_bind_of_error h]

theorem made_append_of_ok (h : (engine.exchangeAll front).on bus = (.ok replies, next)) :
    made (engine.exchangeAll (front ++ back)) bus =
      made (engine.exchangeAll front) bus ++ made (engine.exchangeAll back) next := by
  have hback (replies : List Reply) :=
    (engine.keeps_exchangeAll (ρ := ρ) back).answer fun more => replies ++ more
  rw [exchangeAll_append, (engine.keeps_exchangeAll front).made_bind_of_ok hback h, made_answer]

theorem made_append_of_error (h : (engine.exchangeAll front).on bus = (.error failure, next)) :
    made (engine.exchangeAll (front ++ back)) bus = made (engine.exchangeAll front) bus := by
  rw [exchangeAll_append, (engine.keeps_exchangeAll front).made_bind_of_error h]

theorem length_eq_of_ok (h : (engine.exchangeAll requests).on bus = (.ok replies, last)) :
    replies.length = requests.length := by
  induction requests generalizing bus replies last with
  | nil =>
    obtain ⟨hreplies, -⟩ := Prod.mk.inj h
    rw [← Except.ok.inj hreplies]
    rfl
  | cons request rest ih =>
    obtain ⟨reply, _, -, hrest⟩ := exists_of_on_bind_ok h
    obtain ⟨more, _, hmore, hpure⟩ := exists_of_on_bind_ok hrest
    obtain ⟨hreplies, -⟩ := Prod.mk.inj hpure
    rw [← Except.ok.inj hreplies, List.length_cons, List.length_cons, ih hmore]

/-- A list that is answered is answered in its parts. -/
theorem exists_of_append_ok
    (h : (engine.exchangeAll (front ++ back)).on bus = (.ok replies, last)) :
    ∃ earlier later next, (engine.exchangeAll front).on bus = (.ok earlier, next) ∧
      (engine.exchangeAll back).on next = (.ok later, last) ∧ replies = earlier ++ later := by
  rw [exchangeAll_append] at h
  obtain ⟨earlier, next, hfront, hrest⟩ := exists_of_on_bind_ok h
  obtain ⟨later, _, hback, hpure⟩ := exists_of_on_bind_ok hrest
  obtain ⟨hreplies, rfl⟩ := Prod.mk.inj hpure
  exact ⟨earlier, later, next, hfront, hback, (Except.ok.inj hreplies).symm⟩

theorem exists_take_of_ok (h : (engine.exchangeAll requests).on bus = (.ok replies, last)) {i : Nat}
    (hi : i ≤ requests.length) :
    ∃ next, (engine.exchangeAll (requests.take i)).on bus = (.ok (replies.take i), next) := by
  rw [← List.take_append_drop i requests] at h
  obtain ⟨earlier, later, next, hfront, -, rfl⟩ := exists_of_append_ok h
  have hlength : earlier.length = i := by
    rw [length_eq_of_ok hfront, List.length_take_of_le hi]
  exact ⟨next, by rw [List.take_left' hlength, hfront]⟩

/-- Each reply is what the exchange of its own request gives, behind those before it. -/
theorem exists_reply_of_ok (h : (engine.exchangeAll requests).on bus = (.ok replies, last))
    {i : Nat} {request : Request} (hi : requests[i]? = some request) :
    ∃ reply before sent after, replies[i]? = some reply ∧
      (engine.exchangeAll (requests.take i)).on bus = (.ok (replies.take i), before) ∧
      (engine.write request).on before = (.ok (), sent) ∧
      engine.read.on sent = (.ok reply, after) ∧
      (engine.exchangeAll (requests.take (i + 1))).on bus =
        (.ok (replies.take (i + 1)), after) := by
  have hlt : i < requests.length := (List.getElem?_eq_some_iff.1 hi).1
  obtain ⟨before, hbefore⟩ := exists_take_of_ok h hlt.le
  obtain ⟨after, hafter⟩ := exists_take_of_ok h hlt
  have htake : requests.take (i + 1) = requests.take i ++ [request] := by
    rw [List.take_add_one, hi]
    rfl
  have hboth := hafter
  rw [htake] at hboth
  obtain ⟨earlier, later, next, hfront, hone, hreplies⟩ := exists_of_append_ok hboth
  rw [hbefore] at hfront
  obtain ⟨hearlier, rfl⟩ := Prod.mk.inj hfront
  obtain ⟨reply, answered, hexchange, hpure⟩ := exists_of_on_bind_ok hone
  obtain ⟨hlater, rfl⟩ := Prod.mk.inj hpure
  obtain ⟨_, sent, hwrite, hread⟩ := exists_of_on_bind_ok hexchange
  refine ⟨reply, before, sent, _, ?_, hbefore, hwrite, hread, hafter⟩
  rw [← Except.ok.inj hearlier, ← Except.ok.inj hlater, List.take_add_one] at hreplies
  have hlast := List.append_cancel_left hreplies
  cases hr : replies[i]? with
  | none => simp [hr] at hlast
  | some reply' => simpa [hr] using hlast

/-- A request fails on the bus with these accesses, as it is sent or as its reply is fetched. -/
inductive Breaks (engine : Engine) (request : Request) (bus : Bus ρ) :
    List Access → Failure → Bus ρ → Prop where
  | unsent {failure : Failure} {last : Bus ρ} :
      (engine.write request).on bus = (.error failure, last) →
      Breaks engine request bus (engine.accesses (.write request) bus) failure last
  | unanswered {sent last : Bus ρ} {failure : Failure} :
      (engine.write request).on bus = (.ok (), sent) →
      engine.read.on sent = (.error failure, last) →
      Breaks engine request bus (engine.accesses (.write request) bus ++ engine.accesses .read sent)
        failure last

theorem breaks_of_exchange {request : Request}
    (h : (engine.exchange request).on bus = (.error failure, last)) :
    engine.Breaks request bus (made (engine.exchange request) bus) failure last := by
  rcases on_bind_error_cases h with hwrite | ⟨_, sent, hwrite, hread⟩
  · rw [exchange, (engine.keeps_write request).made_bind_of_error hwrite, ← accesses_write]
    exact .unsent hwrite
  · rw [exchange, (engine.keeps_write request).made_bind_of_ok (fun _ => engine.keeps_read) hwrite,
      ← accesses_write, ← accesses_read]
    exact .unanswered hwrite hread

/-- A list that fails does so at one of its requests, with those before it answered. -/
theorem exists_breaks_of_error
    (h : (engine.exchangeAll requests).on bus = (.error failure, last)) :
    ∃ i request replies before own, requests[i]? = some request ∧
      (engine.exchangeAll (requests.take i)).on bus = (.ok replies, before) ∧
      engine.Breaks request before own failure last ∧
      made (engine.exchangeAll requests) bus =
        made (engine.exchangeAll (requests.take i)) bus ++ own := by
  induction requests generalizing bus with
  | nil => cases h
  | cons request rest ih =>
    rw [← List.singleton_append] at h ⊢
    rcases hfirst : (engine.exchangeAll [request]).on bus with ⟨cause | first, next⟩
    · rw [on_append_of_error hfirst] at h
      obtain ⟨hcause, rfl⟩ := Prod.mk.inj h
      obtain rfl := Except.error.inj hcause
      rw [made_append_of_error hfirst]
      rw [exchangeAll_singleton] at hfirst ⊢
      rcases on_bind_error_cases hfirst with hexchange | ⟨_, _, -, hpure⟩
      · refine ⟨0, request, [], bus, _, rfl, rfl, breaks_of_exchange hexchange, ?_⟩
        exact made_answer _ _ bus
      · cases hpure
    · rw [on_append_of_ok hfirst] at h
      rcases hlater : (engine.exchangeAll rest).on next with ⟨cause | later, ended⟩
      · rw [hlater] at h
        obtain ⟨hcause, rfl⟩ := Prod.mk.inj h
        obtain rfl := Except.error.inj hcause
        obtain ⟨i, failing, replies, before, own, hi, hbefore, hbreaks, hmade⟩ := ih hlater
        have htake : ([request] ++ rest).take (i + 1) = [request] ++ rest.take i := rfl
        refine ⟨i + 1, failing, first ++ replies, before, own, hi, ?_, hbreaks, ?_⟩
        · rw [htake, on_append_of_ok hfirst, hbefore]
          rfl
        · rw [htake, made_append_of_ok hfirst, made_append_of_ok hfirst, hmade, List.append_assoc]
      · rw [hlater] at h
        cases h

/-- No register is touched for a request that is refused. -/
theorem Breaks.of_isRefused {request : Request} {own : List Access}
    (h : engine.Breaks request bus own failure last) (hr : request.isRefused = true) :
    own = [] ∧ failure = .error (.reservedTransactionId (transactionId request.command)) ∧
      last = bus := by
  cases h with
  | unsent hfail =>
    rw [engine.write_of_isRefused hr] at hfail
    cases hfail
    rw [accesses_write, engine.write_of_isRefused hr]
    exact ⟨rfl, rfl, rfl⟩
  | unanswered hsent =>
    rw [engine.write_of_isRefused hr] at hsent
    cases hsent

theorem Breaks.arisesOnBus {request : Request} {own : List Access}
    (h : engine.Breaks request bus own failure last) (hr : request.isRefused = false) :
    failure.arisesOnBus = true := by
  cases h with
  | unsent hfail =>
    have hruns := engine.runs_accesses (.write request) bus
    have hon : ((engine.perform (.write request)).on bus).1 = .error failure := by
      rw [perform, on_bind_of_error hfail]
    rw [hon] at hruns
    exact hruns.arisesOnBus (Request.isRefusal_eq hr)
  | @unanswered sent _ _ _ hfail =>
    have hruns := engine.runs_accesses .read sent
    have hon : ((engine.perform .read).on sent).1 = .error failure := by
      rw [perform, on_bind_of_error hfail]
    rw [hon] at hruns
    exact hruns.arisesOnBus (by decide)

end Append

/--
To exchange a list of requests is to write each one and fetch its reply, one after the other. To
exchange one list behind another makes the accesses of the first and, unless that failed, those of
the second on the bus that the first left, and gives the replies of both or the first error. On
success there is one reply to each request, the one fetched behind its own write once all before it
were answered. On a failure all requests before the failing one were answered, with all their
accesses made; the last accesses are those of the failing request up to the write or the fetch that
failed; and there are none for it if its transaction id is reserved.
-/
theorem exchangeAll_in_turn (bus : Bus ρ) (requests : List Request) :
    (engine.exchangeAll requests : Transaction ρ (List Reply)) =
      requests.foldlM (fun replies request => do
        engine.write request
        let reply ← engine.read
        return replies ++ [reply]) [] ∧
    (∀ back, match (engine.exchangeAll requests).on bus with
      | (.ok replies, next) =>
        (engine.exchangeAll (requests ++ back)).on bus =
          (((engine.exchangeAll back).on next).1.map (replies ++ ·),
            ((engine.exchangeAll back).on next).2) ∧
        engine.accesses (.exchangeAll (requests ++ back)) bus =
          engine.accesses (.exchangeAll requests) bus ++ engine.accesses (.exchangeAll back) next
      | (.error failure, next) =>
        (engine.exchangeAll (requests ++ back)).on bus = (.error failure, next) ∧
        engine.accesses (.exchangeAll (requests ++ back)) bus =
          engine.accesses (.exchangeAll requests) bus) ∧
    (∀ replies last, (engine.exchangeAll requests).on bus = (.ok replies, last) →
      replies.length = requests.length ∧
      ∀ i request, requests[i]? = some request → ∃ reply before sent after,
        replies[i]? = some reply ∧
        (engine.exchangeAll (requests.take i)).on bus = (.ok (replies.take i), before) ∧
        (engine.write request).on before = (.ok (), sent) ∧
        engine.read.on sent = (.ok reply, after) ∧
        (engine.exchangeAll (requests.take (i + 1))).on bus =
          (.ok (replies.take (i + 1)), after)) ∧
    ∀ failure last, (engine.exchangeAll requests).on bus = (.error failure, last) →
      ∃ i request replies before own, requests[i]? = some request ∧
        (engine.exchangeAll (requests.take i)).on bus = (.ok replies, before) ∧
        Runs engine.offset ((requests.take i).flatMap Request.exchangeSteps)
          (engine.accesses (.exchangeAll (requests.take i)) bus) none ∧
        engine.Breaks request before own failure last ∧
        engine.accesses (.exchangeAll requests) bus =
          engine.accesses (.exchangeAll (requests.take i)) bus ++ own ∧
        (request.isRefused = true →
          own = [] ∧ failure = .error (.reservedTransactionId (transactionId request.command)) ∧
            last = before) ∧
        (request.isRefused = false → failure.arisesOnBus = true) := by
  refine ⟨?_, ?_, ?_, ?_⟩
  · rw [foldlM_exchange]
    simp
  · intro back
    simp only [accesses_exchangeAll]
    rcases hfront : (engine.exchangeAll requests).on bus with ⟨failure | replies, next⟩
    · exact ⟨on_append_of_error hfront, made_append_of_error hfront⟩
    · exact ⟨on_append_of_ok hfront, made_append_of_ok hfront⟩
  · intro replies last hok
    exact ⟨length_eq_of_ok hok, fun i request hi => exists_reply_of_ok hok hi⟩
  · intro failure last hfail
    obtain ⟨i, request, replies, before, own, hi, hbefore, hbreaks, hmade⟩ :=
      exists_breaks_of_error hfail
    have hruns := engine.runs_accesses (.exchangeAll (requests.take i)) bus
    have hon : ((engine.perform (.exchangeAll (requests.take i))).on bus).1 =
        .ok (.replies replies) := by
      rw [perform, on_bind_of_ok hbefore]
      rfl
    rw [hon] at hruns
    refine ⟨i, request, replies, before, own, hi, hbefore, hruns, hbreaks, ?_,
      hbreaks.of_isRefused, hbreaks.arisesOnBus⟩
    rw [accesses_exchangeAll, accesses_exchangeAll]
    exact hmade

end Engine

end Sca

end Readout
