import Readout.Proofs.Sca.Writes

/-!
Over whole runs of operations a strobe follows the two writes of its request, goes back to idle at
once, and no other comes before the block was seen idle again.
-/

namespace Readout.Sca

open Register

theorem append_eq_append_cons {α : Type} {first second before after : List α} {a : α}
    (h : first ++ second = before ++ a :: after) :
    (∃ rest, first = before ++ a :: rest ∧ after = rest ++ second) ∨
      ∃ front, before = first ++ front ∧ second = front ++ a :: after := by
  rcases List.append_eq_append_iff.1 h with ⟨front, hbefore, hsecond⟩ | ⟨rest, hfirst, hrest⟩
  · exact .inr ⟨front, hbefore, hsecond⟩
  · cases rest with
    | nil => exact .inr ⟨[], by simpa using hfirst.symm, hrest.symm⟩
    | cons b rest =>
      obtain ⟨rfl, hafter⟩ := List.cons.inj hrest
      exact .inl ⟨rest, hfirst, hafter⟩

theorem append_cons_eq_singleton {α : Type} {before after : List α} {a b : α}
    (h : before ++ a :: after = [b]) : before = [] ∧ a = b ∧ after = [] := by
  cases before with
  | nil => simpa using h
  | cons _ before => simp at h

/-- An element of joined lists lies in one of them. -/
theorem exists_of_flatMap_eq {α β : Type} {f : α → List β} {l : List α} {before after : List β}
    {b : β} (h : l.flatMap f = before ++ b :: after) :
    ∃ a ∈ l, ∃ earlier front back later, f a = front ++ b :: back ∧ before = earlier ++ front ∧
      after = back ++ later := by
  induction l generalizing before with
  | nil => simp at h
  | cons a l ih =>
    rw [List.flatMap_cons] at h
    rcases append_eq_append_cons h with ⟨rest, ha, hafter⟩ | ⟨front, hbefore, hl⟩
    · exact ⟨a, List.mem_cons_self, [], before, rest, l.flatMap f, ha, rfl, hafter⟩
    · obtain ⟨a', hmem, earlier, front', back, later, ha', rfl, hafter⟩ := ih hl
      refine ⟨a', List.mem_cons_of_mem _ hmem, f a ++ earlier, front', back, later, ha', ?_, hafter⟩
      rw [hbefore, List.append_assoc]

/-! ## Strobes among the steps -/

/--
A strobe among these steps belongs to one of the requests: the request is loaded right before it,
and the block is set back to idle and waited for right behind it. No command among them has a
reserved transaction id.
-/
structure Orderly (requests : List Request) (steps : List Step) : Prop where
  strobe : ∀ before after, steps = before ++ .store control execute :: after →
    ∃ request ∈ requests, ∃ front rest,
      before = front ++ [.store writeData request.data, .store writeCommand request.command] ∧
      after = .store control idle :: .awaitIdle :: rest
  command : ∀ value, .store writeCommand value ∈ steps → isReserved (transactionId value) = false

section Orderly

variable {requests more : List Request} {steps rest : List Step} {request : Request}

/-- Steps that store neither commands nor strobes. -/
theorem Orderly.of_notMem (hs : .store control execute ∉ steps)
    (hc : ∀ step ∈ steps, ∀ value, step ≠ .store writeCommand value) : Orderly requests steps where
  strobe before after hsteps := by simp [hsteps] at hs
  command value hmem := absurd rfl (hc _ hmem value)

theorem Orderly.mono (h : Orderly requests steps) (hr : requests ⊆ more) :
    Orderly more steps where
  strobe before after hsteps := by
    obtain ⟨request, hmem, hrequest⟩ := h.strobe before after hsteps
    exact ⟨request, hr hmem, hrequest⟩
  command := h.command

theorem Orderly.append (h : Orderly requests steps) (hr : Orderly requests rest) :
    Orderly requests (steps ++ rest) where
  strobe before after hsteps := by
    rcases append_eq_append_cons hsteps with ⟨behind, hsplit, rfl⟩ | ⟨front, rfl, hsplit⟩
    · obtain ⟨request, hmem, front, tail, hbefore, rfl⟩ := h.strobe _ _ hsplit
      exact ⟨request, hmem, front, tail ++ rest, hbefore, rfl⟩
    · obtain ⟨request, hmem, front', tail, rfl, hafter⟩ := hr.strobe _ _ hsplit
      exact ⟨request, hmem, steps ++ front', tail, by rw [List.append_assoc], hafter⟩
  command value hmem := (List.mem_append.1 hmem).elim (h.command value) (hr.command value)

theorem orderly_fetchReply : Orderly requests [.fetchReply] :=
  .of_notMem (by decide) (by simp)

theorem orderly_steps (h : request ∈ requests) : Orderly requests request.steps := by
  unfold Request.steps
  split
  · exact .of_notMem (by simp) (by simp)
  next haccepted =>
    refine ⟨fun before after hsteps => ⟨request, h, [], [], ?_⟩, fun value hmem => ?_⟩
    · rcases before with _ | ⟨first, _ | ⟨second, _ | ⟨third, _ | ⟨fourth, _ | ⟨fifth, before⟩⟩⟩⟩⟩
      all_goals simp_all [control, writeData, writeCommand, execute, idle]
    · obtain rfl : value = request.command := by
        simpa [control, writeData, writeCommand] using hmem
      simpa using haccepted

theorem orderly_exchangeSteps (h : request ∈ requests) :
    Orderly requests request.exchangeSteps :=
  (orderly_steps h).append orderly_fetchReply

theorem orderly_resetPlan : Orderly requests resetPlan :=
  .of_notMem (by decide) (by simp [resetPlan, resetSteps, control, writeCommand])

theorem orderly_enablePlan (h : Gpio.enabling ⊆ requests) : Orderly requests enablePlan :=
  (orderly_exchangeSteps (h (by decide))).append ((orderly_exchangeSteps (h (by decide))).append
    ((orderly_steps (h (by decide))).append (orderly_exchangeSteps (h (by decide)))))

theorem orderly_exchanges (h : requests ⊆ more) :
    Orderly more (requests.flatMap Request.exchangeSteps) := by
  induction requests with
  | nil => exact .of_notMem (by simp) (by simp)
  | cons request rest ih =>
    obtain ⟨hmem, hrest⟩ := List.cons_subset.1 h
    exact (orderly_exchangeSteps hmem).append (ih hrest)

theorem Operation.orderly (operation : Operation) :
    Orderly operation.requests operation.steps := by
  cases operation with
  | bringUp => exact orderly_resetPlan.append (orderly_enablePlan (List.Subset.refl _))
  | write request => exact orderly_steps List.mem_cons_self
  | read => exact orderly_fetchReply
  | readTime => exact .of_notMem (by decide) (by simp [Operation.steps])
  | exchangeAll requests => exact orderly_exchanges (List.Subset.refl _)
  | writeGpio data =>
    have hsend : ∀ request ∈ [⟨Gpio.writeOut, data⟩, ⟨Gpio.readOut, 0⟩, ⟨Gpio.readDataIn, 0⟩],
        request ∈ (Operation.writeGpio data).requests :=
      fun _ => List.mem_append_right _
    exact (orderly_resetPlan.append (orderly_enablePlan (List.subset_append_left _ _))).append
      ((orderly_steps (hsend _ (by simp))).append
        ((orderly_exchangeSteps (hsend _ (by simp))).append
          (orderly_exchangeSteps (hsend _ (by simp)))))
  | readGpio => exact orderly_exchangeSteps List.mem_cons_self

end Orderly

/-! ## Strobes among the accesses -/

section Runs

variable {offset index : Nat} {value : UInt32} {isDone : UInt32 → Bool} {late : ScaError}
  {answer : Except RegisterError Unit} {step : Step} {steps : List Step}
  {before after accesses : List Access} {outcome : Option Failure}

theorem writesIn_split_ne_nil : writesIn (before ++ .write index value answer :: after) ≠ [] := by
  rw [writesIn_append]
  exact List.append_ne_nil_of_right_ne_nil _ (List.cons_ne_nil _ _)

/-- A write is made by a step that stores, and is all that this step does. -/
theorem Step.Makes.store_of_write
    (h : step.Makes offset (before ++ .write index value answer :: after) outcome) :
    ∃ register, step = .store register value ∧ index = offset + register ∧ before = [] ∧
      after = [] ∧ (answer = .ok () ∧ outcome = none ∨
        ∃ error, answer = .error error ∧ outcome = some (.error (.register error))) := by
  generalize hall : before ++ .write index value answer :: after = all at h
  cases h with
  | stored =>
    obtain ⟨rfl, hw, rfl⟩ := append_cons_eq_singleton hall
    obtain ⟨rfl, rfl, rfl⟩ := Access.write.inj hw
    exact ⟨_, rfl, rfl, rfl, rfl, .inl ⟨rfl, rfl⟩⟩
  | unstored =>
    obtain ⟨rfl, hw, rfl⟩ := append_cons_eq_singleton hall
    obtain ⟨rfl, rfl, rfl⟩ := Access.write.inj hw
    exact ⟨_, rfl, rfl, rfl, rfl, .inr ⟨_, rfl, rfl⟩⟩
  | awaited hwaits => exact absurd (hall ▸ hwaits.writesIn_eq) writesIn_split_ne_nil
  | fetched hfetches => exact absurd (hall ▸ hfetches.writesIn_eq) writesIn_split_ne_nil
  | timed | untimed => simpa using (append_cons_eq_singleton hall).2.1
  | refused => simp at hall

/--
The steps before the one that makes a write are done by then, and those behind it go on from it,
unless the write failed.
-/
theorem Runs.exists_store (h : Runs offset steps (before ++ .write index value answer :: after)
      outcome) :
    ∃ finished register rest, steps = finished ++ .store register value :: rest ∧
      index = offset + register ∧ Runs offset finished before none ∧
      (answer = .ok () ∧ Runs offset rest after outcome ∨
        (∃ error, answer = .error error) ∧ after = []) := by
  generalize hall : before ++ .write index value answer :: after = all at h
  induction h generalizing before with
  | done => simp at hall
  | @step step steps accesses more outcome hstep hmore ih =>
    rcases append_eq_append_cons hall.symm with ⟨rest, rfl, rfl⟩ | ⟨front, rfl, hrest⟩
    · obtain ⟨register, rfl, hindex, rfl, rfl, ⟨hok, -⟩ | ⟨_, -, hno⟩⟩ := hstep.store_of_write
      · exact ⟨[], register, steps, rfl, hindex, .done, .inl ⟨hok, hmore⟩⟩
      · simp at hno
    · obtain ⟨finished, register, rest, rfl, hindex, hruns, hafter⟩ := ih hrest.symm
      exact ⟨step :: finished, register, rest, rfl, hindex, .step hstep hruns, hafter⟩
  | @fail step steps accesses error hstep =>
    subst hall
    obtain ⟨register, rfl, hindex, rfl, rfl, ⟨-, hno⟩ | ⟨error', herror, -⟩⟩ := hstep.store_of_write
    · simp at hno
    · exact ⟨[], register, steps, rfl, hindex, .done, .inr ⟨⟨error', herror⟩, rfl⟩⟩

theorem Runs.of_single (h : Runs offset [step] accesses none) :
    step.Makes offset accesses none := by
  cases h with
  | step hstep hrest =>
    cases hrest
    rwa [List.append_nil]

/-- Two stores that are done were both answered. -/
theorem Runs.stores_eq {first second : Nat} {value value' : UInt32}
    (h : Runs offset [.store first value, .store second value'] accesses none) :
    accesses =
      [.write (offset + first) value (.ok ()), .write (offset + second) value' (.ok ())] := by
  cases h with
  | step hfirst hrest =>
    cases hfirst
    cases hrest.of_single
    rfl

/-- The access of a store is the next one. -/
theorem Runs.store_cases {register : Nat}
    (h : Runs offset (.store register value :: steps) accesses outcome) :
    (∃ rest, accesses = .write (offset + register) value (.ok ()) :: rest ∧
      Runs offset steps rest outcome) ∨
    ∃ error, accesses = [.write (offset + register) value (.error error)] := by
  cases h with
  | step hstep hrest =>
    cases hstep
    exact .inl ⟨_, rfl, hrest⟩
  | fail hstep =>
    cases hstep
    exact .inr ⟨_, rfl⟩

/-- A wait that has an answer ends with the read of a word that is waited for. -/
theorem Waits.exists_seen (h : Waits index isDone late accesses none) :
    ∃ front word, accesses = front ++ [.read index (.ok word)] ∧ isDone word = true := by
  obtain ⟨hlooks⟩ := h
  generalize ho : none = outcome at hlooks
  induction hlooks with
  | seen hdone => exact ⟨[], _, rfl, hdone⟩
  | failed => simp at ho
  | late => simp at ho
  | again _ _ ih =>
    obtain ⟨front, word, rfl, hdone⟩ := ih ho
    exact ⟨_ :: front, word, rfl, hdone⟩

/-- No register is written behind a wait before the block was seen idle. -/
theorem Runs.exists_seen_idle
    (h : Runs offset (.awaitIdle :: steps) (before ++ .write index value answer :: after) outcome) :
    ∃ looks word rest, before = looks ++ .read (offset + readBusy) (.ok word) :: rest ∧
      testBit word busyBit = false := by
  generalize hall : before ++ .write index value answer :: after = all at h
  cases h with
  | @step _ _ waited more _ hstep hmore =>
    rcases append_eq_append_cons hall.symm with ⟨rest, rfl, rfl⟩ | ⟨front, rfl, hrest⟩
    · obtain ⟨register, hstore, -⟩ := hstep.store_of_write
      simp at hstore
    · cases hstep with
      | awaited hwaits =>
        obtain ⟨looks, word, rfl, hdone⟩ := hwaits.exists_seen
        exact ⟨looks, word, front, by simp, by simpa using hdone⟩
  | fail hstep =>
    subst hall
    obtain ⟨register, hstore, -⟩ := hstep.store_of_write
    simp at hstore

variable {requests : List Request}

/-- A strobe is made for a request that was loaded, and what follows it sets the block to idle. -/
theorem Orderly.strobed (ho : Orderly requests steps)
    (h : Runs offset steps (before ++ .write (offset + control) execute answer :: after) outcome) :
    (∃ request ∈ requests, ∃ front, before = front ++
      [.write (offset + writeData) request.data (.ok ()),
        .write (offset + writeCommand) request.command (.ok ())]) ∧
    (answer = .ok () ∧
        (∃ rest, Runs offset (.store control idle :: .awaitIdle :: rest) after outcome) ∨
      (∃ error, answer = .error error) ∧ after = []) := by
  obtain ⟨finished, register, rest, rfl, hindex, hfinished, hafter⟩ := h.exists_store
  obtain rfl : control = register := Nat.add_left_cancel hindex
  obtain ⟨request, hmem, front, tail, rfl, rfl⟩ := ho.strobe _ _ rfl
  refine ⟨⟨request, hmem, ?_⟩, hafter.imp_left fun hok => ⟨hok.1, tail, hok.2⟩⟩
  rcases hfinished.append_cases with ⟨error, hno, -⟩ | ⟨first, loads, rfl, -, hloads⟩
  · simp at hno
  · exact ⟨first, by rw [hloads.stores_eq]⟩

/-- A strobe that was answered is followed by the write of idle. -/
theorem Orderly.idle_next (ho : Orderly requests steps)
    (h : Runs offset steps (before ++ .write (offset + control) execute (.ok ()) :: after)
      outcome) : ∃ idled rest, after = .write (offset + control) idle idled :: rest := by
  rcases (ho.strobed h).2 with ⟨-, rest, hrest⟩ | ⟨⟨_, hno⟩, -⟩
  · rcases hrest.store_cases with ⟨more, rfl, -⟩ | ⟨error, rfl⟩
    · exact ⟨_, _, rfl⟩
    · exact ⟨_, _, rfl⟩
  · simp at hno

/-- Before the next strobe the block is set to idle and read as idle. -/
theorem Orderly.idle_between {between : List Access} {first second : Except RegisterError Unit}
    (ho : Orderly requests steps)
    (h : Runs offset steps (before ++ .write (offset + control) execute first ::
      (between ++ .write (offset + control) execute second :: after)) outcome) :
    ∃ looks word rest, between = .write (offset + control) idle (.ok ()) ::
        (looks ++ .read (offset + readBusy) (.ok word) :: rest) ∧
      testBit word busyBit = false := by
  have hne : execute ≠ idle := by decide
  rcases (ho.strobed h).2 with ⟨-, rest, hrest⟩ | ⟨-, hno⟩
  · rcases hrest.store_cases with ⟨more, hmore, hruns⟩ | ⟨error, hlast⟩
    · cases between with
      | nil => exact absurd (Access.write.inj (List.cons.inj hmore).1).2.1 hne
      | cons access between =>
        obtain ⟨rfl, rfl⟩ := List.cons.inj hmore
        obtain ⟨looks, word, seen, rfl, hword⟩ := hruns.exists_seen_idle
        exact ⟨looks, word, seen, rfl, hword⟩
    · exact absurd (Access.write.inj (append_cons_eq_singleton hlast).2.1).2.1 hne
  · simp at hno

end Runs

/-! ## Runs of operations -/

/-- An operation that was performed, with what came of it and the accesses that it made. -/
structure Deed where
  operation : Operation
  result : Except Failure Answer
  accesses : List Access

section Deeds

variable {ρ : Type} [RegisterPort ρ]

/-- Operations performed one after the other, whether or not those before them failed. -/
def Engine.deeds (engine : Engine) : List Operation → Bus ρ → List Deed
  | [], _ => []
  | operation :: rest, bus =>
    ⟨operation, ((engine.perform operation).on bus).1, engine.accesses operation bus⟩ ::
      engine.deeds rest ((engine.perform operation).on bus).2

variable {engine : Engine} {operations : List Operation} {bus : Bus ρ} {deed : Deed}

theorem Engine.runs_of_mem_deeds (h : deed ∈ engine.deeds operations bus) :
    deed.operation ∈ operations ∧
      Runs engine.offset deed.operation.steps deed.accesses (failure? deed.result) := by
  induction operations generalizing bus with
  | nil => simp [Engine.deeds] at h
  | cons operation rest ih =>
    rcases List.mem_cons.1 h with rfl | hrest
    · exact ⟨List.mem_cons_self, engine.runs_accesses operation bus⟩
    · exact ⟨List.mem_cons_of_mem _ (ih hrest).1, (ih hrest).2⟩

/-- Operations that all returned an answer make the accesses of all their steps. -/
theorem runs_flatMap {offset : Nat} {deeds : List Deed}
    (hruns : ∀ deed ∈ deeds,
      Runs offset deed.operation.steps deed.accesses (failure? deed.result))
    (hok : ∀ deed ∈ deeds, ∃ answer, deed.result = .ok answer) :
    Runs offset (deeds.flatMap fun deed => deed.operation.steps) (deeds.flatMap Deed.accesses)
      none := by
  induction deeds with
  | nil => exact .done
  | cons deed rest ih =>
    obtain ⟨answer, hanswer⟩ := hok deed List.mem_cons_self
    have hdeed := hruns deed List.mem_cons_self
    rw [hanswer] at hdeed
    exact hdeed.append (ih (fun _ hmem => hruns _ (List.mem_cons_of_mem _ hmem))
      fun _ hmem => hok _ (List.mem_cons_of_mem _ hmem))

theorem flatMap_steps_orderly (deeds : List Deed) :
    Orderly (deeds.flatMap fun deed => deed.operation.requests)
      (deeds.flatMap fun deed => deed.operation.steps) := by
  induction deeds with
  | nil => exact .of_notMem (by simp) (by simp)
  | cons deed rest ih =>
    exact (deed.operation.orderly.mono (List.subset_append_left _ _)).append
      (ih.mono (List.subset_append_right _ _))

theorem not_isReserved_iff {command : UInt32} :
    isReserved (transactionId command) = false ↔
      command.toNat / 0x10000 % 0x100 ≠ 0x00 ∧ command.toNat / 0x10000 % 0x100 ≠ 0xff := by
  have hid : (transactionId command).toNat = command.toNat / 0x10000 % 0x100 := by
    simp [transactionId, UInt32.toNat_shiftRight, Nat.shiftRight_eq_div_pow]
  simp [isReserved, ← UInt8.toNat_inj, hid]

theorem lt_of_testBit_busyBit {word : UInt32} (h : testBit word busyBit = false) :
    word.toNat < 0x80000000 := by
  have hbit : word.toNat / 0x80000000 % 2 ≠ 1 := by
    intro hset
    have hone : (word >>> 31) &&& 1 = 1 := by
      rw [← UInt32.toNat_inj]
      simpa [UInt32.toNat_shiftRight, Nat.shiftRight_eq_div_pow, Nat.and_one_is_mod] using hset
    simp [testBit, busyBit, hone] at h
  have := word.toNat_lt
  omega

/--
Whatever operations are performed on whatever port: no command with a reserved transaction id is
written; a strobe follows the two writes of its request, both answered, and once it is answered
itself the next access is the write of idle; and between two strobes of operations that all returned
an answer, the last one possibly excepted, the first goes back to idle and the block is then read as
idle.
-/
theorem Engine.strobes_of_deeds (engine : Engine) (operations : List Operation) (bus : Bus ρ) :
    (∀ value answer, .write (engine.offset + writeCommand) value answer ∈
        (engine.deeds operations bus).flatMap Deed.accesses →
      value.toNat / 0x10000 % 0x100 ≠ 0x00 ∧ value.toNat / 0x10000 % 0x100 ≠ 0xff) ∧
    (∀ before answer after, (engine.deeds operations bus).flatMap Deed.accesses =
        before ++ .write (engine.offset + control) 4 answer :: after →
      (∃ request ∈ operations.flatMap Operation.requests, ∃ front, before = front ++
        [.write (engine.offset + writeData) request.data (.ok ()),
          .write (engine.offset + writeCommand) request.command (.ok ())]) ∧
      (answer = .ok () →
        ∃ idled rest, after = .write (engine.offset + control) 0 idled :: rest)) ∧
    ∀ earlier course last later before first between second after,
      engine.deeds operations bus = earlier ++ course ++ last :: later →
      (∀ deed ∈ course, ∃ answer, deed.result = .ok answer) →
      (course ++ [last]).flatMap Deed.accesses =
        before ++ .write (engine.offset + control) 4 first ::
          (between ++ .write (engine.offset + control) 4 second :: after) →
      ∃ looks word rest, between = .write (engine.offset + control) 0 (.ok ()) ::
          (looks ++ .read (engine.offset + readBusy) (.ok word) :: rest) ∧
        word.toNat < 0x80000000 := by
  refine ⟨?_, ?_, ?_⟩
  · intro value answer hmem
    obtain ⟨deed, hdeed, hmem⟩ := List.mem_flatMap.1 hmem
    obtain ⟨before, after, hsplit⟩ := List.append_of_mem hmem
    have hruns := (engine.runs_of_mem_deeds hdeed).2
    rw [hsplit] at hruns
    obtain ⟨finished, register, rest, hsteps, hindex, -⟩ := hruns.exists_store
    obtain rfl : writeCommand = register := Nat.add_left_cancel hindex
    have hstore : .store writeCommand value ∈ deed.operation.steps := by simp [hsteps]
    exact not_isReserved_iff.1 (deed.operation.orderly.command value hstore)
  · intro before answer after hsplit
    obtain ⟨deed, hdeed, earlier, front, back, later, haccesses, rfl, rfl⟩ :=
      exists_of_flatMap_eq hsplit
    obtain ⟨hoperation, hruns⟩ := engine.runs_of_mem_deeds hdeed
    rw [haccesses] at hruns
    refine ⟨?_, ?_⟩
    · obtain ⟨request, hrequest, loaded, rfl⟩ := (deed.operation.orderly.strobed hruns).1
      refine ⟨request, List.mem_flatMap.2 ⟨_, hoperation, hrequest⟩, earlier ++ loaded, ?_⟩
      rw [List.append_assoc]
    · rintro rfl
      obtain ⟨idled, rest, rfl⟩ := deed.operation.orderly.idle_next hruns
      exact ⟨idled, rest ++ later, rfl⟩
  · intro earlier course last later before first between second after hdeeds hok hsplit
    have hruns (deed : Deed) (hmem : deed ∈ course ++ [last]) :
        Runs engine.offset deed.operation.steps deed.accesses (failure? deed.result) := by
      have hall : deed ∈ engine.deeds operations bus := by
        rw [hdeeds]
        rcases List.mem_append.1 hmem with hcourse | hlast
        · simp [hcourse]
        · simp [List.mem_singleton.1 hlast]
      exact (engine.runs_of_mem_deeds hall).2
    have hcourse := runs_flatMap (fun deed hmem => hruns deed (List.mem_append_left _ hmem)) hok
    have hall := hcourse.append (hruns last (by simp))
    have horderly := flatMap_steps_orderly (course ++ [last])
    simp only [List.flatMap_append, List.flatMap_singleton] at horderly hsplit
    rw [hsplit] at hall
    obtain ⟨looks, word, rest, hbetween, hword⟩ := horderly.idle_between hall
    exact ⟨looks, word, rest, hbetween, lt_of_testBit_busyBit hword⟩

end Deeds

end Readout.Sca
