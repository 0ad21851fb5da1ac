import Mathlib.Data.List.TakeWhile
import Readout.Proofs.Sca.Followed

/-!
The registers that an operation writes are fixed by its arguments and by where the block lies; what
the port and the clock answer decides only how far down that list the operation comes.
-/

namespace Readout.Sca

open Register

/-! ## The list of writes -/

def Request.isRefused (request : Request) : Bool := isReserved (transactionId request.command)

/-- What a request that is not refused writes, registers counted from where the block begins. -/
def Request.writes (request : Request) : List (Nat × UInt32) :=
  [(writeData, request.data), (writeCommand, request.command), (control, 4), (control, 0)]

/-- The requests that switch the general-purpose lines on. -/
def Gpio.enabling : List Request :=
  [⟨writeControlB, enableMask⟩, ⟨readControlB, enableMask⟩, ⟨writeDirection, allOutputs⟩,
    ⟨readDirection, 0⟩]

namespace Operation

/-- The requests that the operation is to send, one after the other. -/
def requests : Operation → List Request
  | .bringUp => Gpio.enabling
  | .write request => [request]
  | .read => []
  | .readTime => []
  | .exchangeAll requests => requests
  | .writeGpio data =>
    Gpio.enabling ++ [⟨Gpio.writeOut, data⟩, ⟨Gpio.readOut, 0⟩, ⟨Gpio.readDataIn, 0⟩]
  | .readGpio => [⟨Gpio.readOut, 0⟩]

/-- What the operation writes before its first request. -/
def resetWrites : Operation → List (Nat × UInt32)
  | .bringUp | .writeGpio _ => [(control, 1), (control, 2), (control, 1), (control, 0)]
  | _ => []

/-- A request that is refused writes nothing and is the last one. -/
def writes (operation : Operation) : List (Nat × UInt32) :=
  operation.resetWrites ++
    (operation.requests.takeWhile fun request => !request.isRefused).flatMap Request.writes

/-- The writes of the operation in the registers of a block that begins at `offset`. -/
def writesAt (offset : Nat) (operation : Operation) : List (Nat × UInt32) :=
  operation.writes.map fun (register, value) => (offset + register, value)

end Operation

/-! ## The writes of the steps -/

def Step.writes : Step → List (Nat × UInt32)
  | .store register value => [(register, value)]
  | _ => []

/-- What the steps write, up to one that refuses its request. -/
def plannedWrites : List Step → List (Nat × UInt32)
  | [] => []
  | .refuse _ :: _ => []
  | step :: steps => step.writes ++ plannedWrites steps

def Step.isRefusal : Step → Bool
  | .refuse _ => true
  | _ => false

theorem plannedWrites_cons {step : Step} (h : step.isRefusal = false) (steps : List Step) :
    plannedWrites (step :: steps) = step.writes ++ plannedWrites steps := by
  cases step with
  | refuse => simp [Step.isRefusal] at h
  | _ => rfl

theorem plannedWrites_append {steps : List Step} (h : ∀ step ∈ steps, step.isRefusal = false)
    (more : List Step) :
    plannedWrites (steps ++ more) = plannedWrites steps ++ plannedWrites more := by
  induction steps with
  | nil => rfl
  | cons step steps ih =>
    obtain ⟨hstep, hsteps⟩ := List.forall_mem_cons.1 h
    rw [List.cons_append, plannedWrites_cons hstep, plannedWrites_cons hstep, ih hsteps,
      List.append_assoc]

theorem plannedWrites_request (request : Request) (steps : List Step) :
    plannedWrites (request.steps ++ steps) =
      if request.isRefused then [] else request.writes ++ plannedWrites steps := by
  unfold Request.steps Request.isRefused
  split <;> rfl

theorem plannedWrites_exchange (request : Request) (steps : List Step) :
    plannedWrites (request.exchangeSteps ++ steps) =
      if request.isRefused then [] else request.writes ++ plannedWrites steps := by
  rw [Request.exchangeSteps, List.append_assoc, plannedWrites_request]
  rfl

theorem plannedWrites_exchanges (requests : List Request) :
    plannedWrites (requests.flatMap Request.exchangeSteps) =
      (requests.takeWhile fun request => !request.isRefused).flatMap Request.writes := by
  induction requests with
  | nil => rfl
  | cons request rest ih =>
    rw [List.flatMap_cons, plannedWrites_exchange, ih, List.takeWhile_cons]
    cases request.isRefused <;> rfl

/-- What an operation writes is what its steps write. -/
theorem plannedWrites_steps (operation : Operation) :
    plannedWrites operation.steps = operation.writes := by
  cases operation with
  | bringUp => decide
  | write request =>
    have := plannedWrites_request request []
    rw [List.append_nil] at this
    rw [Operation.steps, this]
    cases hr : request.isRefused <;> simp [Operation.writes, Operation.resetWrites,
      Operation.requests, hr, plannedWrites]
  | read => rfl
  | readTime => rfl
  | exchangeAll requests => exact plannedWrites_exchanges requests
  | writeGpio data =>
    have hout : Request.isRefused ⟨Gpio.writeOut, data⟩ = false := by
      change isReserved (transactionId Gpio.writeOut) = false
      decide
    rw [Operation.steps, plannedWrites_append (by decide), plannedWrites_request, hout,
      Operation.writes, List.takeWhile_eq_self_iff.2 ?_]
    · rfl
    · rintro request (hmem : request ∈ Gpio.enabling ++ _)
      simp only [List.mem_append, List.mem_cons, List.not_mem_nil, or_false] at hmem
      rcases hmem with hmem | rfl | rfl | rfl
      · revert request
        decide
      · rw [hout]
        rfl
      · decide
      · decide
  | readGpio => decide

theorem mem_steps_of_mem_requests {operation : Operation} {request : Request} {step : Step}
    (h : request ∈ operation.requests) (hs : step ∈ request.steps) : step ∈ operation.steps := by
  have enabling (hr : request ∈ Gpio.enabling) : step ∈ resetPlan ++ enablePlan := by
    simp only [Gpio.enabling, List.mem_cons, List.not_mem_nil, or_false] at hr
    rcases hr with rfl | rfl | rfl | rfl <;> simp [enablePlan, Request.exchangeSteps, hs]
  cases operation with
  | bringUp => exact enabling h
  | write _ => rwa [List.mem_singleton.1 h] at hs
  | read | readTime => exact absurd h List.not_mem_nil
  | exchangeAll requests =>
    exact List.mem_flatMap.2 ⟨request, h, List.mem_append_left _ hs⟩
  | writeGpio data =>
    simp only [Operation.requests, List.mem_append, List.mem_cons, List.not_mem_nil, or_false] at h
    rcases h with hr | rfl | rfl | rfl
    · exact List.mem_append_left _ (enabling hr)
    all_goals simp [Operation.steps, Request.exchangeSteps, hs]
  | readGpio =>
    rw [List.mem_singleton.1 h] at hs
    exact List.mem_append_left _ hs

/-- Where no step is a refusal, no request is refused. -/
theorem isRefused_eq {operation : Operation}
    (h : ∀ step ∈ operation.steps, step.isRefusal = false) :
    ∀ request ∈ operation.requests, request.isRefused = false := by
  intro request hr
  cases hrefused : request.isRefused with
  | false => rfl
  | true =>
    have hmem : .refuse (transactionId request.command) ∈ request.steps := by
      rw [Request.isRefused] at hrefused
      simp [Request.steps, hrefused]
    exact h _ (mem_steps_of_mem_requests hr hmem)

/-! ## The writes of a run -/

section Runs

variable {offset index : Nat} {isDone : UInt32 → Bool} {late : ScaError} {step : Step}
  {steps : List Step} {accesses : List Access} {outcome : Option Failure}

theorem Looks.writesIn_eq (h : Looks index isDone late accesses outcome) :
    writesIn accesses = [] := by
  induction h with
  | seen | failed | late => rfl
  | again _ _ ih => exact ih

theorem Waits.writesIn_eq (h : Waits index isDone late accesses outcome) :
    writesIn accesses = [] := by
  cases h with
  | looked hlooks => exact hlooks.writesIn_eq
  | endless => rfl

theorem Fetches.writesIn_eq {result : Except Failure Reply} (h : Fetches offset accesses result) :
    writesIn accesses = [] := by
  cases h with
  | dataFailed | commandFailed => rfl
  | unsettled hwaits | flagged hwaits | clean hwaits => exact hwaits.writesIn_eq

/-- A step writes what it names, also when that write fails. -/
theorem Step.Makes.writesIn_eq (h : step.Makes offset accesses outcome) :
    writesIn accesses = step.writes.map fun (register, value) => (offset + register, value) := by
  cases h with
  | stored | unstored | timed | untimed | refused => rfl
  | awaited hwaits => exact hwaits.writesIn_eq
  | fetched hfetches => exact hfetches.writesIn_eq

theorem Step.Makes.isRefusal_eq (h : step.Makes offset accesses none) :
    step.isRefusal = false := by
  generalize ho : none = outcome at h
  cases h with
  | refused => simp at ho
  | _ => rfl

theorem Runs.isRefusal_eq (h : Runs offset steps accesses none) :
    ∀ step ∈ steps, step.isRefusal = false := by
  generalize ho : none = outcome at h
  induction h with
  | done => simp
  | step hstep _ ih => exact List.forall_mem_cons.2 ⟨hstep.isRefusal_eq, ih ho⟩
  | fail => simp at ho

theorem Runs.writesIn_eq (h : Runs offset steps accesses none) :
    writesIn accesses =
      (plannedWrites steps).map fun (register, value) => (offset + register, value) := by
  generalize ho : none = outcome at h
  induction h with
  | done => rfl
  | step hstep _ ih =>
    rw [plannedWrites_cons hstep.isRefusal_eq, writesIn_append, hstep.writesIn_eq, ih ho,
      List.map_append]
  | fail => simp at ho

/-- A run that fails has come only so far down the list. -/
theorem Runs.writesIn_prefix (h : Runs offset steps accesses outcome) :
    writesIn accesses <+:
      (plannedWrites steps).map fun (register, value) => (offset + register, value) := by
  induction h with
  | done => exact List.prefix_rfl
  | step hstep _ ih =>
    rw [plannedWrites_cons hstep.isRefusal_eq, writesIn_append, hstep.writesIn_eq, List.map_append]
    exact (List.prefix_append_right_inj _).2 ih
  | @fail step steps accesses error hstep =>
    rw [hstep.writesIn_eq]
    cases hr : step.isRefusal with
    | true =>
      have : step.writes = [] := by
        cases step with
        | refuse => rfl
        | _ => simp [Step.isRefusal] at hr
      rw [this]
      exact List.nil_prefix
    | false =>
      rw [plannedWrites_cons hr, List.map_append]
      exact List.prefix_append _ _

/-- The step that fails is the last to access anything. -/
theorem Runs.exists_of_fail {failure : Failure} (h : Runs offset steps accesses (some failure)) :
    ∃ finished step rest before last, steps = finished ++ step :: rest ∧
      accesses = before ++ last ∧ Runs offset finished before none ∧
      step.Makes offset last (some failure) := by
  generalize ho : some failure = outcome at h
  induction h with
  | done => simp at ho
  | @step step steps first more outcome hstep _ ih =>
    obtain ⟨finished, failing, rest, before, last, rfl, rfl, hruns, hlast⟩ := ih ho
    exact ⟨step :: finished, failing, rest, first ++ before, last, rfl, by simp,
      .step hstep hruns, hlast⟩
  | @fail step steps accesses _ hstep =>
    obtain rfl := Option.some.inj ho
    exact ⟨[], step, steps, [], accesses, rfl, rfl, .done, hstep⟩

/-- Only the last access can fail, and then its error is what comes of it all. -/
def EndsOnFailure : List Access → Option Failure → Prop
  | [], _ => True
  | access :: rest, outcome =>
    match access.error? with
    | none => EndsOnFailure rest outcome
    | some error => rest = [] ∧ outcome = some (.error (.register error))

theorem EndsOnFailure.append {rest : List Access} (h : EndsOnFailure accesses none)
    (hr : EndsOnFailure rest outcome) : EndsOnFailure (accesses ++ rest) outcome := by
  induction accesses with
  | nil => exact hr
  | cons access accesses ih =>
    rw [EndsOnFailure] at h
    rw [List.cons_append, EndsOnFailure]
    cases he : access.error? with
    | none =>
      rw [he] at h
      exact ih h
    | some error =>
      rw [he] at h
      simp at h

/-- Where nothing failed, whatever comes of it is no failed access. -/
theorem EndsOnFailure.of_none (h : EndsOnFailure accesses none) :
    EndsOnFailure accesses outcome := by
  have hnil : EndsOnFailure [] outcome := trivial
  simpa using h.append hnil

theorem EndsOnFailure.last {before after : List Access} {access : Access} {error : RegisterError}
    (h : EndsOnFailure (before ++ access :: after) outcome) (he : access.error? = some error) :
    after = [] ∧ outcome = some (.error (.register error)) := by
  induction before with
  | nil => simpa [EndsOnFailure, he] using h
  | cons earlier before ih =>
    rw [List.cons_append, EndsOnFailure] at h
    cases hearlier : earlier.error? with
    | none =>
      rw [hearlier] at h
      exact ih h
    | some _ =>
      rw [hearlier] at h
      simp at h

theorem Looks.endsOnFailure (h : Looks index isDone late accesses outcome) :
    EndsOnFailure accesses outcome := by
  induction h with
  | seen => trivial
  | failed => exact ⟨rfl, rfl⟩
  | late => trivial
  | again _ _ ih => exact ih

theorem Waits.endsOnFailure (h : Waits index isDone late accesses outcome) :
    EndsOnFailure accesses outcome := by
  cases h with
  | looked hlooks => exact hlooks.endsOnFailure
  | endless => trivial

theorem Fetches.endsOnFailure {result : Except Failure Reply}
    (h : Fetches offset accesses result) : EndsOnFailure accesses (failure? result) := by
  cases h with
  | dataFailed | commandFailed => exact ⟨rfl, rfl⟩
  | unsettled hwaits => exact hwaits.endsOnFailure
  | flagged hwaits | clean hwaits =>
    exact hwaits.endsOnFailure.of_none

theorem Step.Makes.endsOnFailure (h : step.Makes offset accesses outcome) :
    EndsOnFailure accesses outcome := by
  cases h with
  | stored | timed | refused => trivial
  | unstored | untimed => exact ⟨rfl, rfl⟩
  | awaited hwaits => exact hwaits.endsOnFailure
  | fetched hfetches => exact hfetches.endsOnFailure

theorem Runs.endsOnFailure (h : Runs offset steps accesses outcome) :
    EndsOnFailure accesses outcome := by
  induction h with
  | done => trivial
  | step hstep _ ih => exact hstep.endsOnFailure.append ih
  | fail hstep => exact hstep.endsOnFailure

end Runs

/--
The writes that an operation attempts are a prefix of one list, and all of it if the operation
returns an answer; then no request was refused. An operation that fails does so in one of its steps,
with the steps before it done and nothing accessed for those behind it, and an access that fails is
the last one.
-/
theorem Engine.writes_of_perform {ρ : Type} [RegisterPort ρ] (engine : Engine)
    (operation : Operation) (bus : Bus ρ) :
    writesIn (engine.accesses operation bus) <+: operation.writesAt engine.offset ∧
    (∀ answer, ((engine.perform operation).on bus).1 = .ok answer →
      writesIn (engine.accesses operation bus) = operation.writesAt engine.offset ∧
      (∀ request ∈ operation.requests, request.isRefused = false) ∧
      Runs engine.offset operation.steps (engine.accesses operation bus) none) ∧
    (∀ failure, ((engine.perform operation).on bus).1 = .error failure →
      ∃ finished step rest before last, operation.steps = finished ++ step :: rest ∧
        engine.accesses operation bus = before ++ last ∧
        Runs engine.offset finished before none ∧ step.Makes engine.offset last (some failure)) ∧
    ∀ before access after error, engine.accesses operation bus = before ++ access :: after →
      access.error? = some error →
      after = [] ∧ ((engine.perform operation).on bus).1 = .error (.error (.register error)) := by
  have hruns := engine.runs_accesses operation bus
  refine ⟨?_, ?_, ?_, ?_⟩
  · rw [Operation.writesAt, ← plannedWrites_steps]
    exact hruns.writesIn_prefix
  · intro answer hok
    rw [hok] at hruns
    refine ⟨?_, isRefused_eq hruns.isRefusal_eq, hruns⟩
    rw [Operation.writesAt, ← plannedWrites_steps]
    exact hruns.writesIn_eq
  · intro failure hfail
    rw [hfail] at hruns
    exact hruns.exists_of_fail
  · intro before access after error haccesses he
    have hends := hruns.endsOnFailure
    rw [haccesses] at hends
    obtain ⟨hafter, houtcome⟩ := hends.last he
    refine ⟨hafter, ?_⟩
    cases hresult : ((engine.perform operation).on bus).1 with
    | ok answer => simp [hresult, failure?] at houtcome
    | error error' =>
      rw [hresult] at houtcome
      rw [Option.some.inj houtcome]

example : Operation.readGpio.writesAt 12 = [(20, 0), (21, 0x02050011), (22, 4), (22, 0)] := by
  decide

end Readout.Sca
