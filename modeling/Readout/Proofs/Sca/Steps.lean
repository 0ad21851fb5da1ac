import Readout.Proofs.Time.Polling
import Readout.Register.Traced
import Readout.Sca.Engine

/-!
Every operation of an engine is a list of steps that its arguments fix: words are stored, the block
is waited for, replies are fetched. It makes the accesses of its steps in turn, and none behind
those of the first step that fails.
-/

namespace Readout.Sca

open Register

/-- What an operation does at a time. -/
inductive Step where
  | store (register : Nat) (value : UInt32)
  | awaitIdle
  | fetchReply
  | fetchTime
  | refuse (id : UInt8)
  deriving DecidableEq

/-- A request is loaded, strobed and waited for, unless its transaction id is reserved. -/
def Request.steps (request : Request) : List Step :=
  if isReserved (transactionId request.command) then [.refuse (transactionId request.command)]
  else
    [.store writeData request.data, .store writeCommand request.command, .store control execute,
      .store control idle, .awaitIdle]

def Request.exchangeSteps (request : Request) : List Step := request.steps ++ [.fetchReply]

def resetPlan : List Step :=
  resetSteps.flatMap (fun value => [.store control value, .awaitIdle]) ++ [.store control idle]

def enablePlan : List Step :=
  Request.exchangeSteps ⟨Gpio.writeControlB, Gpio.enableMask⟩ ++
    (Request.exchangeSteps ⟨Gpio.readControlB, Gpio.enableMask⟩ ++
      (Request.steps ⟨Gpio.writeDirection, Gpio.allOutputs⟩ ++
        Request.exchangeSteps ⟨Gpio.readDirection, 0⟩))

def Operation.steps : Operation → List Step
  | .bringUp => resetPlan ++ enablePlan
  | .write request => request.steps
  | .read => [.fetchReply]
  | .readTime => [.fetchTime]
  | .exchangeAll requests => requests.flatMap Request.exchangeSteps
  | .writeGpio data =>
    resetPlan ++ enablePlan ++ (Request.steps ⟨Gpio.writeOut, data⟩ ++
      (Request.exchangeSteps ⟨Gpio.readOut, 0⟩ ++ Request.exchangeSteps ⟨Gpio.readDataIn, 0⟩))
  | .readGpio => Request.exchangeSteps ⟨Gpio.readOut, 0⟩

/-- A register is read until its word is what is waited for or it is too late for that. -/
inductive Looks (index : Nat) (isDone : UInt32 → Bool) (late : ScaError) :
    List Access → Option Failure → Prop where
  | seen {word : UInt32} :
      isDone word = true → Looks index isDone late [.read index (.ok word)] none
  | failed {error : RegisterError} :
      Looks index isDone late [.read index (.error error)] (some (.error (.register error)))
  | late {word : UInt32} :
      isDone word = false → Looks index isDone late [.read index (.ok word)] (some (.error late))
  | again {word : UInt32} {accesses : List Access} {outcome : Option Failure} :
      isDone word = false → Looks index isDone late accesses outcome →
      Looks index isDone late (.read index (.ok word) :: accesses) outcome

/-- A wait is made of its looks, or of none if it would have no end. -/
inductive Waits (index : Nat) (isDone : UInt32 → Bool) (late : ScaError) :
    List Access → Option Failure → Prop where
  | looked {accesses : List Access} {outcome : Option Failure} :
      Looks index isDone late accesses outcome → Waits index isDone late accesses outcome
  | endless {overflow : Deadline.Overflow} : Waits index isDone late [] (some (.fault overflow))

/-- The accesses that fetch a reply, with what comes of them. -/
inductive Fetches (offset : Nat) : List Access → Except Failure Reply → Prop where
  | dataFailed {error : RegisterError} :
      Fetches offset [.read (offset + readData) (.error error)]
        (.error (.error (.register error)))
  | commandFailed {data : UInt32} {error : RegisterError} :
      Fetches offset
        [.read (offset + readData) (.ok data), .read (offset + readCommand) (.error error)]
        (.error (.error (.register error)))
  | unsettled {data command : UInt32} {looks : List Access} {failure : Failure} :
      Waits (offset + readCommand) (fun word => !isChannelBusy word) .channelBusyTimeout looks
        (some failure) →
      Fetches offset
        (.read (offset + readData) (.ok data) ::
          .read (offset + readCommand) (.ok command) :: looks)
        (.error failure)
  | flagged {data command : UInt32} {looks : List Access} {flags : Flags} :
      Waits (offset + readCommand) (fun word => !isChannelBusy word) .channelBusyTimeout looks
        none →
      Flags.ofCommand? command = some flags →
      Fetches offset
        (.read (offset + readData) (.ok data) ::
          .read (offset + readCommand) (.ok command) :: looks)
        (.error (.error (.hardware flags)))
  | clean {data command : UInt32} {looks : List Access} :
      Waits (offset + readCommand) (fun word => !isChannelBusy word) .channelBusyTimeout looks
        none →
      Flags.ofCommand? command = none →
      Fetches offset
        (.read (offset + readData) (.ok data) ::
          .read (offset + readCommand) (.ok command) :: looks)
        (.ok ⟨command, data⟩)

/-- The accesses that a step makes, and the failure that it ends in, if it does. -/
inductive Step.Makes (offset : Nat) : Step → List Access → Option Failure → Prop where
  | stored {register : Nat} {value : UInt32} :
      Makes offset (.store register value) [.write (offset + register) value (.ok ())] none
  | unstored {register : Nat} {value : UInt32} {error : RegisterError} :
      Makes offset (.store register value) [.write (offset + register) value (.error error)]
        (some (.error (.register error)))
  | awaited {looks : List Access} {outcome : Option Failure} :
      Waits (offset + readBusy) (fun word => !testBit word busyBit) .busyTimeout looks outcome →
      Makes offset .awaitIdle looks outcome
  | fetched {accesses : List Access} {result : Except Failure Reply} :
      Fetches offset accesses result → Makes offset .fetchReply accesses (failure? result)
  | timed {word : UInt32} :
      Makes offset .fetchTime [.read (offset + Sca.readTime) (.ok word)] none
  | untimed {error : RegisterError} :
      Makes offset .fetchTime [.read (offset + Sca.readTime) (.error error)]
        (some (.error (.register error)))
  | refused {id : UInt8} :
      Makes offset (.refuse id) [] (some (.error (.reservedTransactionId id)))

/-- The accesses that steps make in turn; there are none behind those of a step that fails. -/
inductive Runs (offset : Nat) : List Step → List Access → Option Failure → Prop where
  | done : Runs offset [] [] none
  | step {step : Step} {steps : List Step} {accesses more : List Access}
      {outcome : Option Failure} :
      step.Makes offset accesses none → Runs offset steps more outcome →
      Runs offset (step :: steps) (accesses ++ more) outcome
  | fail {step : Step} {steps : List Step} {accesses : List Access} {failure : Failure} :
      step.Makes offset accesses (some failure) →
      Runs offset (step :: steps) accesses (some failure)

section Runs

variable {offset : Nat} {step : Step} {steps more : List Step} {accesses rest : List Access}
  {outcome : Option Failure}

theorem Runs.single (h : step.Makes offset accesses outcome) :
    Runs offset [step] accesses outcome := by
  cases outcome with
  | none => simpa using Runs.step h .done
  | some failure => exact .fail h

theorem Runs.append (h : Runs offset steps accesses none) (hm : Runs offset more rest outcome) :
    Runs offset (steps ++ more) (accesses ++ rest) outcome := by
  generalize ho : none = ended at h
  induction h with
  | done => exact hm
  | step hstep _ ih =>
    rw [List.cons_append, List.append_assoc]
    exact .step hstep (ih ho)
  | fail => simp at ho

theorem Runs.append_of_fail {failure : Failure} (h : Runs offset steps accesses (some failure)) :
    Runs offset (steps ++ more) accesses (some failure) := by
  generalize ho : some failure = ended at h
  induction h with
  | done => simp at ho
  | step hstep _ ih => exact .step hstep (ih ho)
  | fail hstep => exact .fail hstep

/-- Steps behind others are run only once those are done. -/
theorem Runs.append_cases (h : Runs offset (steps ++ more) accesses outcome) :
    (∃ failure, outcome = some failure ∧ Runs offset steps accesses (some failure)) ∨
      ∃ first rest, accesses = first ++ rest ∧ Runs offset steps first none ∧
        Runs offset more rest outcome := by
  induction steps generalizing accesses with
  | nil => exact .inr ⟨[], accesses, rfl, .done, h⟩
  | cons step steps ih =>
    cases h with
    | step hstep hmore =>
      rcases ih hmore with ⟨failure, rfl, hfail⟩ | ⟨first, rest, rfl, hfirst, hrest⟩
      · exact .inl ⟨failure, rfl, .step hstep hfail⟩
      · refine .inr ⟨_, rest, ?_, .step hstep hfirst, hrest⟩
        rw [List.append_assoc]
    | fail hstep => exact .inl ⟨_, rfl, .fail hstep⟩

end Runs

end Readout.Sca
