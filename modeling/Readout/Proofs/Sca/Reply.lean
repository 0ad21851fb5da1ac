import Mathlib.Data.Nat.Bitwise
import Readout.Proofs.Sca.Followed
import Readout.Proofs.Sca.Waiting

/-!
When a fetch gives a reply. The command word is read once for the reply and then again and again
until the channel is free; the reply is judged by the first of these words, the wait by the last. So
a first word that says that the channel is busy is no reply, even where the channel becomes free in
time. And a wait that has no end ends the fetch behind its first two reads.
-/

namespace Readout.Sca

open Register

/-! ## The words of a reply -/

/-- The bit that stands for the flag. -/
def Flag.bit : Flag → Nat
  | .generic => 0
  | .invalidChannel => 1
  | .invalidCommand => 2
  | .invalidTransactionNumber => 3
  | .invalidLength => 4
  | .channelNotEnabled => 5
  | .channelBusy => 6

variable {offset : Nat}

/-- The answers of a fetch in which no read fails. -/
def answered (data command : UInt32) (polls : List UInt32) : List (Except RegisterError UInt32) :=
  .ok data :: .ok command :: polls.map .ok

/-- What a reply comes to once the channel is free. -/
def judge (data command : UInt32) : Except Failure Reply :=
  match Flags.ofCommand? command with
  | some flags => .error (.error (.hardware flags))
  | none => .ok ⟨command, data⟩

/-- When a fetch that begins now would stop waiting for the channel. -/
def Engine.channelDeadline (engine : Engine) (clock : Clock) : Nat :=
  clock.now + engine.channelBusyTimeout.nanoseconds

/-- How a fetch comes out whose reads are answered like this, from the clock that it began with. -/
inductive Engine.Fetched (engine : Engine) (clock : Clock) :
    List (Except RegisterError UInt32) → Except Failure Reply → Prop where
  | dataFailed {error : RegisterError} :
      Fetched engine clock [.error error] (.error (.error (.register error)))
  | commandFailed {data : UInt32} {error : RegisterError} :
      Fetched engine clock [.ok data, .error error] (.error (.error (.register error)))
  | endless {data command : UInt32} {overflow : Deadline.Overflow} :
      Deadline.horizon ≤ engine.channelDeadline clock →
      Fetched engine clock (answered data command []) (.error (.fault overflow))
  | pollFailed {data command : UInt32} {waiting : List UInt32} {error : RegisterError} :
      engine.channelDeadline clock < Deadline.horizon →
      (∀ look < waiting.length, checkAfter clock look < engine.channelDeadline clock) →
      Fetched engine clock (answered data command waiting ++ [.error error])
        (.error (.error (.register error)))
  | late {data command : UInt32} {waiting : List UInt32} {last : UInt32} :
      engine.channelDeadline clock < Deadline.horizon →
      (∀ word ∈ waiting ++ [last], isChannelBusy word = true) →
      (∀ look < waiting.length, checkAfter clock look < engine.channelDeadline clock) →
      engine.channelDeadline clock ≤ checkAfter clock waiting.length →
      Fetched engine clock (answered data command (waiting ++ [last]))
        (.error (.error .channelBusyTimeout))
  | free {data command : UInt32} {waiting : List UInt32} {last : UInt32} :
      engine.channelDeadline clock < Deadline.horizon →
      isChannelBusy last = false →
      (∀ look < waiting.length, checkAfter clock look < engine.channelDeadline clock) →
      Fetched engine clock (answered data command (waiting ++ [last])) (judge data command)

namespace Engine.Fetched

variable {engine : Engine} {clock : Clock} {answers : List (Except RegisterError UInt32)}
  {result : Except Failure Reply}

/-- There is no poll at all in a wait that has no end. -/
theorem length_le (h : engine.Fetched clock answers result)
    (hle : Deadline.horizon ≤ engine.channelDeadline clock) : answers.length ≤ 2 := by
  cases h with
  | dataFailed => exact Nat.le_succ _
  | commandFailed | endless => exact Nat.le_refl _
  | pollFailed hlt | late hlt | free hlt => exact absurd hle (Nat.not_le.2 hlt)

/-- There is no further poll once the deadline has passed. -/
theorem early (h : engine.Fetched clock answers result) {look : Nat}
    (hl : look + 3 < answers.length) : checkAfter clock look < engine.channelDeadline clock := by
  cases h with
  | dataFailed | commandFailed | endless =>
    simp only [answered, List.map_nil, List.length_cons, List.length_nil] at hl
    omega
  | pollFailed _ hearly | late _ _ hearly | free _ _ hearly =>
    apply hearly
    simpa [answered] using hl

/-- What polls come to of which none failed: the channel was busy at all of them, or the first two
words are judged. -/
def Polled (data command : UInt32) (polls : List UInt32) (result : Except Failure Reply) : Prop :=
  (∀ word ∈ polls, isChannelBusy word = true) ∧ result = .error (.error .channelBusyTimeout) ∨
    (∃ word ∈ polls, isChannelBusy word = false) ∧ result = judge data command

/-- A read failed, or there are no polls since their wait has no end, or the polls decide. -/
theorem outcome (h : engine.Fetched clock answers result) :
    (∃ error, .error error ∈ answers ∧ result = .error (.error (.register error))) ∨
      (∃ data command overflow, answers = answered data command [] ∧
        Deadline.horizon ≤ engine.channelDeadline clock ∧ result = .error (.fault overflow)) ∨
      ∃ data command polls, answers = answered data command polls ∧ polls ≠ [] ∧
        Polled data command polls result := by
  cases h with
  | dataFailed => exact .inl ⟨_, List.mem_singleton_self _, rfl⟩
  | commandFailed => exact .inl ⟨_, List.mem_cons_of_mem _ (List.mem_singleton_self _), rfl⟩
  | endless hle => exact .inr (.inl ⟨_, _, _, rfl, hle, rfl⟩)
  | pollFailed => exact .inl ⟨_, List.mem_append_right _ (List.mem_singleton_self _), rfl⟩
  | late _ hbusy =>
    exact .inr (.inr ⟨_, _, _, rfl, List.concat_ne_nil _ _, .inl ⟨hbusy, rfl⟩⟩)
  | free _ hfree =>
    exact .inr (.inr ⟨_, _, _, rfl, List.concat_ne_nil _ _,
      .inr ⟨⟨_, List.mem_append_right _ (List.mem_singleton_self _), hfree⟩, rfl⟩⟩)

end Engine.Fetched

namespace Engine

variable {ρ : Type} [RegisterPort ρ] (engine : Engine)

end Engine

end Readout.Sca
