import Readout.Proofs.Time.Polling
import Readout.Register.Traced
import Readout.Sca.Bus

/-!
A wait for a register in terms of what its looks are answered: all but the last give a word that is
not yet what is waited for, each with the deadline still ahead, and the last one decides. There are
no looks where the deadline would be no point in time.
-/

namespace Readout.Sca

open Register

variable {index : Nat} {isDone : UInt32 → Bool}

/-- What a look at a register comes to that answers like this. -/
def glance (isDone : UInt32 → Bool) :
    Except RegisterError UInt32 → Except ScaError (Option Unit)
  | .ok word => .ok (if isDone word then some () else none)
  | .error error => .error (.register error)

/-- What a wait for a register comes to whose last look is answered like this. -/
def outlast (late : ScaError) (isDone : UInt32 → Bool) :
    Except RegisterError UInt32 → Except Failure Unit
  | .ok word => if isDone word then .ok () else .error (.error late)
  | .error error => .error (.error (.register error))

theorem outlast_of_done {word : UInt32} (h : isDone word = true) (late : ScaError) :
    outlast late isDone (.ok word) = .ok () := if_pos h

theorem outlast_of_late {word : UInt32} (h : isDone word = false) (late : ScaError) :
    outlast late isDone (.ok word) = .error (.error late) := if_neg (Bool.not_eq_true _ ▸ h)

variable {ρ : Type} [RegisterPort ρ]

theorem probe_eq (index : Nat) (isDone : UInt32 → Bool) (port : ρ) :
    Bus.probe index isDone port =
      (glance isDone (RegisterPort.read port index).1, (RegisterPort.read port index).2) := by
  unfold Bus.probe
  rcases RegisterPort.read port index with ⟨error | word, next⟩ <;> rfl

/-- The wait of an operation that awaits a register, once its deadline is set. -/
def Bus.wait (deadline : Deadline) (index : Nat) (isDone : UInt32 → Bool) (bus : Bus ρ) :
    Deadline.Wait ρ ScaError Unit :=
  deadline.poll (Bus.probe index isDone) bus.clock.tick bus.port

theorem on_await {timeout : Duration} {bus : Bus ρ} {wait : Deadline.Wait ρ ScaError Unit}
    (hlt : bus.clock.now + timeout.nanoseconds < Deadline.horizon)
    (hw : bus.wait ⟨bus.clock.now, timeout, hlt⟩ index isDone = wait)
    {last : Except RegisterError UInt32} (h : wait.result = glance isDone last) (late : ScaError) :
    (Bus.await timeout late index isDone).on bus =
      (outlast late isDone last, { bus with port := wait.state, clock := wait.clock }) := by
  unfold Bus.wait at hw
  simp only [Bus.await, Attempt.on_of, Deadline.after_of_lt hlt, hw, h]
  cases last with
  | error error => rfl
  | ok word =>
    cases hd : isDone word with
    | true => simp [glance, hd, outlast_of_done hd]
    | false => simp [glance, hd, outlast_of_late hd]

/-- Only the clock was read for a wait that has no end. -/
theorem on_await_of_overflow {timeout : Duration} {bus : Bus ρ}
    (hle : Deadline.horizon ≤ bus.clock.now + timeout.nanoseconds) (late : ScaError) (index : Nat)
    (isDone : UInt32 → Bool) :
    (Bus.await timeout late index isDone).on bus =
      (.error (.fault ⟨bus.clock.now, timeout, hle⟩), { bus with clock := bus.clock.tick }) := by
  simp only [Bus.await, Attempt.on_of, Deadline.after_of_le hle]

/-- The bus whose port is seen as another. -/
def Bus.view {ρ ρ' : Type} (f : ρ → ρ') (bus : Bus ρ) : Bus ρ' := ⟨f bus.port, bus.clock, bus.log⟩

/-- A wait over a port that is seen as another comes to the same over that other. -/
theorem on_await_view {ρ' : Type} [RegisterPort ρ'] {f : ρ → ρ'}
    (h : ∀ port, RegisterPort.read (f port) index =
      ((RegisterPort.read port index).1, f (RegisterPort.read port index).2))
    (timeout : Duration) (late : ScaError) (isDone : UInt32 → Bool) (bus : Bus ρ) :
    (Bus.await timeout late index isDone).on (bus.view f) =
      (((Bus.await timeout late index isDone).on bus).1,
        ((Bus.await timeout late index isDone).on bus).2.view f) := by
  have hprobe (port : ρ) : Bus.probe index isDone (f port) =
      ((Bus.probe index isDone port).1, f (Bus.probe index isDone port).2) := by
    rw [probe_eq, probe_eq, h]
  simp only [Bus.await, Attempt.on_of, Bus.view]
  rcases Deadline.after timeout bus.clock with ⟨overflow | deadline, clock⟩
  · rfl
  · simp only [Deadline.poll_view hprobe]
    rcases (deadline.poll (Bus.probe index isDone) clock bus.port).result with error | _ | _ <;> rfl

/-- When the clock is read behind a look, the first one being look 0; it has told before when the
wait began. -/
def checkAfter (clock : Clock) (look : Nat) : Nat := clock.reading (clock.given + 1 + look)

/-- The answers of a wait's looks, with the time between them. -/
structure Waited (isDone : UInt32 → Bool) (finish : Nat) (check : Nat → Nat)
    (waiting : List UInt32) (last : Except RegisterError UInt32) : Prop where
  waiting_eq : ∀ word ∈ waiting, isDone word = false
  early : ∀ look < waiting.length, check look < finish
  late : ∀ word, last = .ok word → isDone word = false → finish ≤ check waiting.length

theorem exists_waited_of_polled {deadline : Deadline} {clock : Clock} {port : Traced ρ}
    {wait : Deadline.Wait (Traced ρ) ScaError Unit}
    (h : deadline.Polled (Bus.probe index isDone) clock port wait) :
    ∃ waiting last, wait.state.accesses =
        port.accesses ++ (waiting.map .ok ++ [last]).map (.read index) ∧
      wait.result = glance isDone last ∧
      Waited isDone deadline.finish (fun look => clock.reading (clock.given + look)) waiting
        last := by
  induction h with
  | @answered clock port next answer hprobe =>
    rw [probe_eq] at hprobe
    obtain ⟨hresult, rfl⟩ := Prod.mk.inj hprobe
    refine ⟨[], (RegisterPort.read port index).1, rfl, hresult.symm, nofun, nofun, ?_⟩
    intro word hword hnot
    rw [hword] at hresult
    simp [glance, hnot] at hresult
  | @failed clock port next error hprobe =>
    rw [probe_eq] at hprobe
    obtain ⟨hresult, rfl⟩ := Prod.mk.inj hprobe
    refine ⟨[], (RegisterPort.read port index).1, rfl, hresult.symm, nofun, nofun, ?_⟩
    intro word hword
    rw [hword] at hresult
    simp [glance] at hresult
  | @late clock port next hprobe hlate =>
    rw [probe_eq] at hprobe
    obtain ⟨hresult, rfl⟩ := Prod.mk.inj hprobe
    exact ⟨[], _, rfl, hresult.symm, nofun, nofun, fun _ _ _ => hlate⟩
  | @early clock port next wait hprobe hearly _ ih =>
    rw [probe_eq] at hprobe
    obtain ⟨hresult, rfl⟩ := Prod.mk.inj hprobe
    obtain ⟨waiting, last, happend, hwait, hwaited⟩ := ih
    have hshift (look : Nat) : clock.tick.reading (clock.tick.given + look) =
        clock.reading (clock.given + (look + 1)) := by
      rw [Clock.reading_tick, Clock.given_tick, Nat.add_assoc, Nat.add_comm 1]
    simp only [hshift] at hwaited
    cases hread : (RegisterPort.read port index).1 with
    | error error => simp [hread, glance] at hresult
    | ok word =>
      have hnot : isDone word = false := by simpa [hread, glance] using hresult
      refine ⟨word :: waiting, last, ?_, hwait, ?_, ?_, ?_⟩
      · have hkept : (RegisterPort.read port index).2.accesses =
            port.accesses ++ [.read index (RegisterPort.read port index).1] := rfl
        rw [happend, hkept, hread, List.append_assoc]
        rfl
      · exact List.forall_mem_cons.2 ⟨hnot, hwaited.waiting_eq⟩
      · intro look hlook
        cases look with
        | zero => exact hearly
        | succ look => exact hwaited.early look (Nat.lt_of_succ_lt_succ hlook)
      · exact hwaited.late

/-- What a wait on a traced bus makes of its accesses and of its time. -/
theorem exists_waited_of_await {timeout : Duration} {bus : Bus (Traced ρ)}
    (hlt : bus.clock.now + timeout.nanoseconds < Deadline.horizon) (late : ScaError) (index : Nat)
    (isDone : UInt32 → Bool) :
    ∃ waiting last,
      ((Bus.await timeout late index isDone).on bus).1 = outlast late isDone last ∧
      ((Bus.await timeout late index isDone).on bus).2.port.accesses =
        bus.port.accesses ++ (waiting.map .ok ++ [last]).map (.read index) ∧
      Waited isDone (bus.clock.now + timeout.nanoseconds) (checkAfter bus.clock) waiting last := by
  obtain ⟨waiting, last, haccesses, hresult, hwaited⟩ := exists_waited_of_polled
    (Deadline.polled_poll ⟨bus.clock.now, timeout, hlt⟩ (Bus.probe index isDone) bus.clock.tick
      bus.port)
  rw [on_await hlt rfl hresult]
  exact ⟨waiting, last, rfl, haccesses, hwaited⟩

end Readout.Sca
