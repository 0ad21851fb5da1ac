import Readout.Attempt
import Readout.Log
import Readout.Register.Port
import Readout.Sca.Error
import Readout.Time.Deadline

/-! What a slow-control operation works on: a register port, a clock and a log. -/

namespace Readout.Sca

structure Bus (ρ : Type) where
  port : ρ
  clock : Clock
  log : Log

/-- An error of the operation, or a wait of it that has no end. -/
inductive Failure where
  | error (error : ScaError)
  | fault (overflow : Deadline.Overflow)
  deriving DecidableEq

/-- An operation on the bus; what it did before it failed stays done. -/
abbrev Transaction (ρ α : Type) := Attempt (Bus ρ) Failure α

namespace Bus

variable {ρ : Type}

def debug (text : String) : Transaction ρ Unit :=
  modify fun bus => { bus with log := bus.log.debug text }

def warn (text : String) : Transaction ρ Unit :=
  modify fun bus => { bus with log := bus.log.warn text }

variable [RegisterPort ρ]

def read (index : Nat) : Transaction ρ UInt32 :=
  .of fun bus =>
    let (result, port) := RegisterPort.read bus.port index
    (result.mapError fun error => .error (.register error), { bus with port := port })

def write (index : Nat) (value : UInt32) : Transaction ρ Unit :=
  .of fun bus =>
    let (result, port) := RegisterPort.write bus.port index value
    (result.mapError fun error => .error (.register error), { bus with port := port })

/-- One look at a register: an answer only if the word is what is waited for. -/
def probe (index : Nat) (isDone : UInt32 → Bool) (port : ρ) : Except ScaError (Option Unit) × ρ :=
  match RegisterPort.read port index with
  | (.ok word, port) => (.ok (if isDone word then some () else none), port)
  | (.error error, port) => (.error (.register error), port)

/--
Reads a register until its word is what is waited for; gives up with `late` at the deadline. The
register is not read at all if the deadline is no point in time.
-/
def await (timeout : Duration) (late : ScaError) (index : Nat) (isDone : UInt32 → Bool) :
    Transaction ρ Unit :=
  .of fun bus =>
    match Deadline.after timeout bus.clock with
    | (.error overflow, clock) => (.error (.fault overflow), { bus with clock := clock })
    | (.ok deadline, clock) =>
      let wait := deadline.poll (probe index isDone) clock bus.port
      let bus := { bus with port := wait.state, clock := wait.clock }
      match wait.result with
      | .ok (some _) => (.ok (), bus)
      | .ok none => (.error (.error late), bus)
      | .error error => (.error (.error error), bus)

end Bus

end Readout.Sca
