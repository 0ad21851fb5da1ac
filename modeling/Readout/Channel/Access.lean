import Readout.Channel.Session
import Readout.Sca.Engine
import Readout.Text.Quoted

/-! Registers and slow control of an open channel, and its description of itself. -/

namespace Readout.Session

variable {ρ τ : Type}

/-- The session in its own words. -/
def describe (session : Session ρ τ) : String :=
  let fields := [
    s!"card_type: {session.config.card.label}",
    s!"channel: {session.config.channel.toNat}",
    s!"state: {session.state.label}",
    s!"pages_in_flight: {session.flow.inFlight.length}",
    s!"lock: {Text.quoted session.lock.socketName}",
    ".."]
  "ChannelSession \x7b " ++ ", ".intercalate fields ++ " \x7d"

/-- The engine for one of the card's links. -/
def engine (session : Session ρ τ) (link : UInt32) : Except ScaError Sca.Engine :=
  Sca.Engine.ofLayout (.ofCard session.config.card) link

/-- A slow-control operation on the session's own port. -/
def onBus {α : Type} (session : Session ρ τ) (clock : Clock) (transaction : Sca.Transaction ρ α) :
    Except Sca.Failure α × Clock × Session ρ τ :=
  let (result, bus) := transaction.on ⟨session.port, clock, session.log⟩
  (result, bus.clock, { session with port := bus.port, log := bus.log })

/-- An access to the session's port. -/
def onPort {α : Type} (access : ρ → Except RegisterError α × ρ) : Act ρ τ α :=
  .of fun session =>
    let (result, port) := access session.port
    (result.mapError fun error => .error (.register error), { session with port := port })

variable [RegisterPort ρ]

def readRegister (index : Nat) : Act ρ τ UInt32 :=
  onPort (RegisterPort.read · index)

def writeRegister (index : Nat) (value : UInt32) : Act ρ τ Unit :=
  onPort (RegisterPort.write · index value)

def modifyRegister (index : Nat) (field : Register.Field) (value : UInt32) : Act ρ τ Unit :=
  onPort (RegisterPort.modify · index field value)

end Readout.Session
