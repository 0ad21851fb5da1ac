import Readout.Sca.Bus
import Readout.Sca.Gpio
import Readout.Sca.Layout

/-!
The slow-control protocol of one link: a request is loaded into two registers and strobed, the
block is waited for, and the reply is fetched from two others.
-/

namespace Readout.Sca

/-- Where the link's block begins, and how long the engine waits for it. -/
structure Engine where
  offset : Nat
  busyTimeout : Duration
  channelBusyTimeout : Duration
  deriving DecidableEq

namespace Engine

/-- The engine for a link that the layout has. -/
def ofLayout (layout : Layout) (link : UInt32) : Except ScaError Engine :=
  match layout.offset link with
  | .ok offset => .ok ⟨offset, layout.busyTimeout, layout.channelBusyTimeout⟩
  | .error error => .error error

variable {ρ : Type} [RegisterPort ρ]

/-- A read of one of the block's registers. -/
def fetch (engine : Engine) (register : Nat) : Transaction ρ UInt32 :=
  Bus.read (engine.offset + register)

/-- A write to one of the block's registers. -/
def store (engine : Engine) (register : Nat) (value : UInt32) : Transaction ρ Unit :=
  Bus.write (engine.offset + register) value

/-- Waits until the block is idle. -/
def awaitIdle (engine : Engine) : Transaction ρ Unit :=
  Bus.await engine.busyTimeout .busyTimeout (engine.offset + readBusy)
    (fun word => !Register.testBit word busyBit)

/-- Waits until the addressed channel is free. -/
def awaitChannel (engine : Engine) : Transaction ρ Unit :=
  Bus.await engine.channelBusyTimeout .channelBusyTimeout (engine.offset + readCommand)
    (fun word => !isChannelBusy word)

/-- Starts the loaded request and waits for its end. -/
def strobe (engine : Engine) : Transaction ρ Unit := do
  engine.store control execute
  engine.store control idle
  engine.awaitIdle

def describe (command data : UInt32) : String :=
  s!"command={Text.hexPadded 8 command.toNat} data={Text.hexPadded 8 data.toNat}"

/-- A request with a reserved transaction id is refused before any register is touched. -/
def write (engine : Engine) (request : Request) : Transaction ρ Unit := do
  if isReserved (transactionId request.command) then
    throw (.error (.reservedTransactionId (transactionId request.command)))
  else
    Bus.debug s!"SCA write: {describe request.command request.data}"
    engine.store writeData request.data
    engine.store writeCommand request.command
    engine.strobe

/-- Flags are taken from the command word as it was before the wait for the channel. -/
def read (engine : Engine) : Transaction ρ Reply := do
  let data ← engine.fetch readData
  let command ← engine.fetch readCommand
  engine.awaitChannel
  match Flags.ofCommand? command with
  | some flags =>
    Bus.warn s!"SCA reply {Text.hexPadded 8 command.toNat} reports {flags.message}"
    throw (.error (.hardware flags))
  | none =>
    Bus.debug s!"SCA read: {describe command data}"
    return ⟨command, data⟩

/-- How long the last request took, as the block counts it. -/
def readTime (engine : Engine) : Transaction ρ UInt32 := engine.fetch Sca.readTime

/-- A write and the fetch of its reply. -/
def exchange (engine : Engine) (request : Request) : Transaction ρ Reply := do
  engine.write request
  engine.read

/-- One exchange after the other, up to the first that fails. -/
def exchangeAll (engine : Engine) : List Request → Transaction ρ (List Reply)
  | [] => return []
  | request :: rest => do
    let reply ← engine.exchange request
    let replies ← engine.exchangeAll rest
    return reply :: replies

def reset (engine : Engine) : Transaction ρ Unit := do
  Bus.debug s!"SCA reset at offset {Text.hex engine.offset}"
  resetSteps.forM fun value => do
    engine.store control value
    engine.awaitIdle
  engine.store control idle

/-- Switches the general-purpose lines on and makes each an output. -/
def enableGpio (engine : Engine) : Transaction ρ Unit := do
  let _ ← engine.exchange ⟨Gpio.writeControlB, Gpio.enableMask⟩
  let _ ← engine.exchange ⟨Gpio.readControlB, Gpio.enableMask⟩
  engine.write ⟨Gpio.writeDirection, Gpio.allOutputs⟩
  let _ ← engine.exchange ⟨Gpio.readDirection, 0⟩
  return ()

/-- Brings the block into its working state. -/
def bringUp (engine : Engine) : Transaction ρ Unit := do
  engine.reset
  engine.enableGpio

/-- Drives the lines to `data` after bringing the block up; the reply holds the lines' input. -/
def writeGpio (engine : Engine) (data : UInt32) : Transaction ρ Reply := do
  engine.bringUp
  engine.write ⟨Gpio.writeOut, data⟩
  let _ ← engine.exchange ⟨Gpio.readOut, 0⟩
  engine.exchange ⟨Gpio.readDataIn, 0⟩

def readGpio (engine : Engine) : Transaction ρ Reply :=
  engine.exchange ⟨Gpio.readOut, 0⟩

end Engine

/-- What an engine can be asked to do. -/
inductive Operation where
  | bringUp
  | write (request : Request)
  | read
  | readTime
  | exchangeAll (requests : List Request)
  | writeGpio (data : UInt32)
  | readGpio
  deriving DecidableEq

inductive Answer where
  | done
  | word (value : UInt32)
  | reply (reply : Reply)
  | replies (replies : List Reply)
  deriving DecidableEq

def Engine.perform {ρ : Type} [RegisterPort ρ] (engine : Engine) : Operation → Transaction ρ Answer
  | .bringUp => do
    engine.bringUp
    return .done
  | .write request => do
    engine.write request
    return .done
  | .read => return .reply (← engine.read)
  | .readTime => return .word (← engine.readTime)
  | .exchangeAll requests => return .replies (← engine.exchangeAll requests)
  | .writeGpio data => return .reply (← engine.writeGpio data)
  | .readGpio => return .reply (← engine.readGpio)

end Readout.Sca
