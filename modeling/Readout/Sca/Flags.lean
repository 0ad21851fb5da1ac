import Readout.Text.Hex

/-! Error flags in the low byte of a reply's command word. -/

namespace Readout.Sca

inductive Flag where
  | generic | invalidChannel | invalidCommand | invalidTransactionNumber | invalidLength
  | channelNotEnabled | channelBusy
  deriving DecidableEq

namespace Flag

/-- In the order of their bits, from bit 0 on. -/
def all : List Flag :=
  [.generic, .invalidChannel, .invalidCommand, .invalidTransactionNumber, .invalidLength,
    .channelNotEnabled, .channelBusy]

def mask : Flag → UInt8
  | .generic => 0x01
  | .invalidChannel => 0x02
  | .invalidCommand => 0x04
  | .invalidTransactionNumber => 0x08
  | .invalidLength => 0x10
  | .channelNotEnabled => 0x20
  | .channelBusy => 0x40

def name : Flag → String
  | .generic => "generic error flag"
  | .invalidChannel => "invalid channel request"
  | .invalidCommand => "invalid command request"
  | .invalidTransactionNumber => "invalid transaction number"
  | .invalidLength => "invalid length"
  | .channelNotEnabled => "channel not enabled"
  | .channelBusy => "channel busy"

end Flag

/-- The bits that carry flags; the bit above them says nothing about errors. -/
def flagBits : UInt8 := 0x7f

/-- A whole status byte in which at least one flag is set. -/
structure Flags where
  code : UInt8
  code_ne_zero : code &&& flagBits ≠ 0
  deriving DecidableEq

namespace Flags

/-- No flags when none of the flag bits is set. -/
def ofCommand? (command : UInt32) : Option Flags :=
  if h : command.toUInt8 &&& flagBits ≠ 0 then some ⟨command.toUInt8, h⟩ else none

def contains (flags : Flags) (flag : Flag) : Bool := flags.code &&& flag.mask != 0

def toList (flags : Flags) : List Flag := Flag.all.filter flags.contains

def message (flags : Flags) : String :=
  s!"error code {Text.hexPadded 2 flags.code.toNat}: " ++
    ", ".intercalate (flags.toList.map Flag.name)

end Flags

end Readout.Sca
