import Readout.Sca.Word

/-! Commands for the general-purpose lines: channel, transaction id and opcode in one word. -/

namespace Readout.Sca.Gpio

def writeControlB : UInt32 := 0x00010002
def readControlB : UInt32 := 0x00020003
def writeDirection : UInt32 := 0x02030020
def readDirection : UInt32 := 0x02040021
def writeOut : UInt32 := 0x02040010
def readOut : UInt32 := 0x02050011
def readDataIn : UInt32 := 0x02060001

/-- The bits of control register B that switch the lines on. -/
def enableMask : UInt32 := 0xff000000

/-- The direction word that makes every line an output. -/
def allOutputs : UInt32 := 0xffffffff

end Readout.Sca.Gpio
