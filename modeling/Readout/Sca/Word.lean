/-! Register indices and command words of the slow-control block of one link. -/

namespace Readout.Sca

/-! Register indices, in words from the start of the link's block. -/

def writeData : Nat := 8
def writeCommand : Nat := 9
def control : Nat := 10
def readData : Nat := 12
def readCommand : Nat := 13
def readBusy : Nat := 14
def readTime : Nat := 15

/-! Values of the control register. -/

def execute : UInt32 := 4
def idle : UInt32 := 0

/-- The block is waited for after each of these, before the register goes back to idle. -/
def resetSteps : List UInt32 := [1, 2, 1]

/-- The bit of the busy register that is set while a transaction runs. -/
def busyBit : UInt32 := 31

/-- The low byte of a reply while the channel is still busy. -/
def channelBusyCode : UInt32 := 0x40

structure Request where
  command : UInt32
  data : UInt32
  deriving DecidableEq

structure Reply where
  command : UInt32
  data : UInt32
  deriving DecidableEq

def transactionId (command : UInt32) : UInt8 := (command >>> 16).toUInt8

/-- The block keeps the lowest and the highest transaction id for itself. -/
def isReserved (id : UInt8) : Bool := id == 0x00 || id == 0xff

def isChannelBusy (command : UInt32) : Bool := command &&& 0xff == channelBusyCode

end Readout.Sca
