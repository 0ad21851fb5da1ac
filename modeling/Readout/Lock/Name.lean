/-! Names of locks and of the sockets that stand for them. -/

namespace Readout.Lock

/-- The hash that multiplies by 33 and adds each byte, modulo `2 ^ 64`. -/
def djb2 (bytes : List UInt8) : UInt64 :=
  bytes.foldl (fun hash byte => hash * 33 + byte.toUInt64) 5381

/-- A name of this many bytes or more is too long for a socket. -/
def socketNameLimit : Nat := 104

/-- How many characters of a long name stay readable. -/
def keptCharacters : Nat := 17

/-- Every lock name ends in this. -/
def nameEnding : String := "_lock"

/-- Every lock name of a DMA channel starts with this. -/
def dmaClass : String := "ReadoutCard_DMA_"

def bytes (name : String) : List UInt8 := name.toUTF8.data.toList

/-- The start of a long name, the hash of all its bytes and the common ending. -/
def hashedName (name : String) : String :=
  String.ofList (name.toList.take keptCharacters) ++ toString (djb2 (bytes name)).toNat ++ nameEnding

/-- A lock is claimed by binding this name. -/
def socketName (name : String) : String :=
  if name.utf8ByteSize < socketNameLimit then name else hashedName name

@[simp] theorem djb2_concat (bytes : List UInt8) (byte : UInt8) :
    djb2 (bytes ++ [byte]) = djb2 bytes * 33 + byte.toUInt64 := by
  simp [djb2]

theorem socketName_of_lt {name : String} (h : name.utf8ByteSize < socketNameLimit) :
    socketName name = name := by
  simp [socketName, h]

theorem socketName_of_le {name : String} (h : socketNameLimit ≤ name.utf8ByteSize) :
    socketName name = hashedName name := by
  simp [socketName, Nat.not_lt.2 h]

end Readout.Lock
