import Readout.Channel.Transport

/-! Transports for trying a session out: one that is told what to answer, and one that never lands. -/

namespace Readout.Simulation

/-- Lengths in `landed` answer the next polls; `room` is how many more pages are taken, if limited. -/
structure ScriptedTransport where
  landed : List Nat
  room : Option Nat
  failsStart : Bool
  failsStop : Bool
  failsPoll : Bool
  deriving DecidableEq

namespace ScriptedTransport

def withRoom (room : Option Nat) : ScriptedTransport := ⟨[], room, false, false, false⟩

/-- More pages land, `count` of them, each with `length` bytes. -/
def complete (transport : ScriptedTransport) (length count : Nat) : ScriptedTransport :=
  { transport with landed := transport.landed ++ List.replicate count length }

/-- The register that a refused start names. -/
def startRegister : Nat := 9001

/-- The register that a refused stop names. -/
def stopRegister : Nat := 9002

def refuseIf (refused : Bool) (index : Nat) : Except Error Unit :=
  if refused then .error (.register (.writeProtected index)) else .ok ()

def pushPage (transport : ScriptedTransport) (page : Dma.Page) :
    Except Error Unit × ScriptedTransport :=
  (refuseIf (transport.room == some 0) page.fifoIndex,
    { transport with room := transport.room.map (· - 1) })

def pollPage (transport : ScriptedTransport) (page : Dma.Page) :
    Except Error (Option Nat) × ScriptedTransport :=
  if transport.failsPoll then (.error (.register (.outOfRange page.fifoIndex 0)), transport)
  else (.ok transport.landed.head?, { transport with landed := transport.landed.tail })

instance : PageTransport ScriptedTransport where
  start transport := (refuseIf transport.failsStart startRegister, transport)
  stop transport := (refuseIf transport.failsStop stopRegister, transport)
  pushPage := pushPage
  pollPage := pollPage

end ScriptedTransport

/-- Every page is taken and none ever lands. -/
structure BareTransport where
  deriving DecidableEq

instance : PageTransport BareTransport where
  pushPage transport _ := (.ok (), transport)
  pollPage transport _ := (.ok none, transport)

end Readout.Simulation
