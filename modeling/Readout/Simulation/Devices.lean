import Readout.Channel.Loopback
import Readout.Channel.Recorder
import Readout.Register.Blank
import Readout.Register.Mapped
import Readout.Simulation.ScriptedPort
import Readout.Simulation.ScriptedTransport

/-! The ports and transports that a session can be tried out on, each kind of them as one type. -/

namespace Readout.Simulation

inductive Port where
  | scripted (port : ScriptedPort)
  | blank (port : Register.BlankPort)
  | mapped (window : Register.MappedWindow)

namespace Port

def read (port : Port) (index : Nat) : Except RegisterError UInt32 × Port :=
  match port with
  | .scripted port => (RegisterPort.read port index).map id .scripted
  | .blank port => (RegisterPort.read port index).map id .blank
  | .mapped window => (RegisterPort.read window index).map id .mapped

def write (port : Port) (index : Nat) (word : UInt32) : Except RegisterError Unit × Port :=
  match port with
  | .scripted port => (RegisterPort.write port index word).map id .scripted
  | .blank port => (RegisterPort.write port index word).map id .blank
  | .mapped window => (RegisterPort.write window index word).map id .mapped

instance : RegisterPort Port := ⟨read, write⟩

/-- Only a scripted port can be changed from outside. -/
def adjust (port : Port) (f : ScriptedPort → ScriptedPort) : Port :=
  match port with
  | .scripted port => .scripted (f port)
  | port => port

/-- The accesses since they were last taken, oldest first; only a scripted port keeps them. -/
def takeAccesses : Port → List Access × Port
  | .scripted port => (port.accesses.reverse, .scripted { port with accesses := [] })
  | port => ([], port)

/-- The scripted words that no read has taken, by register. -/
def unread : Port → List (Nat × List UInt32)
  | .scripted port =>
    (port.script.filter (!·.2.isEmpty)).mergeSort (fun a b => decide (a.1 ≤ b.1))
  | _ => []

def window? : Port → Option Register.MappedWindow
  | .mapped window => some window
  | _ => none

end Port

inductive Transport where
  | scripted (recorder : Recorder ScriptedTransport)
  | loopback (transport : Loopback)
  | bare (transport : BareTransport)

namespace Transport

def start : Transport → Except Error Unit × Transport
  | .scripted transport => (PageTransport.start transport).map id .scripted
  | .loopback transport => (PageTransport.start transport).map id .loopback
  | .bare transport => (PageTransport.start transport).map id .bare

def stop : Transport → Except Error Unit × Transport
  | .scripted transport => (PageTransport.stop transport).map id .scripted
  | .loopback transport => (PageTransport.stop transport).map id .loopback
  | .bare transport => (PageTransport.stop transport).map id .bare

def pushPage (transport : Transport) (page : Dma.Page) : Except Error Unit × Transport :=
  match transport with
  | .scripted transport => (PageTransport.pushPage transport page).map id .scripted
  | .loopback transport => (PageTransport.pushPage transport page).map id .loopback
  | .bare transport => (PageTransport.pushPage transport page).map id .bare

def pollPage (transport : Transport) (page : Dma.Page) : Except Error (Option Nat) × Transport :=
  match transport with
  | .scripted transport => (PageTransport.pollPage transport page).map id .scripted
  | .loopback transport => (PageTransport.pollPage transport page).map id .loopback
  | .bare transport => (PageTransport.pollPage transport page).map id .bare

instance : PageTransport Transport := ⟨start, stop, pushPage, pollPage⟩

/-- Only a scripted transport can be changed from outside. -/
def adjust (transport : Transport) (f : ScriptedTransport → ScriptedTransport) : Transport :=
  match transport with
  | .scripted recorder => .scripted { recorder with transport := f recorder.transport }
  | transport => transport

/-- The calls since they were last taken; only a scripted transport keeps them. -/
def takeCalls : Transport → List TransportCall × Transport
  | .scripted recorder => (recorder.calls, .scripted { recorder with calls := [] })
  | transport => ([], transport)

def loopback? : Transport → Option Loopback
  | .loopback transport => some transport
  | _ => none

end Transport

end Readout.Simulation
