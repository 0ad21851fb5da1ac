import Readout.Channel.Transport

/-! A transport that keeps the calls made on it. -/

namespace Readout

/-- A call on a transport with the answer that it got. -/
inductive TransportCall where
  | start (answer : Except Error Unit)
  | stop (answer : Except Error Unit)
  | push (page : Dma.Page) (answer : Except Error Unit)
  | poll (page : Dma.Page) (answer : Except Error (Option Nat))

/-- Calls are kept oldest first; they change nothing in what the transport answers. -/
structure Recorder (τ : Type) where
  transport : τ
  calls : List TransportCall

namespace Recorder

variable {τ : Type}

def on (transport : τ) : Recorder τ := ⟨transport, []⟩

/-- The answer to a call, kept under the name of the call. -/
def keep {α : Type} (recorder : Recorder τ) (call : Except Error α → TransportCall)
    (outcome : Except Error α × τ) : Except Error α × Recorder τ :=
  (outcome.1, ⟨outcome.2, recorder.calls ++ [call outcome.1]⟩)

instance [PageTransport τ] : PageTransport (Recorder τ) where
  start recorder := recorder.keep .start (PageTransport.start recorder.transport)
  stop recorder := recorder.keep .stop (PageTransport.stop recorder.transport)
  pushPage recorder page :=
    recorder.keep (.push page) (PageTransport.pushPage recorder.transport page)
  pollPage recorder page :=
    recorder.keep (.poll page) (PageTransport.pollPage recorder.transport page)

@[simp] theorem calls_keep {α : Type} (recorder : Recorder τ)
    (call : Except Error α → TransportCall) (outcome : Except Error α × τ) :
    (recorder.keep call outcome).2.calls = recorder.calls ++ [call outcome.1] := rfl

end Recorder

end Readout
