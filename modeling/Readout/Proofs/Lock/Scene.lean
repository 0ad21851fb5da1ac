import Readout.Channel.Lifecycle
import Readout.Proofs.Lock.Kernel
import Readout.Proofs.Session.Kept
import Readout.Proofs.Time.Polling

/-!
Any number of parties that acquire and drop locks and open and close sessions on one system. A party
that waits for a lock gives way to the others at each of its delays. What they do then is a list of
moves; one of them that is waiting as well shows up in it with the attempt that takes its name,
since its other attempts change nothing.
-/

namespace Readout

/-- What a party does with its locks and its sessions. -/
inductive Move (ρ τ : Type) where
  | acquire (name : String) (mode : LockMode) (clock : Clock)
  | drop (index : Nat)
  | enter (config : ChannelConfig) (port : ρ) (transport : τ) (clock : Clock)
  | operate (index : Nat) (operation : Operation)
  | leave (index : Nat)

/--
The system with the locks and the sessions that all parties hold together, and with the moves that
others make during each of the coming delays.
-/
structure Scene (κ ρ τ : Type) where
  kernel : κ
  locks : List ChannelLock
  sessions : List (Session ρ τ)
  coming : List (List (Move ρ τ))

namespace Scene

variable {κ ρ τ : Type}

/-- What is done to the kernel of the scene. -/
def onKernel {α : Type} (scene : Scene κ ρ τ) (f : κ → α × κ) : α × Scene κ ρ τ :=
  ((f scene.kernel).1, { scene with kernel := (f scene.kernel).2 })

instance [Sockets κ] : Sockets (Scene κ ρ τ) where
  make scene := scene.onKernel Sockets.make
  bind scene name := scene.onKernel (Sockets.bind · name)
  close scene name := { scene with kernel := Sockets.close scene.kernel name }
  record scene record := { scene with kernel := Sockets.record scene.kernel record }

/-- The scene as a place to wait in, given what happens during a delay. -/
@[reducible] def host [Sockets κ] (delay : Scene κ ρ τ → Scene κ ρ τ) : Host (Scene κ ρ τ) where
  delay scene _ := delay scene

variable [Sockets κ] [PageTransport τ]

/-- The move, with whatever happens during the delays of a party that waits. -/
def move (delay : Scene κ ρ τ → Scene κ ρ τ) (scene : Scene κ ρ τ) : Move ρ τ → Scene κ ρ τ
  | .acquire name mode clock =>
    let acquisition := @ChannelLock.acquire _ (host delay) name mode clock scene
    match acquisition.result with
    | .ok (.ok lock) => { acquisition.host with locks := acquisition.host.locks ++ [lock] }
    | _ => acquisition.host
  | .drop index =>
    match scene.locks[index]? with
    | none => scene
    | some lock => lock.release { scene with locks := scene.locks.eraseIdx index }
  | .enter config port transport clock =>
    let opening := @Session.openOn _ _ _ (host delay) config port transport clock scene
    match opening.result with
    | .ok (.ok session) => { opening.host with sessions := opening.host.sessions ++ [session] }
    | _ => opening.host
  | .operate index operation =>
    { scene with sessions := scene.sessions.modify index fun session =>
        (session.perform operation).2 }
  | .leave index =>
    match scene.sessions[index]? with
    | none => scene
    | some session =>
      (session.close { scene with sessions := scene.sessions.eraseIdx index }).2.2

/-- The moves one after the other, with nobody else about. -/
def act (moves : List (Move ρ τ)) (scene : Scene κ ρ τ) : Scene κ ρ τ :=
  moves.foldl (move id) scene

/-- A delay passes, and with it the moves that others make during it. -/
def pass (scene : Scene κ ρ τ) : Scene κ ρ τ :=
  match scene.coming with
  | [] => scene
  | moves :: rest => { scene with coming := rest }.act moves

instance : Host (Scene κ ρ τ) := host pass

/-- The scene with others about, who make these moves during the delays that follow. -/
def expecting (scene : Scene κ ρ τ) (coming : List (List (Move ρ τ))) : Scene κ ρ τ :=
  { scene with coming := coming }

/-- Moves in turn, each with those that others make during its delays. -/
def run (calls : List (Move ρ τ × List (List (Move ρ τ)))) (scene : Scene κ ρ τ) :
    Scene κ ρ τ :=
  calls.foldl (fun scene call => (scene.expecting call.2).move pass call.1) scene

/-- Nobody holds anything. -/
def empty (kernel : κ) : Scene κ ρ τ := ⟨kernel, [], [], []⟩

end Scene

end Readout
