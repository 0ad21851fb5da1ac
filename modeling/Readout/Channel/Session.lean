import Readout.Attempt
import Readout.Channel.Config
import Readout.Channel.Transport
import Readout.Dma.Flow
import Readout.Log

/-!
A channel that is locked and ready to run DMA. Pages of pushed superpages go to the transport while
the rings have room; what lands is credited to the oldest superpage that waits for it.
-/

namespace Readout

inductive RunState where
  | stopped | started
  deriving DecidableEq

def RunState.label : RunState → String
  | .stopped => "Stopped"
  | .started => "Started"

/-- An error of the channel, or a step that its bookkeeping does not allow. -/
inductive Failure where
  | error (error : Error)
  | fault (fault : Dma.FlowFault)
  deriving DecidableEq

structure Session (ρ τ : Type) where
  config : ChannelConfig
  lock : ChannelLock
  state : RunState
  flow : Dma.Flow
  transport : τ
  port : ρ
  log : Log

namespace Session

variable {ρ τ : Type}

/-- An operation on the session. -/
abbrev Act (ρ τ α : Type) := Attempt (Session ρ τ) Failure α

/-- The session as it is after opening: stopped, with nothing in its rings. -/
def fresh (config : ChannelConfig) (lock : ChannelLock) (tracker : Dma.Tracker) (port : ρ)
    (transport : τ) : Session ρ τ where
  config := config
  lock := lock
  state := .stopped
  flow := .empty config.bufferPages tracker
  transport := transport
  port := port
  log := []

def fail {α : Type} (error : Error) : Act ρ τ α := throw (.error error)

def info (text : String) : Act ρ τ Unit :=
  modify fun session => { session with log := session.log.info text }

def warn (text : String) : Act ρ τ Unit :=
  modify fun session => { session with log := session.log.warn text }

def setState (state : RunState) : Act ρ τ Unit :=
  modify fun session => { session with state := state }

/-- A call to the transport. -/
def call {α : Type} (f : τ → Except Error α × τ) : Act ρ τ α :=
  .of fun session =>
    let (result, transport) := f session.transport
    (result.mapError .error, { session with transport := transport })

/-- A step of the flow that may not be allowed. -/
def advance {α : Type} (f : Dma.Flow → Except Dma.FlowFault α × Dma.Flow) : Act ρ τ α :=
  .of fun session =>
    let (result, flow) := f session.flow
    (result.mapError .fault, { session with flow := flow })

/-- A step of the flow that is always allowed. -/
def updateFlow {α : Type} (f : Dma.Flow → α × Dma.Flow) : Act ρ τ α :=
  .of fun session =>
    let (answer, flow) := f session.flow
    (.ok answer, { session with flow := flow })

/-- An error of the act as an answer, so that what follows is done; a fault still ends all. -/
def settle {α : Type} (act : Act ρ τ α) : Act ρ τ (Except Error α) :=
  .of fun session =>
    match act.on session with
    | (.ok answer, session) => (.ok (.ok answer), session)
    | (.error (.error error), session) => (.ok (.error error), session)
    | (.error (.fault fault), session) => (.error (.fault fault), session)

/-- A result that was settled before becomes the act's own. -/
def conclude {α : Type} (result : Except Error α) : Act ρ τ α :=
  .of fun session => (result.mapError .error, session)

@[simp] theorem on_fail {α : Type} (error : Error) (session : Session ρ τ) :
    (fail error : Act ρ τ α).on session = (.error (.error error), session) := rfl

@[simp] theorem on_info (text : String) (session : Session ρ τ) :
    (info text).on session = (.ok (), { session with log := session.log.info text }) := rfl

@[simp] theorem on_warn (text : String) (session : Session ρ τ) :
    (warn text).on session = (.ok (), { session with log := session.log.warn text }) := rfl

@[simp] theorem on_setState (state : RunState) (session : Session ρ τ) :
    (setState state).on session = (.ok (), { session with state := state }) := rfl

@[simp] theorem on_call {α : Type} (f : τ → Except Error α × τ) (session : Session ρ τ) :
    (call f).on session =
      ((f session.transport).1.mapError .error,
        { session with transport := (f session.transport).2 }) := rfl

@[simp] theorem on_advance {α : Type} (f : Dma.Flow → Except Dma.FlowFault α × Dma.Flow)
    (session : Session ρ τ) :
    (advance f).on session =
      ((f session.flow).1.mapError .fault, { session with flow := (f session.flow).2 }) := rfl

@[simp] theorem on_updateFlow {α : Type} (f : Dma.Flow → α × Dma.Flow) (session : Session ρ τ) :
    (updateFlow f).on session =
      (.ok (f session.flow).1, { session with flow := (f session.flow).2 }) := rfl

theorem on_settle_of_ok {α : Type} {act : Act ρ τ α} {session next : Session ρ τ} {answer : α}
    (h : act.on session = (.ok answer, next)) :
    (settle act).on session = (.ok (.ok answer), next) := by
  simp [settle, h]

theorem on_settle_of_error {α : Type} {act : Act ρ τ α} {session next : Session ρ τ}
    {error : Error} (h : act.on session = (.error (.error error), next)) :
    (settle act).on session = (.ok (.error error), next) := by
  simp [settle, h]

theorem on_settle_of_fault {α : Type} {act : Act ρ τ α} {session next : Session ρ τ}
    {fault : Dma.FlowFault} (h : act.on session = (.error (.fault fault), next)) :
    (settle act).on session = (.error (.fault fault), next) := by
  simp [settle, h]

@[simp] theorem on_conclude {α : Type} (result : Except Error α) (session : Session ρ τ) :
    (conclude result).on session = (result.mapError .error, session) := rfl

/-- The oldest superpage that is over. -/
def front (session : Session ρ τ) : Option Dma.Superpage := session.flow.tracker.front

/-- Takes the oldest superpage that is over. -/
def pop : Act ρ τ Dma.Superpage := do
  match (← get).flow.tracker.pop with
  | .error error => fail (.dma error)
  | .ok (superpage, tracker) =>
    updateFlow fun flow => (superpage, { flow with tracker := tracker })

/-- The superpage ends inside the buffer, and its end is an offset. -/
def isInBuffer (bufferSize : Nat) (superpage : Dma.Superpage) : Bool :=
  decide (superpage.offset + superpage.size < Dma.byteBound) &&
    decide (superpage.offset + superpage.size ≤ bufferSize)

variable [PageTransport τ]

/-- Hands out pages, at most `n`; a page that the transport refuses stays the next one. -/
def pushPages : Nat → Act ρ τ Unit
  | 0 => pure ()
  | n + 1 => do
    match (← get).flow.nextPage? with
    | none => pure ()
    | some page =>
      call (PageTransport.pushPage · page)
      advance (·.handOut page)
      pushPages n

/-- Hands out pages for as long as there are some and the rings have room. -/
def refill : Act ρ τ Unit := do
  pushPages (← get).flow.ring.free

/-- Asks for pages in flight one after the other, up to the first that has not landed. -/
def collect : List Dma.Page → Act ρ τ Unit
  | [] => pure ()
  | page :: rest => do
    match ← call (PageTransport.pollPage · page) with
    | none => pure ()
    | some length =>
      let credited ← advance (·.land page length)
      match credited with
      | .ok _ => collect rest
      | .error error => fail (.dma error)

/-- Credits the pages that have landed. -/
def collectArrivals : Act ρ τ Unit := do
  collect (← get).flow.inFlight

/-- Begins a run with empty rings and queues; on a started channel nothing is done. -/
def start : Act ρ τ Unit := do
  let session ← get
  match session.state with
  | .started => warn "DMA already started. Ignoring start_dma() call"
  | .stopped =>
    info s!"Starting DMA on channel {session.config.channel.toNat}"
    updateFlow fun flow => ((), flow.clear)
    call PageTransport.start
    setState .started

/--
Ends the run: what has landed is credited and every superpage goes to the ready queue. All of this
is done whatever errors are met on the way; the first of them is the result.
-/
def stop : Act ρ τ Unit := do
  let session ← get
  match session.state with
  | .stopped => warn "DMA already stopped. Ignoring stop_dma() call"
  | .started =>
    info s!"Stopping DMA on channel {session.config.channel.toNat}"
    let collected ← settle collectArrivals
    let _ ← updateFlow Dma.Flow.promote
    let halted ← settle (call PageTransport.stop)
    let cut ← updateFlow Dma.Flow.finish
    if 0 < cut then
      warn s!"{cut} superpage(s) still in transfer moved to the ready queue"
    setState .stopped
    conclude collected
    conclude halted

/-- Queues a superpage and hands out pages; a refusal by the transport is left to the next fill. -/
def push (superpage : Dma.Superpage) : Act ρ τ Unit := do
  let session ← get
  let bufferSize := session.config.buffer.size
  if session.state = .stopped then fail (.dma .notStarted)
  else if !isInBuffer bufferSize superpage then
    fail (.dma (.outOfRange superpage.offset superpage.size bufferSize))
  else if superpage.offset % offsetAlignment ≠ 0 then
    fail (.dma (.misalignedOffset superpage.offset))
  else
    match session.flow.tracker.push superpage with
    | .error error => fail (.dma error)
    | .ok tracker =>
      updateFlow fun flow => ((), { flow with tracker := tracker })
      match ← settle refill with
      | .ok _ => pure ()
      | .error error => warn s!"Page push deferred to the next fill: {error.message}"

/-- Credits what has landed, promotes what is complete and hands out pages again. -/
def fill : Act ρ τ Nat := do
  if (← get).state = .stopped then fail (.dma .notStarted)
  else
    collectArrivals
    let promoted ← updateFlow Dma.Flow.promote
    refill
    return promoted

end Session

end Readout
