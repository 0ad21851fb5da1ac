import Readout.Channel.Session

/-! Opening a channel takes its lock, and closing it gives the lock back. -/

namespace Readout

/-- Why an opening cannot return: its wait for the lock has no end, or no memory has room for the
queues. -/
inductive OpeningFault where
  | deadline (overflow : Deadline.Overflow)
  | capacity (overflow : CapacityOverflow)
  deriving DecidableEq

def OpeningFault.message : OpeningFault → String
  | .deadline overflow => overflow.message
  | .capacity overflow => overflow.message

/-- The outcome of opening a channel, with the clock and the host that it leaves. -/
structure Opening (ρ τ η : Type) where
  result : Except OpeningFault (Except Error (Session ρ τ))
  clock : Clock
  host : η

namespace Session

variable {ρ τ η : Type}

/--
An unusable configuration is refused before the lock is asked for; room for the queues is set aside
once the lock is held, which is given back if there is none.
-/
def openOn [Host η] (config : ChannelConfig) (port : ρ) (transport : τ) (clock : Clock) (host : η) :
    Opening ρ τ η :=
  match config.validate with
  | .error error => ⟨.ok (.error (.config error)), clock, host⟩
  | .ok _ =>
    let host := Sockets.info host
      s!"Acquiring DMA channel lock for {config.card.name} channel {config.channel.toNat}"
    let acquisition := ChannelLock.acquire config.lockName config.lockMode clock host
    match acquisition.result with
    | .error overflow => ⟨.error (.deadline overflow), acquisition.clock, acquisition.host⟩
    | .ok (.error error) => ⟨.ok (.error (.lock error)), acquisition.clock, acquisition.host⟩
    | .ok (.ok lock) =>
      match Dma.Tracker.allocate config.pageSize config.transferCapacity config.readyCapacity with
      | .error overflow =>
        ⟨.error (.capacity overflow), acquisition.clock, lock.release acquisition.host⟩
      | .ok tracker =>
        ⟨.ok (.ok (.fresh config lock tracker port transport)), acquisition.clock, acquisition.host⟩

variable [PageTransport τ]

/-- A run that is still going on is ended, whether or not the transport can be stopped. -/
def endRun (session : Session ρ τ) : Session ρ τ :=
  match session.state with
  | .stopped => session
  | .started =>
    match PageTransport.stop session.transport with
    | (.ok _, transport) => { session with transport := transport, state := .stopped }
    | (.error error, transport) =>
      { session with
        transport := transport
        state := .stopped
        log := session.log.warn s!"Failed to stop DMA on close: {error.message}" }

/-- The superpages that a closing session drops: those in transfer and those that are over. -/
def leftovers (session : Session ρ τ) : Nat × Nat :=
  (session.flow.tracker.transfer.length, session.flow.tracker.ready.length)

/-- The session's last records. -/
def farewell (session : Session ρ τ) : Log :=
  let (transfer, ready) := session.leftovers
  let log :=
    if 0 < transfer ∨ 0 < ready then
      session.log.warn
        s!"Closing with superpages left: {transfer} in transfer, {ready} ready"
    else session.log
  log.info s!"Releasing DMA channel lock for channel {session.config.channel.toNat}"

/-- Ends the run and then gives the lock back; the port and the transport outlive the session. -/
def close [Sockets η] (session : Session ρ τ) (host : η) : ρ × τ × η :=
  let session := session.endRun
  (session.port, session.transport,
    session.lock.release (Sockets.recordAll host session.farewell))

end Session

end Readout
