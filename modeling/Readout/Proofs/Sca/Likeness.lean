import Readout.Proofs.Attempt
import Readout.Proofs.Sca.Block

/-!
What an engine does on a bus depends on what the registers of its block answer. So on two buses that
are alike in these, in whatever else they differ, every operation gives the same and leaves them
alike, unless it fails in a way that has to do with what they differ in.
-/

namespace Readout.Sca

open Attempt

variable {ρ ρ' : Type} [RegisterPort ρ] [RegisterPort ρ']

/-- A relation of buses that the operations of the engine cannot tell apart: records do not matter
to it, and each access to the block gives the same on both and keeps them alike, unless a failure
spoils it. -/
structure Engine.Likeness (engine : Engine) (spoils : Failure → Prop)
    (alike : Bus ρ → Bus ρ' → Prop) : Prop where
  withLog : ∀ {bus other}, alike bus other → ∀ f : Log → Log,
    alike { bus with log := f bus.log } { other with log := f other.log }
  store : ∀ register ∈ writeRegisters, ∀ value,
    MatchesUnless spoils alike (engine.store register value) (engine.store register value)
  fetch : ∀ register ∈ readRegisters,
    MatchesUnless spoils alike (engine.fetch register) (engine.fetch register)
  await : ∀ timeout late, ∀ register ∈ readRegisters, ∀ isDone,
    MatchesUnless spoils alike (Bus.await timeout late (engine.offset + register) isDone)
      (Bus.await timeout late (engine.offset + register) isDone)

namespace Engine.Likeness

variable {engine : Engine} {spoils : Failure → Prop} {alike : Bus ρ → Bus ρ' → Prop}

theorem debug (h : engine.Likeness spoils alike) (text : String) :
    MatchesUnless spoils alike (Bus.debug text) (Bus.debug text) :=
  fun _ _ ha _ _ => ⟨rfl, h.withLog ha fun log => log.debug text⟩

theorem warn (h : engine.Likeness spoils alike) (text : String) :
    MatchesUnless spoils alike (Bus.warn text) (Bus.warn text) :=
  fun _ _ ha _ _ => ⟨rfl, h.withLog ha fun log => log.warn text⟩

theorem awaitIdle (h : engine.Likeness spoils alike) :
    MatchesUnless spoils alike engine.awaitIdle engine.awaitIdle :=
  h.await _ _ readBusy (by decide) _

theorem awaitChannel (h : engine.Likeness spoils alike) :
    MatchesUnless spoils alike engine.awaitChannel engine.awaitChannel :=
  h.await _ _ readCommand (by decide) _

theorem strobe (h : engine.Likeness spoils alike) :
    MatchesUnless spoils alike engine.strobe engine.strobe :=
  (h.store control (by decide) execute).bind fun _ =>
    (h.store control (by decide) idle).bind fun _ => h.awaitIdle

theorem write (h : engine.Likeness spoils alike) (request : Request) :
    MatchesUnless spoils alike (engine.write request) (engine.write request) := by
  refine .ite ((matches_throw _).unless _) ?_
  refine (h.debug _).bind fun _ => (h.store writeData (by decide) _).bind fun _ => ?_
  exact (h.store writeCommand (by decide) _).bind fun _ => h.strobe

theorem read (h : engine.Likeness spoils alike) :
    MatchesUnless spoils alike engine.read engine.read := by
  refine (h.fetch readData (by decide)).bind fun data => ?_
  refine (h.fetch readCommand (by decide)).bind fun command => h.awaitChannel.bind fun _ => ?_
  cases Flags.ofCommand? command with
  | some flags => exact (h.warn _).bind fun _ => (matches_throw _).unless _
  | none => exact (h.debug _).bind fun _ => (matches_pure _).unless _

theorem readTime (h : engine.Likeness spoils alike) :
    MatchesUnless spoils alike engine.readTime engine.readTime :=
  h.fetch Sca.readTime (by decide)

theorem exchange (h : engine.Likeness spoils alike) (request : Request) :
    MatchesUnless spoils alike (engine.exchange request) (engine.exchange request) :=
  (h.write request).bind fun _ => h.read

theorem exchangeAll (h : engine.Likeness spoils alike) (requests : List Request) :
    MatchesUnless spoils alike (engine.exchangeAll requests) (engine.exchangeAll requests) := by
  induction requests with
  | nil => exact (matches_pure _).unless _
  | cons request rest ih =>
    exact (h.exchange request).bind fun _ => ih.answer _

theorem reset (h : engine.Likeness spoils alike) :
    MatchesUnless spoils alike engine.reset engine.reset := by
  have hstep (value : UInt32) : MatchesUnless spoils alike
      (engine.store control value >>= fun _ => engine.awaitIdle)
      (engine.store control value >>= fun _ => engine.awaitIdle) :=
    (h.store control (by decide) value).bind fun _ => h.awaitIdle
  exact (h.debug _).bind fun _ => (MatchesUnless.forM hstep resetSteps).bind fun _ =>
    h.store control (by decide) idle

theorem enableGpio (h : engine.Likeness spoils alike) :
    MatchesUnless spoils alike engine.enableGpio engine.enableGpio :=
  (h.exchange _).bind fun _ => (h.exchange _).bind fun _ => (h.write _).bind fun _ =>
    (h.exchange _).answer _

theorem bringUp (h : engine.Likeness spoils alike) :
    MatchesUnless spoils alike engine.bringUp engine.bringUp :=
  h.reset.bind fun _ => h.enableGpio

theorem writeGpio (h : engine.Likeness spoils alike) (data : UInt32) :
    MatchesUnless spoils alike (engine.writeGpio data) (engine.writeGpio data) :=
  h.bringUp.bind fun _ => (h.write _).bind fun _ => (h.exchange _).bind fun _ => h.exchange _

/-- Every operation gives the same on alike buses, unless that is spoilt, and leaves them alike. -/
theorem perform (h : engine.Likeness spoils alike) (operation : Operation) :
    MatchesUnless spoils alike (engine.perform operation) (engine.perform operation) := by
  cases operation with
  | bringUp => exact h.bringUp.answer _
  | write request => exact (h.write request).answer _
  | read => exact h.read.answer _
  | readTime => exact h.readTime.answer _
  | exchangeAll requests => exact (h.exchangeAll requests).answer _
  | writeGpio data => exact (h.writeGpio data).answer _
  | readGpio => exact (h.exchange _).answer _

end Engine.Likeness

end Readout.Sca
