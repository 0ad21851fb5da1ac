import Readout.Proofs.Session.Faults
import Readout.Proofs.Session.Moment
import Readout.Simulation.ScriptedTransport

/-!
The protocol that a session keeps with its transport from the opening to the closing: what was
started is stopped once before it is started again, pages are offered and asked for only in between,
and only the oldest page that is out is asked for.
-/

namespace Readout

open Dma

/-- Where a transport stands. The pages that are out of a running one are those that it took since it
was started and has not reported yet, oldest first. -/
inductive Phase where
  | stopped
  | running (out : List Page)
  deriving DecidableEq

namespace Phase

/-- What a call makes of the phase in which it comes; a call that is out of place leads nowhere. -/
def next : Phase → TransportCall → Option Phase
  | .stopped, .start (.ok _) => some (.running [])
  | .stopped, .start (.error _) => some .stopped
  | .running _, .stop _ => some .stopped
  | .running out, .push page (.ok _) => some (.running (out ++ [page]))
  | .running out, .push _ (.error _) => some (.running out)
  | .running (oldest :: rest), .poll page (.ok (some _)) =>
    if page = oldest then some (.running rest) else none
  | .running (oldest :: rest), .poll page _ =>
    if page = oldest then some (.running (oldest :: rest)) else none
  | _, _ => none

/-- Where calls lead that find a stopped transport, if each of them is in its place. -/
def after (calls : List TransportCall) : Option Phase := calls.foldlM next .stopped

theorem after_concat {calls : List TransportCall} {phase : Phase} (h : after calls = some phase)
    (call : TransportCall) : after (calls ++ [call]) = phase.next call := by
  unfold after at h ⊢
  rw [List.foldlM_append, h]
  simp

theorem next_poll_of_head {out : List Page} {page : Page} (h : out.head? = some page)
    {answer : Except Error (Option Nat)} (ha : ∀ length, answer ≠ .ok (some length)) :
    (running out).next (.poll page answer) = some (.running out) := by
  obtain ⟨rest, rfl⟩ := List.head?_eq_some_iff.mp h
  rcases answer with error | _ | length
  · simp [next]
  · simp [next]
  · exact absurd rfl (ha length)

theorem next_poll_of_landed {out : List Page} {page : Page} (h : out.head? = some page)
    (length : Nat) :
    (running out).next (.poll page (.ok (some length))) = some (.running out.tail) := by
  obtain ⟨rest, rfl⟩ := List.head?_eq_some_iff.mp h
  simp [next]

end Phase

namespace Session

variable {ρ τ : Type}

/-- The phase that the session takes its transport to be in. -/
def phase (session : Session ρ τ) : Phase :=
  match session.state with
  | .stopped => .stopped
  | .started => .running session.flow.inFlight

theorem phase_of_stopped {session : Session ρ τ} (h : session.state = .stopped) :
    session.phase = .stopped := by
  rw [phase, h]

theorem phase_of_started {session : Session ρ τ} (h : session.state = .started) :
    session.phase = .running session.flow.inFlight := by
  rw [phase, h]

end Session

namespace Account

open Session

variable {ρ τ : Type} {account after : Account ρ (Recorder τ)}

/-- The calls have led to the phase that the session takes its transport to be in. -/
def InPhase (account : Account ρ (Recorder τ)) : Prop :=
  Phase.after account.calls = some account.session.phase

/-- One more call, and the phase that it leads to. -/
theorem InPhase.call (h : account.InPhase) {call : TransportCall} {found left : Phase}
    (hcalls : after.session.transport.calls = account.session.transport.calls ++ [call])
    (hfound : account.session.phase = found) (hleft : after.session.phase = left)
    (hnext : found.next call = some left) : after.InPhase := by
  unfold InPhase calls at h ⊢
  rw [hcalls, Phase.after_concat h, hfound, hnext, hleft]

variable [PageTransport τ]

theorem InPhase.step (step : Step account after) (h : account.InPhase) : after.InPhase := by
  cases step with
  | note => exact h
  | begin hs ha => exact h.call (Recorder.calls_start ha) (phase_of_stopped hs) rfl rfl
  | refuse hs ha =>
    exact h.call (Recorder.calls_start ha) (phase_of_stopped hs) (phase_of_stopped hs) rfl
  | accept => exact h
  | pageRefused hs _ hp =>
    exact h.call (Recorder.calls_pushPage hp) (phase_of_started hs) (phase_of_started hs) rfl
  | pageTaken hs hn hp hf =>
    obtain ⟨-, rfl⟩ := Prod.mk.inj ((Flow.handOut_of_nextPage hn).symm.trans hf)
    exact h.call (Recorder.calls_pushPage hp) (phase_of_started hs) (phase_of_started hs) rfl
  | pollFailed hs hp hc =>
    exact h.call (Recorder.calls_pollPage hc) (phase_of_started hs) (phase_of_started hs)
      (Phase.next_poll_of_head hp nofun)
  | pageOut hs hp hc =>
    exact h.call (Recorder.calls_pollPage hc) (phase_of_started hs) (phase_of_started hs)
      (Phase.next_poll_of_head hp nofun)
  | pageLanded hs hp hc hf =>
    have htail := (Flow.land_eq_ok_iff.mp hf).2.2.2
    apply h.call (Recorder.calls_pollPage hc) (phase_of_started hs) (phase_of_started hs)
    rw [htail]
    exact Phase.next_poll_of_landed hp _
  | promote => exact h
  | finish hs ha => exact h.call (Recorder.calls_stop ha) (phase_of_started hs) rfl rfl
  | pop => exact h

theorem InPhase.path (path : Path account after) (h : account.InPhase) : after.InPhase :=
  path.keeps InPhase.step h

end Account

namespace Session

variable {ρ τ σ : Type}

/-- The calls have led to where the session can still be closed. -/
def Closable (session : Session ρ (Recorder τ)) : Prop :=
  match session.state with
  | .stopped => Phase.after session.transport.calls = some .stopped
  | .started => ∃ out, Phase.after session.transport.calls = some (.running out)

theorem closable_of_inPhase {session : Session ρ (Recorder τ)} {ledger : Ledger}
    (h : Account.InPhase ⟨session, ledger⟩) : session.Closable := by
  unfold Account.InPhase Account.calls phase at h
  unfold Closable
  cases hs : session.state with
  | stopped => simpa [hs] using h
  | started => exact ⟨_, by simpa [hs] using h⟩

variable [PageTransport τ] [PageTransport σ]

/-- A call that cannot return ends with a poll, which leaves a run that can be stopped. -/
theorem closable_of_fault {session next : Session ρ (Recorder τ)} {operation : Operation}
    {fault : FlowFault} {ledger : Ledger} (h : Account.InPhase ⟨session, ledger⟩)
    (hp : session.perform operation = (.error fault, next)) : next.Closable := by
  obtain ⟨middle, page, transport, length, flow, hm, path, hhead, hpoll, -, rfl⟩ :=
    exists_land_of_fault hp ledger
  have hmiddle : Account.InPhase ⟨middle, ledger⟩ := h.path path
  unfold Account.InPhase Account.calls at hmiddle
  rw [phase_of_started hm] at hmiddle
  unfold Closable
  dsimp only
  rw [hm, Recorder.calls_pollPage hpoll, Phase.after_concat hmiddle,
    Phase.next_poll_of_landed hhead]
  exact ⟨_, rfl⟩

/-- The calls in turn, up to one that cannot return: what the last of them leaves. -/
def performAll : List Operation → Session ρ τ → Session ρ τ
  | [], session => session
  | operation :: rest, session =>
    match session.perform operation with
    | (.error _, next) => next
    | (.ok _, next) => performAll rest next

theorem performAll_through {view : τ → σ} (hv : IsView view) (operations : List Operation)
    (session : Session ρ τ) :
    (session.through view).performAll operations =
      (session.performAll operations).through view := by
  induction operations generalizing session with
  | nil => rfl
  | cons operation rest ih =>
    have hp := perform_through hv operation session
    simp only [performAll, hp]
    rcases session.perform operation with ⟨fault | answer, next⟩
    · rfl
    · exact ih next

theorem endRun_through {view : τ → σ} (hv : IsView view) (session : Session ρ τ) :
    (session.through view).endRun = session.endRun.through view := by
  unfold endRun
  rw [state_through]
  cases session.state with
  | stopped => rfl
  | started =>
    have hstop : PageTransport.stop (session.through view).transport = _ :=
      hv.stop session.transport
    dsimp only
    rw [hstop]
    rcases PageTransport.stop session.transport with ⟨error | _, transport⟩ <;> rfl

theorem closable_performAll {operations : List Operation} {session : Session ρ (Recorder τ)}
    {ledger : Ledger} (h : Account.InPhase ⟨session, ledger⟩) :
    (session.performAll operations).Closable := by
  induction operations generalizing session ledger with
  | nil => exact closable_of_inPhase h
  | cons operation rest ih =>
    rw [performAll]
    rcases hp : session.perform operation with ⟨fault | answer, next⟩
    · exact closable_of_fault h hp
    · exact ih (h.path (Account.perform_path ledger hp))

/-- The end of the run stops a transport that was started, and only that. -/
theorem Closable.after_endRun {session : Session ρ (Recorder τ)} (h : session.Closable) :
    Phase.after session.endRun.transport.calls = some .stopped := by
  unfold Closable at h
  unfold endRun
  cases hs : session.state with
  | stopped => simpa [hs] using h
  | started =>
    simp only [hs] at h ⊢
    obtain ⟨out, hout⟩ := h
    rcases hh : PageTransport.stop session.transport with ⟨error | _, transport⟩
    · dsimp only
      rw [Recorder.calls_stop hh, Phase.after_concat hout]
      rfl
    · dsimp only
      rw [Recorder.calls_stop hh, Phase.after_concat hout]
      rfl

/--
A session keeps the protocol of its transport whatever the transport answers: at any time the calls
have led to the phase that the session is in, and its closing leaves the transport stopped, also when
it comes behind a call that could not return. The calls are those that a recorder keeps, over which
the session does what it does over the transport itself.
-/
theorem protocol_of_lifetime {η : Type} [Sockets η] {transport : τ} {session : Session ρ τ}
    (h : session.Opened transport) (operations : List Operation) (host : η) :
    (∀ history last, session.run operations = .ok (history, last) →
      Phase.after (session.calls operations) = some last.phase) ∧
    Phase.after ((session.recorded.performAll operations).close host).2.1.calls = some .stopped ∧
    ((session.recorded.performAll operations).close host).2.1.transport =
      ((session.performAll operations).close host).2.1 := by
  obtain ⟨-, hfresh⟩ := h.exists_fresh
  have hstart : Account.InPhase ⟨session.recorded, .empty⟩ := by
    rw [hfresh]
    rfl
  refine ⟨?_, (closable_performAll hstart).after_endRun, ?_⟩
  · intro history last hr
    obtain ⟨twin, ht, rfl, hcalls⟩ := exists_recorded_of_run hr
    have hlast : Account.InPhase ⟨twin, Ledger.ofHistory history⟩ :=
      hstart.path (Account.run_path .empty ht)
    rw [← hcalls]
    exact hlast
  · have hsame := performAll_through Recorder.isView_transport operations session.recorded
    have hended := endRun_through Recorder.isView_transport
      (session.recorded.performAll operations)
    change session.performAll operations = _ at hsame
    rw [← hsame] at hended
    exact (congrArg Session.transport hended).symm

/-- A start and a stop that are repeated, and a run that only the closing ends. -/
def restarted : List Operation :=
  [.start, .start, .push (.fresh 0 16384), .fill, .stop, .stop, .start]

/-- What a transport sees of it that takes a single page and does not stop when it is told to. -/
def restartedCalls : List TransportCall :=
  [.start (.ok ()), .push ⟨0, 0, 0, 8192⟩ (.ok ()),
    .push ⟨1, 1, 8192, 8192⟩ (.error (.register (.writeProtected 1))),
    .poll ⟨0, 0, 0, 8192⟩ (.ok (some 8192)),
    .push ⟨1, 1, 8192, 8192⟩ (.error (.register (.writeProtected 1))),
    .stop (.error (.register (.writeProtected 9002))), .start (.ok ()),
    .stop (.error (.register (.writeProtected 9002)))]

theorem protocol_of_lifetime_restarted :
    (((trial (⟨[8192], some 1, false, true, false⟩ :
        Simulation.ScriptedTransport)).recorded.performAll restarted).close
          Simulation.LockTable.empty).2.1.calls = restartedCalls ∧
      Phase.after restartedCalls = some .stopped := by
  have computed : (((trial (⟨[8192], some 1, false, true, false⟩ :
      Simulation.ScriptedTransport)).recorded.performAll restarted).close
        Simulation.LockTable.empty).2.1.calls = restartedCalls := by decide +kernel
  obtain ⟨-, hprotocol, -⟩ := protocol_of_lifetime
    (opened_trial (⟨[8192], some 1, false, true, false⟩ : Simulation.ScriptedTransport)) restarted
    Simulation.LockTable.empty
  rw [computed] at hprotocol
  exact ⟨computed, hprotocol⟩

end Session

end Readout
