import Readout.Proofs.Session.Faults

/-!
Whatever is called on a session, and however the call ends, the session keeps its configuration and
its lock.
-/

namespace Readout.Session

variable {ρ τ : Type} [PageTransport τ]

/-- No step reaches the configuration or the lock, and neither does a landing that fails. -/
theorem lasting_kept (config : ChannelConfig) (lock : ChannelLock) :
    Lasting fun session : Session ρ τ => session.config = config ∧ session.lock = lock := by
  constructor
  · intro account after step h
    cases step <;> exact h
  · intro session page length fault flow transport _ _ h
    exact h

/-- No call changes what the session was opened with or which lock it holds. -/
theorem keeps_perform (operation : Operation) (session : Session ρ τ) :
    (session.perform operation).2.config = session.config ∧
      (session.perform operation).2.lock = session.lock :=
  (lasting_kept session.config session.lock).perform ⟨rfl, rfl⟩ operation

end Readout.Session
