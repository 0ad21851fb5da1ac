import Readout.Proofs.Session.Recorded
import Readout.Proofs.Session.Step

/-!
The state in which a session makes a call on its transport: the calls so far are those that were
made before it, and the session has yet to come to where the calls end.
-/

namespace Readout

deriving instance DecidableEq for TransportCall

namespace Account

open Session

variable {ρ τ : Type} [PageTransport τ] {account next first last : Account ρ (Recorder τ)}
  {call : TransportCall} {before after : List TransportCall} {page : Dma.Page}

/-- The calls that have been made on the transport. -/
def calls (account : Account ρ (Recorder τ)) : List TransportCall :=
  account.session.transport.calls

/-- A step makes at most one call. -/
theorem Step.calls_eq (step : Step account next) :
    next.calls = account.calls ∨ ∃ call, next.calls = account.calls ++ [call] := by
  cases step with
  | note => exact .inl rfl
  | begin _ ha => exact .inr ⟨_, Recorder.calls_start ha⟩
  | refuse _ ha => exact .inr ⟨_, Recorder.calls_start ha⟩
  | accept => exact .inl rfl
  | pageRefused _ _ hp => exact .inr ⟨_, Recorder.calls_pushPage hp⟩
  | pageTaken _ _ hp _ => exact .inr ⟨_, Recorder.calls_pushPage hp⟩
  | pollFailed _ _ hp => exact .inr ⟨_, Recorder.calls_pollPage hp⟩
  | pageOut _ _ hp => exact .inr ⟨_, Recorder.calls_pollPage hp⟩
  | pageLanded _ _ hp _ => exact .inr ⟨_, Recorder.calls_pollPage hp⟩
  | promote => exact .inl rfl
  | finish _ ha => exact .inr ⟨_, Recorder.calls_stop ha⟩
  | pop => exact .inl rfl

/-- A page is offered to the transport only as the next one of a started session. -/
theorem Step.nextPage_of_push (step : Step account next) {answer : Except Error Unit}
    (h : next.calls = account.calls ++ [.push page answer]) :
    account.session.state = .started ∧ account.session.flow.nextPage? = some page := by
  unfold calls at h
  cases step with
  | note => simp at h
  | begin _ ha => simp [Recorder.calls_start ha] at h
  | refuse _ ha => simp [Recorder.calls_start ha] at h
  | accept => simp at h
  | pageRefused hs hn hp =>
    obtain ⟨rfl, -⟩ : _ = page ∧ _ = answer := by simpa [Recorder.calls_pushPage hp] using h
    exact ⟨hs, hn⟩
  | pageTaken hs hn hp _ =>
    obtain ⟨rfl, -⟩ : _ = page ∧ _ = answer := by simpa [Recorder.calls_pushPage hp] using h
    exact ⟨hs, hn⟩
  | pollFailed _ _ hp => simp [Recorder.calls_pollPage hp] at h
  | pageOut _ _ hp => simp [Recorder.calls_pollPage hp] at h
  | pageLanded _ _ hp _ => simp [Recorder.calls_pollPage hp] at h
  | promote => simp at h
  | finish _ ha => simp [Recorder.calls_stop ha] at h
  | pop => simp at h

/-- Every call since the first account was made on the way from one account to another. -/
theorem Path.exists_step_of_call (path : Path first last)
    (hfirst : first.calls.length ≤ before.length) (h : last.calls = before ++ call :: after) :
    ∃ account next, Path first account ∧ Step account next ∧ Path next last ∧
      account.calls = before ∧ next.calls = before ++ [call] := by
  induction path generalizing after with
  | refl =>
    have hlength := congrArg List.length h
    simp only [List.length_append, List.length_cons] at hlength
    omega
  | @tail middle last path step ih =>
    rcases step.calls_eq with hsame | ⟨other, hmore⟩
    · obtain ⟨account, next, start, moment, rest, hbefore, hnext⟩ := ih (hsame.symm.trans h)
      exact ⟨account, next, start, moment, rest.tail step, hbefore, hnext⟩
    · rw [hmore] at h
      rcases List.eq_nil_or_concat after with rfl | ⟨most, final, rfl⟩
      · obtain ⟨hbefore, hcall⟩ := List.append_inj' h rfl
        refine ⟨middle, last, path, step, .refl, hbefore, ?_⟩
        rw [hmore, hbefore, hcall]
      · rw [List.concat_eq_append, ← List.cons_append, ← List.append_assoc] at h
        obtain ⟨account, next, start, moment, rest, hbefore, hnext⟩ :=
          ih (List.append_inj' h rfl).1
        exact ⟨account, next, start, moment, rest.tail step, hbefore, hnext⟩

/-- A page that was offered on the way was the next one when all calls before it had been made. -/
theorem Path.exists_nextPage_of_push (path : Path first last) {answer : Except Error Unit}
    (hfirst : first.calls.length ≤ before.length)
    (h : last.calls = before ++ .push page answer :: after) :
    ∃ account, Path first account ∧ Path account last ∧ account.calls = before ∧
      account.session.state = .started ∧ account.session.flow.nextPage? = some page := by
  obtain ⟨account, next, start, step, rest, hbefore, hnext⟩ := path.exists_step_of_call hfirst h
  obtain ⟨hs, hn⟩ := step.nextPage_of_push (hnext.trans (by rw [hbefore]))
  exact ⟨account, start, rest.head step, hbefore, hs, hn⟩

end Account

end Readout
