import Readout.Attempt

/-!
Attempts that go through the assignments of an operation one after the other, and attempts that give
the same in two states and leave them as much alike as they were, unless they fail in a way that is
left out of the comparison.
-/

namespace Readout.Attempt

variable {σ σ' ε ε' α β : Type}

/-- The attempt goes on only where the condition holds. -/
def require (condition : Prop) [Decidable condition] (error : ε) : Attempt σ ε Unit :=
  if condition then pure () else throw error

/-- What is left of an operation that only a success gives a new state. -/
def carried (f : ε → ε') (s : σ) : Except ε σ → Except ε' Unit × σ
  | .ok next => (.ok (), next)
  | .error error => (.error (f error), s)

theorem on_require {condition : Prop} [Decidable condition] (h : condition) (error : ε) (s : σ) :
    (require condition error).on s = (.ok (), s) := by
  rw [require, if_pos h]
  rfl

theorem on_require_of_not {condition : Prop} [Decidable condition] (h : ¬ condition) (error : ε)
    (s : σ) : (require condition error).on s = (.error error, s) := by
  rw [require, if_neg h]
  rfl

theorem carried_eq_error {f : ε → ε'} {s : σ} {outcome : Except ε σ} {error : ε'}
    (h : (carried f s outcome).1 = .error error) :
    (∃ cause, error = f cause) ∧ (carried f s outcome).2 = s := by
  cases outcome with
  | ok next => cases h
  | error cause =>
    cases h
    exact ⟨⟨cause, rfl⟩, rfl⟩

theorem exists_of_on_bind_ok {x : Attempt σ ε α} {f : α → Attempt σ ε β} {s last : σ} {b : β}
    (h : (x >>= f).on s = (.ok b, last)) :
    ∃ a next, x.on s = (.ok a, next) ∧ (f a).on next = (.ok b, last) := by
  rcases hx : x.on s with ⟨error | a, next⟩
  · rw [on_bind_of_error hx] at h
    cases h
  · rw [on_bind_of_ok hx] at h
    exact ⟨a, next, rfl, h⟩

/-- An attempt in two parts fails in the first one, or in the second one after it. -/
theorem on_bind_error_cases {x : Attempt σ ε α} {f : α → Attempt σ ε β} {s last : σ} {error : ε}
    (h : (x >>= f).on s = (.error error, last)) :
    x.on s = (.error error, last) ∨
      ∃ a next, x.on s = (.ok a, next) ∧ (f a).on next = (.error error, last) := by
  rcases hx : x.on s with ⟨cause | a, next⟩
  · rw [on_bind_of_error hx] at h
    cases h
    exact .inl rfl
  · rw [on_bind_of_ok hx] at h
    exact .inr ⟨a, next, rfl, h⟩

/-- The result is a failure that spoils what is compared. -/
def Spoilt (spoils : ε → Prop) : Except ε α → Prop
  | .ok _ => False
  | .error error => spoils error

/--
Where the states are alike and neither result is spoilt, both attempts give the same, and what they
leave is alike.
-/
def MatchesUnless (spoils : ε → Prop) (alike : σ → σ' → Prop) (x : Attempt σ ε α)
    (y : Attempt σ' ε α) : Prop :=
  ∀ ⦃s t⦄, alike s t → ¬ Spoilt spoils (x.on s).1 → ¬ Spoilt spoils (y.on t).1 →
    (y.on t).1 = (x.on s).1 ∧ alike (x.on s).2 (y.on t).2

/-- Where the states are alike both attempts give the same, and what they leave is alike. -/
def Matches (alike : σ → σ' → Prop) (x : Attempt σ ε α) (y : Attempt σ' ε α) : Prop :=
  ∀ ⦃s t⦄, alike s t → (y.on t).1 = (x.on s).1 ∧ alike (x.on s).2 (y.on t).2

variable {spoils : ε → Prop} {alike : σ → σ' → Prop}
  {x x' : Attempt σ ε α} {y y' : Attempt σ' ε α}

theorem Matches.unless (h : Matches alike x y) (spoils : ε → Prop) :
    MatchesUnless spoils alike x y :=
  fun _ _ ha _ _ => h ha

/-- Where nothing spoils the comparison, nothing is left out. -/
theorem MatchesUnless.matches (h : MatchesUnless (fun _ => False) alike x y) :
    Matches alike x y := by
  have clear (result : Except ε α) : ¬ Spoilt (fun _ => False) result := by
    cases result <;> exact id
  exact fun s t ha => h ha (clear _) (clear _)

theorem matches_pure (a : α) : Matches alike (pure a : Attempt σ ε α) (pure a) :=
  fun _ _ h => ⟨rfl, h⟩

theorem matches_throw (error : ε) : Matches alike (throw error : Attempt σ ε α) (throw error) :=
  fun _ _ h => ⟨rfl, h⟩

theorem Matches.exists_on (h : Matches alike x y) {s : σ} {t : σ'} (ha : alike s t) :
    ∃ result next other, x.on s = (result, next) ∧ y.on t = (result, other) ∧ alike next other :=
  ⟨_, _, _, rfl, Prod.ext (h ha).1 rfl, (h ha).2⟩

theorem not_spoilt_of_bind {f : α → Attempt σ ε β} {s : σ}
    (h : ¬ Spoilt spoils ((x >>= f).on s).1) : ¬ Spoilt spoils (x.on s).1 := by
  rcases hx : x.on s with ⟨error | a, next⟩
  · rwa [on_bind_of_error hx] at h
  · exact id

theorem MatchesUnless.bind {f : α → Attempt σ ε β} {g : α → Attempt σ' ε β}
    (h : MatchesUnless spoils alike x y) (hf : ∀ a, MatchesUnless spoils alike (f a) (g a)) :
    MatchesUnless spoils alike (x >>= f) (y >>= g) := by
  intro s t ha hs ht
  obtain ⟨hresult, hnext⟩ := h ha (not_spoilt_of_bind hs) (not_spoilt_of_bind ht)
  rcases hx : x.on s with ⟨error | a, next⟩
  · have hy : y.on t = (.error error, (y.on t).2) := Prod.ext (by rw [hresult, hx]) rfl
    rw [hx] at hnext
    rw [on_bind_of_error hx, on_bind_of_error hy]
    exact ⟨rfl, hnext⟩
  · have hy : y.on t = (.ok a, (y.on t).2) := Prod.ext (by rw [hresult, hx]) rfl
    rw [hx] at hnext
    rw [on_bind_of_ok hx] at hs ⊢
    rw [on_bind_of_ok hy] at ht ⊢
    exact hf a hnext hs ht

/-- What is only made of the answer is the same where the answer is. -/
theorem MatchesUnless.answer (h : MatchesUnless spoils alike x y) (give : α → β) :
    MatchesUnless spoils alike (x >>= fun a => pure (give a)) (y >>= fun a => pure (give a)) :=
  h.bind fun _ => (matches_pure _).unless _

theorem Matches.bind {f : α → Attempt σ ε β} {g : α → Attempt σ' ε β} (h : Matches alike x y)
    (hf : ∀ a, Matches alike (f a) (g a)) : Matches alike (x >>= f) (y >>= g) :=
  ((h.unless _).bind fun a => (hf a).unless _).matches

/-- What an attempt reads of its state it reads of one that is alike. -/
theorem matches_get {f : σ → Attempt σ ε β} {g : σ' → Attempt σ' ε β}
    (h : ∀ s t, alike s t → Matches alike (f s) (g t)) : Matches alike (get >>= f) (get >>= g) :=
  fun s t ha => h s t ha ha

theorem MatchesUnless.ite {c : Prop} [Decidable c] (h : MatchesUnless spoils alike x y)
    (h' : MatchesUnless spoils alike x' y') :
    MatchesUnless spoils alike (if c then x else x') (if c then y else y') := by
  by_cases hc : c
  · rw [if_pos hc, if_pos hc]
    exact h
  · rw [if_neg hc, if_neg hc]
    exact h'

theorem Matches.ite {c : Prop} [Decidable c] (h : Matches alike x y) (h' : Matches alike x' y') :
    Matches alike (if c then x else x') (if c then y else y') :=
  ((h.unless _).ite (h'.unless _)).matches

theorem MatchesUnless.forM {f : α → Attempt σ ε Unit} {g : α → Attempt σ' ε Unit}
    (h : ∀ a, MatchesUnless spoils alike (f a) (g a)) (as : List α) :
    MatchesUnless spoils alike (as.forM f) (as.forM g) := by
  induction as with
  | nil => exact (matches_pure ()).unless _
  | cons a rest ih => exact (h a).bind fun _ => ih

end Readout.Attempt
