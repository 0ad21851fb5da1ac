/-! Operations that leave a state behind, also when they fail. -/

namespace Readout

/-- On a failure the state is what the steps before it made of it; nothing is undone. -/
abbrev Attempt (σ ε α : Type) := ExceptT ε (StateM σ) α

@[simp] theorem mapError_ok {ε ε' α : Type} (f : ε → ε') (a : α) :
    (Except.ok a : Except ε α).mapError f = .ok a := rfl

@[simp] theorem mapError_error {ε ε' α : Type} (f : ε → ε') (e : ε) :
    (Except.error e : Except ε α).mapError f = .error (f e) := rfl

/-- What a result failed with, if it did. -/
def failure? {ε α : Type} : Except ε α → Option ε
  | .ok _ => none
  | .error error => some error

namespace Attempt

variable {σ ε α β : Type}

/-- The operation that answers and changes the state as `f` does. -/
def of (f : σ → Except ε α × σ) : Attempt σ ε α := f

/-- The answer to the attempt and the state after it. -/
def on (attempt : Attempt σ ε α) (s : σ) : Except ε α × σ := attempt s

@[simp] theorem on_of (f : σ → Except ε α × σ) (s : σ) : (of f).on s = f s := rfl

@[simp] theorem on_pure (a : α) (s : σ) : (pure a : Attempt σ ε α).on s = (.ok a, s) := rfl

@[simp] theorem on_get (s : σ) : (get : Attempt σ ε σ).on s = (.ok s, s) := rfl

@[simp] theorem on_modify (f : σ → σ) (s : σ) :
    (modify f : Attempt σ ε Unit).on s = (.ok (), f s) := rfl

theorem on_bind (x : Attempt σ ε α) (f : α → Attempt σ ε β) (s : σ) :
    (x >>= f).on s =
      match x.on s with
      | (.ok a, t) => (f a).on t
      | (.error e, t) => (.error e, t) := by
  simp only [on, bind, ExceptT.bind, ExceptT.mk, StateT.bind, ExceptT.bindCont]
  rcases x s with ⟨_ | _, _⟩ <;> rfl

theorem on_bind_of_ok {x : Attempt σ ε α} {s t : σ} {a : α} (h : x.on s = (.ok a, t))
    (f : α → Attempt σ ε β) : (x >>= f).on s = (f a).on t := by
  simp [on_bind, h]

theorem on_bind_of_error {x : Attempt σ ε α} {s t : σ} {e : ε} (h : x.on s = (.error e, t))
    (f : α → Attempt σ ε β) : (x >>= f).on s = (.error e, t) := by
  simp [on_bind, h]

@[simp] theorem on_map (f : α → β) (x : Attempt σ ε α) (s : σ) :
    (f <$> x).on s = ((x.on s).1.map f, (x.on s).2) := by
  simp only [on, Functor.map, ExceptT.map, ExceptT.mk, StateT.bind, bind]
  rcases x s with ⟨_ | _, _⟩ <;> rfl

end Attempt

end Readout
