/-
Work that may fail on the way.

Work on a state gives a value or a reason, and the state that it leaves behind.  What
was done before a failure stays done: a failure brings no earlier state back.

* `Work` — the work on a state;
* `Work.check`, `Work.require` — going on only where a condition holds, or a value is there;
* `Work.current`, `Work.change` — the state at that moment, and a change of it;
* `Work.focus` — work on a part of a state.

Main statements: `bind_of_ok`, `bind_of_error` — one piece of work after another one;
`exists_of_bind_eq_ok` — what lies between them where both succeed;
`bind_eq_error` — which of them failed;
`run_bind` — both cases at once, with which work is run step by step.
-/
import CashMachine.Error

namespace CashMachine

/-- Work on a state: a value or a reason, and the state afterwards in either case. -/
abbrev Work (σ : Type) := ExceptT Error (StateM σ)

theorem exists_of_map_eq_ok {ε α β : Type} {x : Except ε α} {f : α → β} {b : β}
    (h : x.map f = .ok b) : ∃ a, x = .ok a ∧ f a = b := by
  cases x with
  | error e => cases h
  | ok a => exact ⟨a, rfl, Except.ok.inj h⟩

namespace Work

variable {σ τ α β : Type}

/-- Fails with a reason where the condition does not hold. -/
def check (condition : Bool) (e : Error) : Work σ Unit :=
  fun s => (if condition then .ok () else .error e, s)

/-- The value, or a failure with a reason where there is none. -/
def require (value : Option α) (e : Error) : Work σ α :=
  fun s => (match value with
    | some a => .ok a
    | none => .error e, s)

def current : Work σ σ :=
  fun s => (.ok s, s)

def change (f : σ → σ) : Work σ Unit :=
  fun s => (.ok (), f s)

/-- Work on a part of the state, which is put back in either case. -/
def focus (part : σ → τ) (put : σ → τ → σ) (w : Work τ α) : Work σ α :=
  fun s => ((w (part s)).1, put s (w (part s)).2)

theorem bind_of_ok {w : Work σ α} {s t : σ} {a : α} (h : w s = (.ok a, t)) (f : α → Work σ β) :
    (w >>= f) s = f a t := by
  show StateT.bind w (ExceptT.bindCont f) s = _
  simp only [StateT.bind, h]
  rfl

theorem bind_of_error {w : Work σ α} {s t : σ} {e : Error} (h : w s = (.error e, t))
    (f : α → Work σ β) : (w >>= f) s = (.error e, t) := by
  show StateT.bind w (ExceptT.bindCont f) s = _
  simp only [StateT.bind, h]
  rfl

theorem exists_of_bind_eq_ok {w : Work σ α} {f : α → Work σ β} {s u : σ} {b : β}
    (h : (w >>= f) s = (.ok b, u)) : ∃ a t, w s = (.ok a, t) ∧ f a t = (.ok b, u) := by
  rcases hw : w s with ⟨e | a, t⟩
  · rw [bind_of_error hw] at h
    cases h
  · rw [bind_of_ok hw] at h
    exact ⟨a, t, rfl, h⟩

/-- Work that fails does so in its first part, or in the second one after it. -/
theorem bind_eq_error {w : Work σ α} {f : α → Work σ β} {s u : σ} {e : Error}
    (h : (w >>= f) s = (.error e, u)) :
    w s = (.error e, u) ∨ ∃ a t, w s = (.ok a, t) ∧ f a t = (.error e, u) := by
  rcases hw : w s with ⟨e' | a, t⟩
  · rw [bind_of_error hw] at h
    cases h
    exact .inl rfl
  · rw [bind_of_ok hw] at h
    exact .inr ⟨a, t, rfl, h⟩

/-! ### Running it -/

@[simp] theorem run_bind (w : Work σ α) (f : α → Work σ β) (s : σ) :
    (w >>= f) s = match w s with
      | (.ok a, t) => f a t
      | (.error e, t) => (.error e, t) := by
  split
  · rename_i h
    exact bind_of_ok h f
  · rename_i h
    exact bind_of_error h f

@[simp] theorem run_map (w : Work σ α) (f : α → β) (s : σ) :
    (f <$> w) s = match w s with
      | (.ok a, t) => (.ok (f a), t)
      | (.error e, t) => (.error e, t) := by
  rw [← bind_pure_comp, run_bind]
  rfl

@[simp] theorem run_pure (a : α) (s : σ) : (pure a : Work σ α) s = (.ok a, s) := rfl

@[simp] theorem run_throw (e : Error) (s : σ) : (throw e : Work σ α) s = (.error e, s) := rfl

@[simp] theorem run_lift (x : Except Error α) (s : σ) : (liftM x : Work σ α) s = (x, s) := by
  cases x <;> rfl

@[simp] theorem run_check (condition : Bool) (e : Error) (s : σ) :
    check condition e s = (if condition then .ok () else .error e, s) := rfl

@[simp] theorem run_require_some (a : α) (e : Error) (s : σ) :
    require (some a) e s = (.ok a, s) := rfl

@[simp] theorem run_require_none (e : Error) (s : σ) :
    (require none e : Work σ α) s = (.error e, s) := rfl

@[simp] theorem run_current (s : σ) : current s = (.ok s, s) := rfl

@[simp] theorem run_change (f : σ → σ) (s : σ) : change f s = (.ok (), f s) := rfl

@[simp] theorem run_focus (part : σ → τ) (put : σ → τ → σ) (w : Work τ α) (s : σ) :
    focus part put w s = ((w (part s)).1, put s (w (part s)).2) := rfl

end Work

end CashMachine
