/-
Two pieces of work in step.

Two pieces of work are in step when, from states that are related, they give related values or
fail for the same reason, and leave related states behind (`Work.InStep`).  Work that is put
together from pieces that are in step is in step, so this is shown along the text of the two.

* `bind`, `forM` — one piece of work after another one;
* `bind_to` — the same where success brings the states closer together (`Met`, `InStepTo`);
* `pure`, `answer`, `lift`, `check`, `require` — work that does not look at the state;
* `current`, `change`, `focus` — work that does, or changes it, or a part of it.
-/
import CashMachine.Work

namespace CashMachine

/-- What is related to itself is so as an option. -/
theorem rel_self {α : Type} {R : α → α → Prop} (h : ∀ a, R a a) (x : Option α) :
    Option.Rel R x x := by
  cases x with
  | none => exact .none
  | some a => exact .some (h a)

theorem eq_none_iff_of_rel {α β : Type} {R : α → β → Prop} {x : Option α} {y : Option β}
    (h : Option.Rel R x y) : y = none ↔ x = none := by
  cases h with
  | none => simp
  | some _ => simp

/-- Both answers are values that are related, or both are the same error. -/
inductive Agree {α β : Type} (V : α → β → Prop) : Except Error α → Except Error β → Prop
  | ok {a : α} {b : β} (h : V a b) : Agree V (.ok a) (.ok b)
  | error (e : Error) : Agree V (.error e) (.error e)

namespace Agree

variable {α β γ δ : Type} {V : α → β → Prop} {U : γ → δ → Prop}

theorem of_eq {x y : Except Error α} (h : y = x) : Agree Eq x y := by
  subst h
  cases y with
  | error e => exact .error e
  | ok a => exact .ok rfl

theorem imp {V' : α → β → Prop} {x : Except Error α} {y : Except Error β} (h : Agree V x y)
    (hV : ∀ a b, V a b → V' a b) : Agree V' x y := by
  cases h with
  | ok h => exact .ok (hV _ _ h)
  | error e => exact .error e

theorem map {x : Except Error α} {y : Except Error β} {f : α → γ} {g : β → δ}
    (h : Agree V x y) (hfg : ∀ a b, V a b → U (f a) (g b)) : Agree U (x.map f) (y.map g) := by
  cases h with
  | ok h => exact .ok (hfg _ _ h)
  | error e => exact .error e

theorem map_eq {f : α → γ} {x y : Except Error α}
    (h : Agree (fun a b => f b = f a) x y) : y.map f = x.map f := by
  cases h with
  | ok h => exact congrArg Except.ok h
  | error e => rfl

end Agree

namespace Work

variable {σ τ α β γ δ : Type} {S : σ → τ → Prop} {V : α → β → Prop} {U : γ → δ → Prop}

/-- From related states, both pieces of work give answers that agree, and related states. -/
def InStep (S : σ → τ → Prop) (V : α → β → Prop) (w : Work σ α) (v : Work τ β) : Prop :=
  ∀ s t, S s t → Agree V (w s).1 (v t).1 ∧ S (w s).2 (v t).2

/-- Two pieces of work have come to related values and states, or have failed for the same reason
and left states that are related less closely. -/
inductive Met (S T : σ → τ → Prop) (V : α → β → Prop) :
    Except Error α × σ → Except Error β × τ → Prop
  | ok {a : α} {b : β} {s : σ} {t : τ} (h : V a b) (hst : T s t) : Met S T V (.ok a, s) (.ok b, t)
  | error (e : Error) {s : σ} {t : τ} (hst : S s t) : Met S T V (.error e, s) (.error e, t)

theorem Met.of_agree {T : σ → τ → Prop} {x : Except Error α × σ} {y : Except Error β × τ}
    (h : Agree V x.1 y.1) (hS : S x.2 y.2) (hT : T x.2 y.2) : Met S T V x y := by
  obtain ⟨a, s⟩ := x
  obtain ⟨b, t⟩ := y
  cases h with
  | ok h => exact .ok h hT
  | error e => exact .error e hS

theorem Met.imp {V' : α → β → Prop} {T : σ → τ → Prop} {x : Except Error α × σ}
    {y : Except Error β × τ} (h : Met S T V x y) (hV : ∀ a b, V a b → V' a b) : Met S T V' x y := by
  cases h with
  | ok h hT => exact .ok (hV _ _ h) hT
  | error e hS => exact .error e hS

/-- From related states, both pieces of work meet, and where they succeed the states are related
more closely. -/
def InStepTo (S T : σ → τ → Prop) (V : α → β → Prop) (w : Work σ α) (v : Work τ β) : Prop :=
  ∀ s t, S s t → Met S T V (w s) (v t)

namespace InStep

theorem bind {w : Work σ α} {v : Work τ β} {f : α → Work σ γ} {g : β → Work τ δ}
    (h : InStep S V w v) (hfg : ∀ a b, V a b → InStep S U (f a) (g b)) :
    InStep S U (w >>= f) (v >>= g) := by
  intro s t hst
  obtain ⟨hanswer, hstate⟩ := h s t hst
  rcases hw : w s with ⟨x, s'⟩
  rcases hv : v t with ⟨y, t'⟩
  rw [hw, hv] at hanswer hstate
  cases hanswer with
  | ok hab =>
    rw [bind_of_ok hw, bind_of_ok hv]
    exact hfg _ _ hab s' t' hstate
  | error e =>
    rw [bind_of_error hw, bind_of_error hv]
    exact ⟨.error e, hstate⟩

/-- What comes behind work that brings the states closer together may rely on that. -/
theorem bind_to {T : σ → τ → Prop} {w : Work σ α} {v : Work τ β} {f : α → Work σ γ}
    {g : β → Work τ δ} (h : InStepTo S T V w v) (hT : ∀ s t, T s t → S s t)
    (hfg : ∀ a b, V a b → InStep T U (f a) (g b)) : InStep S U (w >>= f) (v >>= g) := by
  intro s t hst
  have hmet := h s t hst
  generalize hw : w s = x at hmet
  generalize hv : v t = y at hmet
  cases hmet with
  | ok hab hst' =>
    rw [bind_of_ok hw, bind_of_ok hv]
    obtain ⟨hanswer, hstate⟩ := hfg _ _ hab _ _ hst'
    exact ⟨hanswer, hT _ _ hstate⟩
  | error e hst' =>
    rw [bind_of_error hw, bind_of_error hv]
    exact ⟨.error e, hst'⟩

theorem pure {a : α} {b : β} (h : V a b) :
    InStep S V (Pure.pure a : Work σ α) (Pure.pure b : Work τ β) :=
  fun _ _ hst => ⟨.ok h, hst⟩

theorem throw (e : Error) :
    InStep S V (MonadExcept.throw e : Work σ α) (MonadExcept.throw e : Work τ β) :=
  fun _ _ hst => ⟨.error e, hst⟩

theorem answer {x : Except Error α} {y : Except Error β} (h : Agree V x y) :
    InStep S V (liftM x : Work σ α) (liftM y : Work τ β) := by
  intro s t hst
  rw [run_lift, run_lift]
  exact ⟨h, hst⟩

theorem lift {x y : Except Error α} (h : y = x) :
    InStep S Eq (liftM x : Work σ α) (liftM y : Work τ α) :=
  answer (.of_eq h)

theorem check {c d : Bool} (h : d = c) (e : Error) :
    InStep S Eq (check c e : Work σ Unit) (Work.check d e : Work τ Unit) := by
  intro s t hst
  rw [run_check, run_check, h]
  exact ⟨.of_eq rfl, hst⟩

theorem require_of_rel {a : Option α} {b : Option β} (h : Option.Rel V a b) (e : Error) :
    InStep S V (require a e : Work σ α) (Work.require b e : Work τ β) := by
  intro s t hst
  cases h with
  | none => exact ⟨.error e, hst⟩
  | some h => exact ⟨.ok h, hst⟩

theorem require {a b : Option α} (h : b = a) (e : Error) :
    InStep S Eq (require a e : Work σ α) (Work.require b e : Work τ α) := by
  subst h
  exact require_of_rel (rel_self (fun _ => rfl) b) e

theorem current : InStep S S (current : Work σ σ) (Work.current : Work τ τ) :=
  fun _ _ hst => ⟨.ok hst, hst⟩

theorem change {f : σ → σ} {g : τ → τ} (h : ∀ s t, S s t → S (f s) (g t)) :
    InStep S Eq (change f) (Work.change g) :=
  fun s t hst => ⟨.ok rfl, h s t hst⟩

/-- Work on parts of the states that are related, and are put back in related places. -/
theorem focus {σ' τ' : Type} {S' : σ' → τ' → Prop} {part : σ' → σ} {part' : τ' → τ}
    {put : σ' → σ → σ'} {put' : τ' → τ → τ'} {w : Work σ α} {v : Work τ β}
    (hpart : ∀ s t, S' s t → S (part s) (part' t))
    (hput : ∀ s t p q, S' s t → S p q → S' (put s p) (put' t q)) (h : InStep S V w v) :
    InStep S' V (focus part put w) (Work.focus part' put' v) := by
  intro s t hst
  obtain ⟨hanswer, hstate⟩ := h _ _ (hpart s t hst)
  exact ⟨hanswer, hput s t _ _ hst hstate⟩

theorem forM {ι : Type} {w : ι → Work σ Unit} {v : ι → Work τ Unit}
    (h : ∀ i, InStep S Eq (w i) (v i)) (is : List ι) :
    InStep S Eq (forM is w) (forM is v) := by
  induction is with
  | nil => exact pure rfl
  | cons i is ih =>
    rw [List.forM_cons, List.forM_cons]
    exact (h i).bind fun _ _ _ => ih

end InStep

end Work

end CashMachine
