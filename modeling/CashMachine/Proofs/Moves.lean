/-
A move is a debit and a credit, made together or not at all.

Both legs are checked before either is made, and the credit is checked on the ledger that has not
been debited yet.  The two accounts are different ones, so the debit does not touch what the credit
looks at, and what has been checked is then done.

* `debit_eq_ok_iff`, `credit_eq_ok_iff` — one leg alone;
* `run_moveTelling` — the listener is told what was moved, and nothing else;
* `exists_move_iff` — a move is made exactly when both legs could be;
* `moveTelling_atomic` — what it comes to, in either case;
* `Machine.transfer_eq_moveTelling` — the transfer of a machine is one whose listener writes.
-/
import Mathlib.Control.Monad.Basic
import CashMachine.Machine.Money
import CashMachine.Proofs.Ledger

namespace CashMachine

namespace Ledger

variable {l k : Ledger} {id source destination : AccountId} {amount x y : Decimal} {a b : Account}

/-! ### One leg -/

/-- A debit and a credit replace the balance of one account, each by its own rule. -/
theorem leg_eq_ok_iff (rule : Account → Except Error Decimal) :
    (do let a ← l.get id
        let b ← rule a
        pure (l.setBalance id b, b)) = Except.ok (k, x) ↔
      ∃ a, l.find? id = some a ∧ rule a = .ok x ∧ k = l.setBalance id x := by
  unfold get
  cases l.find? id with
  | none => simp [bind, Except.bind]
  | some a =>
    cases hb : rule a with
    | error e => simp [bind, Except.bind, hb]
    | ok b =>
      simp only [bind, Except.bind, hb, pure, Except.pure, Except.ok.injEq, Prod.mk.injEq,
        Option.some_inj, exists_eq_left']
      constructor
      · rintro ⟨rfl, rfl⟩
        exact ⟨rfl, rfl⟩
      · rintro ⟨rfl, rfl⟩
        exact ⟨rfl, rfl⟩

theorem debit_eq_ok_iff :
    l.debit id amount = .ok (k, x) ↔
      ∃ a, l.find? id = some a ∧ a.debited amount = .ok x ∧ k = l.setBalance id x :=
  leg_eq_ok_iff fun a => a.debited amount

theorem credit_eq_ok_iff :
    l.credit id amount = .ok (k, x) ↔
      ∃ a, l.find? id = some a ∧ a.credited amount = .ok x ∧ k = l.setBalance id x :=
  leg_eq_ok_iff fun a => a.credited amount

/-! ### Both legs -/

/-- A move is made exactly when the debit and the credit, each by itself, could be. -/
theorem exists_move_iff :
    (∃ records k, move source destination amount l = (.ok records, k)) ↔
      source ≠ destination ∧ (∃ d, l.debit source amount = .ok d) ∧
        ∃ c, l.credit destination amount = .ok c := by
  constructor
  · rintro ⟨records, k, h⟩
    obtain ⟨e, hm⟩ | ⟨a, b, x, y, hne, ha, hb, hx, hy, _⟩ :=
      l.move_cases source destination amount
    · rw [hm] at h
      cases h
    · exact ⟨hne, ⟨_, debit_eq_ok_iff.mpr ⟨a, ha, hx, rfl⟩⟩,
        ⟨_, credit_eq_ok_iff.mpr ⟨b, hb, hy, rfl⟩⟩⟩
  · rintro ⟨hne, ⟨⟨_, x⟩, hd⟩, ⟨⟨_, y⟩, hc⟩⟩
    obtain ⟨a, ha, hx, _⟩ := debit_eq_ok_iff.mp hd
    obtain ⟨b, hb, hy, _⟩ := credit_eq_ok_iff.mp hc
    exact ⟨_, _, move_of_legs hne ha hb hx hy⟩

/-- The ledger `k` with the accounts `a` and `b` is what a debit and then a credit lead to. -/
structure Moved (l : Ledger) (source destination : AccountId) (amount : Decimal) (a b : Account)
    (k : Ledger) : Prop where
  legs : ∃ between, l.debit source amount = .ok (between, a.balance) ∧
    between.credit destination amount = .ok (k, b.balance)
  atSource : k.get source = .ok a
  atDestination : k.get destination = .ok b
  others : ∀ other, other ≠ source → other ≠ destination → k.find? other = l.find? other

theorem moved_of_legs (hne : source ≠ destination) (ha : l.find? source = some a)
    (hb : l.find? destination = some b) (hx : a.debited amount = .ok x)
    (hy : b.credited amount = .ok y) :
    Moved l source destination amount { a with balance := x } { b with balance := y }
      ((l.setBalance source x).setBalance destination y) := by
  -- the debit leaves the destination alone, so the credit is the one that was checked
  have hb' : (l.setBalance source x).find? destination = some b := by
    rw [find?_setBalance_of_ne _ _ hne.symm, hb]
  refine ⟨⟨l.setBalance source x, ?_, ?_⟩, ?_, ?_, ?_⟩
  · exact debit_eq_ok_iff.mpr ⟨a, ha, hx, rfl⟩
  · exact credit_eq_ok_iff.mpr ⟨b, hb', hy, rfl⟩
  · rw [get_eq_ok_iff, find?_setBalance_of_ne _ _ hne, find?_setBalance_self, ha, Option.map_some]
  · rw [get_eq_ok_iff, find?_setBalance_self, hb', Option.map_some]
  · intro other hs hd
    rw [find?_setBalance_of_ne _ _ hd, find?_setBalance_of_ne _ _ hs]

theorem moved_of_move (h : move source destination amount l = (.ok (a, b), k)) :
    Moved l source destination amount a b k := by
  obtain ⟨e, hm⟩ | ⟨a', b', x, y, hne, ha, hb, hx, hy, hm⟩ :=
    l.move_cases source destination amount
  · rw [hm] at h
    cases h
  · rw [hm] at h
    cases h
    exact moved_of_legs hne ha hb hx hy

theorem ledger_of_refused {e : Error} (h : move source destination amount l = (.error e, k)) :
    k = l := by
  obtain ⟨_, hm⟩ | ⟨_, _, _, _, _, _, _, _, _, hm⟩ := l.move_cases source destination amount
  · rw [hm] at h
    cases h
    rfl
  · rw [hm] at h
    cases h

/-! ### The listener -/

section Listener

variable {σ : Type}

/-- The listener is told once of what was moved, and of nothing else. -/
theorem run_moveTelling (tell : Account → Account → σ → σ) (source destination : AccountId)
    (amount : Decimal) (l : Ledger) (s : σ) :
    moveTelling tell source destination amount (l, s) =
      match move source destination amount l with
      | (.ok (a, b), k) => (.ok (a, b), k, tell a b s)
      | (.error e, k) => (.error e, k, s) := by
  rw [moveTelling, Work.run_bind, Work.run_focus]
  rcases move source destination amount l with ⟨e | ⟨a, b⟩, k⟩
  · rfl
  · rfl

/-- A move is made exactly when the accounts are different ones and the debit and the credit could
each be made by itself.  Then the ledger is the one that a debit and then a credit lead to, the
records are the accounts in it, and the listener, whatever it does, has been told of them once.
Otherwise the ledger is as it was, and the listener has been told of nothing. -/
theorem moveTelling_atomic (tell : Account → Account → σ → σ) (l : Ledger) (s : σ)
    (source destination : AccountId) (amount : Decimal)
    {answer : Except Error (Account × Account)} {after : Ledger} {told : σ}
    (h : moveTelling tell source destination amount (l, s) = (answer, after, told)) :
    ((∃ records, answer = .ok records) ↔
        source ≠ destination ∧ (∃ d, l.debit source amount = .ok d) ∧
          ∃ c, l.credit destination amount = .ok c) ∧
      (∀ a b, answer = .ok (a, b) →
        Moved l source destination amount a b after ∧ told = tell a b s) ∧
      ∀ e, answer = .error e → after = l ∧ told = s := by
  rw [run_moveTelling] at h
  rw [← exists_move_iff]
  rcases hm : move source destination amount l with ⟨e | ⟨a, b⟩, k⟩
  · rw [hm] at h
    cases h
    refine ⟨⟨fun ⟨_, hok⟩ => ?_, fun ⟨_, _, hok⟩ => ?_⟩, fun _ _ hok => ?_,
      fun _ _ => ⟨ledger_of_refused hm, rfl⟩⟩
    all_goals cases hok
  · rw [hm] at h
    cases h
    refine ⟨⟨fun _ => ⟨_, _, rfl⟩, fun _ => ⟨_, rfl⟩⟩, ?_, fun _ herror => by cases herror⟩
    intro a b hok
    cases hok
    exact ⟨moved_of_move hm, rfl⟩

/-- Twenty are moved to an empty account, and told of once.  To an account at the largest balance
there is they cannot be moved: of the two legs only the credit is out of range, and the debit is
not made either. -/
theorem moveTelling_atomic_overflow :
    let a : Account := ⟨"A", "Ada", .checking, .ofNat 50 (by decide)⟩
    let b : Account := ⟨"B", "Bob", .savings, 0⟩
    let most : Decimal := ⟨false, Decimal.maxCoefficient, 0, Nat.le_refl _, by decide⟩
    let c : Account := ⟨"C", "Cyd", .savings, most⟩
    let l : Ledger := ⟨[("A", a), ("B", b), ("C", c)], (by decide : ["A", "B", "C"].Nodup)⟩
    let amount : Decimal := .ofNat 20 (by decide)
    let tell (x y : Account) (told : List (Account × Account)) := told ++ [(x, y)]
    let a' : Account := { a with balance := .ofNat 30 (by decide) }
    let b' : Account := { b with balance := amount }
    (∃ k, moveTelling tell "A" "B" amount (l, []) = (.ok (a', b'), k, [(a', b')]) ∧
        Moved l "A" "B" amount a' b' k) ∧
      (∃ d, l.debit "A" amount = .ok d) ∧
        moveTelling tell "A" "C" amount (l, []) = (.error .invalidAmount, l, []) := by
  intro a b most c l amount tell a' b'
  have hmade : (moveTelling tell "A" "B" amount (l, [])).1 = .ok (a', b') := by decide +kernel
  have hrefused : (moveTelling tell "A" "C" amount (l, [])).1 = .error .invalidAmount := by
    decide +kernel
  -- what the two calls come to is named, so that nothing below has to run them again
  rcases hone : moveTelling tell "A" "B" amount (l, []) with ⟨answer, k, told⟩
  rcases htwo : moveTelling tell "A" "C" amount (l, []) with ⟨refusal, kept, told'⟩
  rw [hone] at hmade
  rw [htwo] at hrefused
  obtain ⟨hiff, hmoved, _⟩ := moveTelling_atomic tell l [] "A" "B" amount hone
  obtain ⟨_, _, hkept⟩ := moveTelling_atomic tell l [] "A" "C" amount htwo
  obtain ⟨_, hdebit, _⟩ := hiff.mp ⟨_, hmade⟩
  obtain ⟨hk, rfl⟩ := hmoved a' b' hmade
  obtain ⟨rfl, rfl⟩ := hkept _ hrefused
  exact ⟨⟨k, Prod.ext hmade rfl, hk⟩, hdebit, Prod.ext hrefused rfl⟩

end Listener

end Ledger

namespace Machine

/-- The listener of a machine writes both accounts, the source first. -/
def writeBoth (a b : Account) (effects : List Effect) : List Effect :=
  effects ++ [.write (.account a), .write (.account b)]

/-- The transfer of a machine is a move whose listener writes both accounts. -/
theorem transfer_eq_moveTelling (m : Machine) (reads : Reads) (stamp : Stamp)
    (source destination : AccountId) (amount : Decimal) :
    m.transfer reads stamp source destination amount = .of m (do
      checkAmount amount
      Work.check (source ≠ destination) .invalidAmount
      let _ ← Progress.account reads source
      let _ ← Progress.account reads destination
      let _ ← Work.focus (fun p => (p.machine.ledger, p.effects))
        (fun p s => ⟨{ p.machine with ledger := s.1 }, s.2⟩)
        (Ledger.moveTelling writeBoth source destination amount)
      let t := Transaction.transfer stamp source destination amount
      Progress.emit (.write (.transaction t))
      pure t) := by
  unfold transfer
  congr 1
  -- up to the move both are the same, so they are compared from there on, in any progress
  refine bind_congr fun _ => bind_congr fun _ => bind_congr fun _ => bind_congr fun _ => ?_
  funext p
  simp only [Work.run_bind, Progress.run_onLedger, Work.run_focus, Ledger.run_moveTelling]
  rcases Ledger.move source destination amount p.machine.ledger with ⟨e | ⟨a, b⟩, k⟩
  · rfl
  · simp [writeBoth]

end Machine

end CashMachine
