/-
What an operation can come to.

An operation first brings accounts into the ledger (`Machine.admitted`).  From there it is
refused, and nothing else has happened, or it does one thing, with everything that belongs to
it (`Outcome`).

* `exists_entries_admitted` — what comes into the ledger;
* `checkAmount_eq_ok_iff` — the amounts that can be moved;
* `of_lift`, `of_check`, `of_require`, `of_current`, `of_account` — how an operation gets there:
  as long as it has only looked at things, a failure is a refusal, and it goes on otherwise.
-/
import CashMachine.Proofs.Decimal.Sum
import CashMachine.Proofs.Machine.Lookups
import CashMachine.Proofs.Payout

namespace CashMachine

/-- The accounts that an operation looks up, in order. -/
def Request.lookups : Request → List AccountId
  | .withdraw id amount | .deposit id amount =>
    match Machine.checkAmount amount with
    | .ok () => [id]
    | .error _ => []
  | .transfer source destination amount =>
    match Machine.checkAmount amount with
    | .ok () => if source = destination then [] else [source, destination]
    | .error _ => []
  | .balance id | .history id | .printBalance id => [id]
  | _ => []

namespace Machine

variable {reads : Reads} {stamp : Stamp} {m : Machine}

theorem checkAmount_eq_ok_iff {amount : Decimal} {u : Unit} :
    checkAmount amount = .ok u ↔ 0 < amount.value ∧ amount.IsCents := by
  have h : (amount.isPositive && (amount.round Account.places).equals amount) = true ↔
      0 < amount.value ∧ amount.IsCents := by
    rw [Bool.and_eq_true, Decimal.isPositive_iff]
    exact and_congr_right fun _ => Decimal.equals_round_iff
  rw [← h, checkAmount]
  split
  · rename_i hc
    exact iff_of_true rfl hc
  · rename_i hc
    exact iff_of_false (fun he => nomatch he) hc

/-- The machine with the accounts that an operation brings into the ledger. -/
def admitted (m : Machine) (reads : Reads) : Request → Machine
  | .openAccount a =>
    match m.ledger.openAccount a with
    | .ok (ledger, _) => { m with ledger }
    | .error _ => m
  | r => m.gather reads r.lookups

theorem admitted_eq_gather {r : Request} (h : ∀ a, r ≠ .openAccount a) :
    m.admitted reads r = m.gather reads r.lookups := by
  cases r with
  | openAccount a => exact absurd rfl (h a)
  | _ => rfl

/-- Nothing but the ledger changes when accounts come in. -/
theorem admitted_eq (m : Machine) (reads : Reads) (r : Request) :
    m.admitted reads r = { m with ledger := (m.admitted reads r).ledger } := by
  by_cases hr : ∃ a, r = .openAccount a
  · obtain ⟨a, rfl⟩ := hr
    rw [admitted]
    split <;> rfl
  · rw [admitted_eq_gather fun a ha => hr ⟨a, ha⟩]
    exact (grown_gather m reads r.lookups).eq

@[simp] theorem reserve_admitted (m : Machine) (reads : Reads) (r : Request) :
    (m.admitted reads r).reserve = m.reserve := by
  rw [admitted_eq]

@[simp] theorem version_admitted (m : Machine) (reads : Reads) (r : Request) :
    (m.admitted reads r).version = m.version := by
  rw [admitted_eq]

/-- Whatever brings accounts in, puts them at the end, each under its own name and with a balance
that is not negative. -/
theorem exists_entries_admitted (m : Machine) (reads : Reads) (r : Request) :
    ∃ gained, (m.admitted reads r).ledger.entries = m.ledger.entries ++ gained ∧
      ∀ e ∈ gained, e.1 = e.2.id ∧ e.2.balance.isNegative = false := by
  by_cases hr : ∃ a, r = .openAccount a
  · obtain ⟨a, rfl⟩ := hr
    obtain ⟨ho, _⟩ | ⟨ho, _⟩ | ⟨k, ho, hk, hn, _⟩ := m.ledger.openAccount_cases a
    · exact ⟨[], by simp [admitted, ho], by simp⟩
    · exact ⟨[], by simp [admitted, ho], by simp⟩
    · refine ⟨[(a.id, a)], by simp [admitted, ho, hk], ?_⟩
      intro e he
      rw [List.mem_singleton] at he
      subst he
      exact ⟨rfl, hn⟩
  · rw [admitted_eq_gather fun a ha => hr ⟨a, ha⟩]
    obtain ⟨_, gained, hentries, hgained⟩ := grown_gather m reads r.lookups
    exact ⟨gained, hentries, fun e he => ⟨(hgained e he).1, (hgained e he).2.1⟩⟩

/-- The machine with another balance of an account, and without the notes of a plan. -/
def paidOut (m : Machine) (id : AccountId) (balance : Decimal) (plan : Notes) : Machine :=
  { m with
    ledger := m.ledger.setBalance id balance
    reserve := { m.reserve with notes := m.reserve.notes.less plan } }

/-- The machine with another balance of an account, and with more notes. -/
def paidIn (m : Machine) (id : AccountId) (balance : Decimal) (notes : Notes) : Machine :=
  { m with
    ledger := m.ledger.setBalance id balance
    reserve := m.reserve.addAll notes }

/-- What an operation can come to, from a machine that has the accounts. -/
inductive Outcome (reads : Reads) (stamp : Stamp) (m : Machine) : Request → Step Reply → Prop
  /-- Nothing is changed, written or printed. -/
  | refused {r : Request} (e : Error) : Outcome reads stamp m r ⟨.error e, m, []⟩
  | known {a : Account} (h : m.ledger.find? a.id ≠ none) :
    Outcome reads stamp m (.openAccount a) ⟨.ok (.opened false), m, []⟩
  | opened {a : Account} (h : m.ledger.find? a.id = some a) :
    Outcome reads stamp m (.openAccount a) ⟨.ok (.opened true), m, [.write (.account a)]⟩
  | withdrawn {id : AccountId} {amount b : Decimal} {a : Account} {plan : Notes}
    (hc : checkAmount amount = .ok ()) (ha : m.ledger.find? id = some a)
    (hle : amount.value ≤ a.balance.value) (hp : m.plan? amount = some plan)
    (hb : a.balance.sub? amount = some b) :
    Outcome reads stamp m (.withdraw id amount)
      ⟨.ok (.committed (.withdrawal stamp id amount)),
        m.paidOut id b plan,
        [.write (.account { a with balance := b }), .write (.reserve (m.paidOut id b plan).reserve),
          .write (.transaction (.withdrawal stamp id amount))]⟩
  | deposited {id : AccountId} {amount b : Decimal} {a : Account}
    (hc : checkAmount amount = .ok ()) (ha : m.ledger.find? id = some a)
    (hb : a.balance.add? amount = some b) :
    Outcome reads stamp m (.deposit id amount)
      ⟨.ok (.committed (.deposit stamp id amount)),
        m.paidIn id b (Dispenser.absorbed amount),
        .write (.account { a with balance := b }) ::
          (if (Dispenser.absorbed amount).isEmpty then []
            else [.write (.reserve (m.paidIn id b (Dispenser.absorbed amount)).reserve)]) ++
          [.write (.transaction (.deposit stamp id amount))]⟩
  | transferred {source destination : AccountId} {amount x y : Decimal} {a b : Account}
    (hc : checkAmount amount = .ok ()) (hne : source ≠ destination)
    (ha : m.ledger.find? source = some a) (hb : m.ledger.find? destination = some b)
    (hle : amount.value ≤ a.balance.value) (hx : a.balance.sub? amount = some x)
    (hy : b.balance.add? amount = some y) :
    Outcome reads stamp m (.transfer source destination amount)
      ⟨.ok (.committed (.transfer stamp source destination amount)),
        { m with ledger := (m.ledger.setBalance source x).setBalance destination y },
        [.write (.account { a with balance := x }), .write (.account { b with balance := y }),
          .write (.transaction (.transfer stamp source destination amount))]⟩
  | balance {id : AccountId} {a : Account} (ha : m.ledger.find? id = some a) :
    Outcome reads stamp m (.balance id) ⟨.ok (.balance a.balance), m, []⟩
  | history {id : AccountId} {a : Account} {ts : List Transaction}
    (ha : m.ledger.find? id = some a) (h : reads.history id = .ok ts) :
    Outcome reads stamp m (.history id) ⟨.ok (.history ts), m, []⟩
  | found {id : TransactionId} {t : Transaction} (h : reads.transaction id = .ok (some t)) :
    Outcome reads stamp m (.transaction id) ⟨.ok (.found t), m, []⟩
  | printed {t : Transaction} (h : m.reserve.canPrint = true) :
    Outcome reads stamp m (.printReceipt t)
      ⟨.ok .printed, { m with reserve := m.reserve.consume },
        [.write (.reserve m.reserve.consume), .print (.transaction t)]⟩
  | printedBalance {id : AccountId} {a : Account} (ha : m.ledger.find? id = some a)
    (h : m.reserve.canPrint = true) :
    Outcome reads stamp m (.printBalance id)
      ⟨.ok (.balance a.balance), { m with reserve := m.reserve.consume },
        [.write (.reserve m.reserve.consume), .print (.balance id a.balance)]⟩
  | replenished {role : Role} {notes : Notes}
    (h : m.policy.authorize role m.version = .ok ()) (hn : notes.isEmpty = false) :
    Outcome reads stamp m (.replenish role notes)
      ⟨.ok (.reserve (m.reserve.addAll notes)), { m with reserve := m.reserve.addAll notes },
        [.write (.reserve (m.reserve.addAll notes))]⟩
  | inkRefilled {role : Role} (h : m.policy.authorize role m.version = .ok ()) :
    Outcome reads stamp m (.refillInk role)
      ⟨.ok (.ink m.reserve.refillInk.ink), { m with reserve := m.reserve.refillInk },
        [.write (.reserve m.reserve.refillInk)]⟩
  | restocked {role : Role} {sheets : Nat32} (h : m.policy.authorize role m.version = .ok ())
    (hs : sheets.val ≠ 0) :
    Outcome reads stamp m (.restockPaper role sheets)
      ⟨.ok (.paper (m.reserve.restockPaper sheets).paper),
        { m with reserve := m.reserve.restockPaper sheets },
        [.write (.reserve (m.reserve.restockPaper sheets))]⟩
  | updated {role : Role} {version : Version} (h : m.policy.authorize role m.version = .ok ())
    (hv : ¬ version ≤ m.version) :
    Outcome reads stamp m (.updateSoftware role version)
      ⟨.ok (.policy (Policy.ofVersion version)), { m with version }, [.write (.version version)]⟩

/-! ### On the way -/

namespace Outcome

variable {r : Request} {α β : Type} {f : α → Reply}

theorem congr {s s' : Step Reply} (h : Outcome reads stamp m r s) (hs : s' = s) :
    Outcome reads stamp m r s' :=
  hs ▸ h

theorem of_lift {x : Except Error β} {w : β → Work Progress α}
    (h : ∀ b, x = .ok b → Outcome reads stamp m r ((Step.of m (w b)).map f)) :
    Outcome reads stamp m r ((Step.of m (liftM x >>= w)).map f) := by
  cases x with
  | error e => exact .refused e
  | ok b => exact h b rfl

theorem of_check {condition : Bool} {e : Error} {w : Unit → Work Progress α}
    (h : condition = true → Outcome reads stamp m r ((Step.of m (w ())).map f)) :
    Outcome reads stamp m r ((Step.of m (Work.check condition e >>= w)).map f) := by
  cases condition with
  | false => exact .refused e
  | true => exact h rfl

theorem of_require {value : Option β} {e : Error} {w : β → Work Progress α}
    (h : ∀ b, value = some b → Outcome reads stamp m r ((Step.of m (w b)).map f)) :
    Outcome reads stamp m r ((Step.of m (Work.require value e >>= w)).map f) := by
  cases value with
  | none => exact .refused e
  | some b => exact h b rfl

theorem of_current {w : Progress → Work Progress α}
    (h : Outcome reads stamp m r ((Step.of m (w ⟨m, []⟩)).map f)) :
    Outcome reads stamp m r ((Step.of m (Work.current >>= w)).map f) :=
  h

/-- A look-up is the only thing on the way that changes the machine: one name less is then to
be gathered. -/
theorem of_account {id : AccountId} {ids : List AccountId} {w : Account → Work Progress α}
    (h : ∀ a m₁, m.load reads id = (.ok a, m₁) →
      Outcome reads stamp (m₁.gather reads ids) r ((Step.of m₁ (w a)).map f)) :
    Outcome reads stamp (m.gather reads (id :: ids)) r
      ((Step.of m (Progress.account reads id >>= w)).map f) := by
  rw [gather, Step.of, Work.run_bind, Progress.run_account]
  rcases hl : m.load reads id with ⟨e | a, m₁⟩
  · -- nothing more is gathered, and nothing else is done
    exact .refused e
  · exact h a m₁ hl

end Outcome

end Machine

end CashMachine
