/-
Every operation is refused and has done nothing, or does one thing in full.

Each operation is gone through as it is written: what it looks at and checks, one after the
other, and then its changes.  No operation fails between its first change and its last one:

* a debit that is covered leaves an amount in range (`Account.exists_debited`);
* notes that are held can be taken out, whatever the plan (`forM_takeOut_of_within`);
* a move that has been checked is made (`Ledger.move_cases`).

Main statement: `outcome_perform` — every operation, on every machine, over any stores.
-/
import CashMachine.Proofs.Machine.Outcome

namespace CashMachine

namespace Account

/-- A debit that is covered never leaves the range of amounts. -/
theorem exists_debited {a : Account} {amount : Decimal} (hpos : 0 < amount.value)
    (h : amount.value ≤ a.balance.value) :
    ∃ b, a.debited amount = .ok b ∧ a.balance.sub? amount = some b := by
  obtain ⟨b, hb⟩ := Decimal.exists_sub?_of_le hpos.le h
  refine ⟨b, debited_eq_ok_iff.mpr ⟨Decimal.isPositive_iff.mpr hpos, ?_, hb⟩, hb⟩
  rw [Decimal.lt_iff_value_lt]
  exact not_lt.mpr h

end Account

theorem Reserve.addAll_of_isEmpty (r : Reserve) {notes : Notes} (h : notes.isEmpty = true) :
    r.addAll notes = r := by
  rw [Notes.isEmpty, List.isEmpty_iff] at h
  have hnotes : r.notes.addAll notes = r.notes := by
    rw [Notes.addAll, h, List.foldl_nil]
  exact Reserve.ext hnotes rfl rfl

namespace Machine

variable {m : Machine}

/-! ### Accounts and questions -/

theorem openAccount_of_refused {a : Account} {e : Error}
    (ho : m.ledger.openAccount a = .error e) : m.openAccount a = ⟨.error e, m, []⟩ := by
  simp [openAccount, Step.of, ho]

theorem openAccount_of_known {a : Account}
    (ho : m.ledger.openAccount a = .ok (m.ledger, false)) :
    m.openAccount a = ⟨.ok false, m, []⟩ := by
  simp [openAccount, Step.of, ho]

theorem openAccount_of_new {a : Account} {k : Ledger}
    (ho : m.ledger.openAccount a = .ok (k, true)) (hget : k.find? a.id = some a) :
    m.openAccount a = ⟨.ok true, { m with ledger := k }, [.write (.account a)]⟩ := by
  simp [openAccount, Step.of, ho, Ledger.get_eq_ok_iff.mpr hget]

theorem outcome_openAccount (reads : Reads) (stamp : Stamp) (m : Machine) (a : Account) :
    Outcome reads stamp (m.admitted reads (.openAccount a)) (.openAccount a)
      ((m.openAccount a).map .opened) := by
  obtain ⟨ho, _⟩ | ⟨ho, hf⟩ | ⟨k, ho, hk, _, hf⟩ := m.ledger.openAccount_cases a
  · have hm : m.admitted reads (.openAccount a) = m := by simp [admitted, ho]
    rw [hm, openAccount_of_refused ho]
    exact .refused .invalidAmount
  · have hm : m.admitted reads (.openAccount a) = m := by simp [admitted, ho]
    rw [hm, openAccount_of_known ho]
    exact .known hf
  · have hm : m.admitted reads (.openAccount a) = { m with ledger := k } := by
      simp [admitted, ho]
    have hget := Ledger.find?_new hk hf
    rw [hm, openAccount_of_new ho hget]
    exact .opened hget

theorem outcome_balance (reads : Reads) (stamp : Stamp) (m : Machine) (id : AccountId) :
    Outcome reads stamp (m.admitted reads (.balance id)) (.balance id)
      ((m.balance reads id).map .balance) := by
  refine .of_account fun a m₁ hl => ?_
  exact .balance (load_eq_ok hl).1

theorem outcome_history (reads : Reads) (stamp : Stamp) (m : Machine) (id : AccountId) :
    Outcome reads stamp (m.admitted reads (.history id)) (.history id)
      ((m.history reads id).map .history) := by
  refine .of_account fun a m₁ hl => ?_
  cases hh : reads.history id with
  | error e => exact .refused (.storage e)
  | ok ts => exact .history (load_eq_ok hl).1 hh

theorem outcome_transaction (reads : Reads) (stamp : Stamp) (m : Machine) (id : TransactionId) :
    Outcome reads stamp (m.admitted reads (.transaction id)) (.transaction id)
      ((m.transaction reads id).map .found) := by
  show Outcome reads stamp m _ _
  rw [transaction]
  -- here the stores are asked without a look-up of an account
  rcases hr : reads.transaction id with e | _ | t
  · exact .refused (.storage e)
  · exact .refused (.transactionNotFound id)
  · exact .found hr

/-! ### Moving money -/

/-- What taking notes in comes to; where there are none, the reserve is as it was. -/
theorem run_takeIn (notes : Notes) (p : Progress) :
    takeIn notes p =
      (.ok (), ⟨{ p.machine with reserve := p.machine.reserve.addAll notes },
        p.effects ++ if notes.isEmpty then []
          else [.write (.reserve (p.machine.reserve.addAll notes))]⟩) := by
  unfold takeIn
  cases hn : notes.isEmpty with
  | false => simp
  | true => simp [Reserve.addAll_of_isEmpty, hn]

theorem outcome_withdraw (reads : Reads) (stamp : Stamp) (m : Machine) (id : AccountId)
    (amount : Decimal) :
    Outcome reads stamp (m.admitted reads (.withdraw id amount)) (.withdraw id amount)
      ((m.withdraw reads stamp id amount).map .committed) := by
  cases hc : checkAmount amount with
  | error e =>
    have hm : m.admitted reads (.withdraw id amount) = m := by
      simp [admitted, Request.lookups, hc, gather]
    rw [hm, withdraw, hc]
    exact .refused e
  | ok u =>
    have hm : m.admitted reads (.withdraw id amount) = m.gather reads [id] := by
      simp [admitted, Request.lookups, hc]
    rw [hm, withdraw, hc]
    refine Outcome.of_account fun a m₁ hl => ?_
    show Outcome reads stamp m₁ _ _
    refine .of_current ?_
    refine .of_check fun hlt => ?_
    refine .of_check fun _ => ?_
    refine .of_require fun plan hp => ?_
    -- from here on nothing can fail: the balance covers the amount, and the notes are held
    have hle := not_lt.mp (mt Decimal.lt_iff_value_lt.mpr (of_decide_eq_true hlt))
    obtain ⟨b, hd, hb⟩ := Account.exists_debited (checkAmount_eq_ok_iff.mp hc).1 hle
    have hw : plan.within m₁.reserve.notes = true := (plan?_eq_some_iff.mp hp).2.2
    refine (Outcome.withdrawn hc (load_eq_ok hl).1 hle hp hb).congr ?_
    simp [Step.of, Step.map, Except.map, Account.debit_of_debited hd, putBalance,
      forM_takeOut_of_within, hw, Progress.withNotes, paidOut]

theorem outcome_deposit (reads : Reads) (stamp : Stamp) (m : Machine) (id : AccountId)
    (amount : Decimal) :
    Outcome reads stamp (m.admitted reads (.deposit id amount)) (.deposit id amount)
      ((m.deposit reads stamp id amount).map .committed) := by
  cases hc : checkAmount amount with
  | error e =>
    have hm : m.admitted reads (.deposit id amount) = m := by
      simp [admitted, Request.lookups, hc, gather]
    rw [hm, deposit, hc]
    exact .refused e
  | ok u =>
    have hm : m.admitted reads (.deposit id amount) = m.gather reads [id] := by
      simp [admitted, Request.lookups, hc]
    rw [hm, deposit, hc]
    refine Outcome.of_account fun a m₁ hl => ?_
    show Outcome reads stamp m₁ _ _
    -- a credit can leave the range of amounts, but nothing has happened before it
    cases hd : a.credited amount with
    | error e =>
      rw [Account.credit_of_refused hd]
      exact .refused e
    | ok b =>
      have hb := (Account.credited_eq_ok_iff.mp hd).2
      refine (Outcome.deposited hc (load_eq_ok hl).1 hb).congr ?_
      simp [Step.of, Step.map, Except.map, Account.credit_of_credited hd, putBalance, run_takeIn,
        paidIn]

theorem outcome_transfer (reads : Reads) (stamp : Stamp) (m : Machine)
    (source destination : AccountId) (amount : Decimal) :
    Outcome reads stamp (m.admitted reads (.transfer source destination amount))
      (.transfer source destination amount)
      ((m.transfer reads stamp source destination amount).map .committed) := by
  cases hc : checkAmount amount with
  | error e =>
    have hm : m.admitted reads (.transfer source destination amount) = m := by
      simp [admitted, Request.lookups, hc, gather]
    rw [hm, transfer, hc]
    exact .refused e
  | ok u =>
    -- an account to itself is refused before any look-up
    by_cases hne : source = destination
    · have hm : m.admitted reads (.transfer source destination amount) = m := by
        simp [admitted, Request.lookups, hc, hne, gather]
      rw [hm, transfer, hc]
      refine .of_check fun hcheck => ?_
      exact absurd hne (of_decide_eq_true hcheck)
    have hm : m.admitted reads (.transfer source destination amount) =
        m.gather reads [source, destination] := by
      simp [admitted, Request.lookups, hc, hne]
    rw [hm, transfer, hc, decide_eq_true hne]
    refine Outcome.of_account fun _ m₁ _ => ?_
    refine .of_account fun _ m₂ _ => ?_
    show Outcome reads stamp m₂ _ _
    -- the accounts are looked at again, together, by the move itself
    obtain ⟨e, hv⟩ | ⟨a, b, x, y, _, ha, hb, hx, hy, hv⟩ :=
      m₂.ledger.move_cases source destination amount
    · refine (Outcome.refused e).congr ?_
      simp [Step.of, Step.map, Except.map, Progress.run_onLedger, hv]
    · obtain ⟨_, hlt, hx⟩ := Account.debited_eq_ok_iff.mp hx
      have hle := not_lt.mp (mt Decimal.lt_iff_value_lt.mpr hlt)
      have hy := (Account.credited_eq_ok_iff.mp hy).2
      refine (Outcome.transferred hc hne ha hb hle hx hy).congr ?_
      simp [Step.of, Step.map, Except.map, Progress.run_onLedger, hv]

/-! ### Receipts and maintenance -/

theorem run_payReceipt_of_short {p : Progress} {what : Shortage}
    (h : p.machine.reserve.shortage? = some what) :
    payReceipt p = (.error (.unavailable what), p) := by
  simp [payReceipt, h]

theorem run_payReceipt {p : Progress} (h : p.machine.reserve.shortage? = none) :
    payReceipt p =
      (.ok (), ⟨{ p.machine with reserve := p.machine.reserve.consume },
        p.effects ++ [.write (.reserve p.machine.reserve.consume)]⟩) := by
  simp [payReceipt, h]

theorem outcome_printReceipt (reads : Reads) (stamp : Stamp) (m : Machine) (t : Transaction) :
    Outcome reads stamp (m.admitted reads (.printReceipt t)) (.printReceipt t)
      ((m.printReceipt t).map fun _ => .printed) := by
  show Outcome reads stamp m _ _
  rw [printReceipt]
  cases hs : m.reserve.shortage? with
  | some what =>
    refine (Outcome.refused (.unavailable what)).congr ?_
    simp [Step.of, Step.map, Except.map, run_payReceipt_of_short, hs]
  | none =>
    refine (Outcome.printed (Reserve.shortage?_eq_none_iff.mp hs)).congr ?_
    simp [Step.of, Step.map, Except.map, run_payReceipt, hs]

theorem outcome_printBalance (reads : Reads) (stamp : Stamp) (m : Machine) (id : AccountId) :
    Outcome reads stamp (m.admitted reads (.printBalance id)) (.printBalance id)
      ((m.printBalance reads id).map .balance) := by
  refine .of_account fun a m₁ hl => ?_
  show Outcome reads stamp m₁ _ _
  cases hs : m₁.reserve.shortage? with
  | some what =>
    refine (Outcome.refused (.unavailable what)).congr ?_
    simp [Step.of, Step.map, Except.map, run_payReceipt_of_short, hs]
  | none =>
    have hprint := Reserve.shortage?_eq_none_iff.mp hs
    refine (Outcome.printedBalance (load_eq_ok hl).1 hprint).congr ?_
    simp [Step.of, Step.map, Except.map, run_payReceipt, hs]

theorem outcome_replenish (reads : Reads) (stamp : Stamp) (m : Machine) (role : Role)
    (notes : Notes) :
    Outcome reads stamp (m.admitted reads (.replenish role notes)) (.replenish role notes)
      ((m.replenish role notes).map .reserve) := by
  refine .of_lift fun _ hp => ?_
  refine .of_check fun hn => ?_
  exact .replenished hp (Bool.not_eq_true' _ ▸ hn)

theorem outcome_refillInk (reads : Reads) (stamp : Stamp) (m : Machine) (role : Role) :
    Outcome reads stamp (m.admitted reads (.refillInk role)) (.refillInk role)
      ((m.refillInk role).map .ink) := by
  refine .of_lift fun _ hp => ?_
  exact .inkRefilled hp

theorem outcome_restockPaper (reads : Reads) (stamp : Stamp) (m : Machine) (role : Role)
    (sheets : Nat32) :
    Outcome reads stamp (m.admitted reads (.restockPaper role sheets)) (.restockPaper role sheets)
      ((m.restockPaper role sheets).map .paper) := by
  refine .of_lift fun _ hp => ?_
  refine .of_check fun hs => ?_
  exact .restocked hp (of_decide_eq_true hs)

theorem outcome_updateSoftware (reads : Reads) (stamp : Stamp) (m : Machine) (role : Role)
    (version : Version) :
    Outcome reads stamp (m.admitted reads (.updateSoftware role version))
      (.updateSoftware role version) ((m.updateSoftware role version).map .policy) := by
  refine .of_lift fun _ hp => ?_
  refine .of_current ?_
  refine .of_check fun hv => ?_
  exact .updated hp (of_decide_eq_true hv)

/-! ### All operations -/

/-- Every operation is refused and has done nothing, or does one thing in full. -/
theorem outcome_perform (m : Machine) (reads : Reads) (stamp : Stamp) (r : Request) :
    Outcome reads stamp (m.admitted reads r) r (m.perform reads stamp r) := by
  cases r with
  | openAccount a => exact outcome_openAccount reads stamp m a
  | withdraw id amount => exact outcome_withdraw reads stamp m id amount
  | deposit id amount => exact outcome_deposit reads stamp m id amount
  | transfer source destination amount =>
    exact outcome_transfer reads stamp m source destination amount
  | balance id => exact outcome_balance reads stamp m id
  | history id => exact outcome_history reads stamp m id
  | transaction id => exact outcome_transaction reads stamp m id
  | printReceipt t => exact outcome_printReceipt reads stamp m t
  | printBalance id => exact outcome_printBalance reads stamp m id
  | replenish role notes => exact outcome_replenish reads stamp m role notes
  | refillInk role => exact outcome_refillInk reads stamp m role
  | restockPaper role sheets => exact outcome_restockPaper reads stamp m role sheets
  | updateSoftware role version => exact outcome_updateSoftware reads stamp m role version

end Machine

end CashMachine
