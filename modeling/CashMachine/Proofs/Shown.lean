/-
The amount that a receipt shows.

An amount is printed with two fraction digits, and further ones are cut off.  What can be moved is
a whole number of cents at any scale (`Machine.checkAmount_eq_ok_iff`), so nothing is lost on the
receipt of a transaction that has been committed: the amount is read back from its line, and it is
the amount by which the balances have been changed.

* `Decimal.hasCents_moneyText`, `Decimal.exists_read?_moneyText_of_isCents` — how an amount is
  printed, and what is read from that;
* `Receipt.amount?`, `Receipt.amount?_showing` — the line of a receipt with the amount;
* `Outcome.of_committed` — what is known of a transaction that has been committed;
* `Receipt.amount_exact` — the amount on the receipt of a committed transaction.
-/
import CashMachine.Proofs.Books
import CashMachine.Proofs.Decimal.Text
import CashMachine.Proofs.Decimal.Whole
import CashMachine.Proofs.Machine.Perform
import CashMachine.Receipt

namespace CashMachine

open CashMachine.Text

/-! ### Two fraction digits -/

/-- The text is a row of digits, a point, and two more digits. -/
def Text.HasCents (s : List Char) : Prop :=
  ∃ whole cents, s = whole ++ '.' :: cents ∧ whole ≠ [] ∧ whole.all isDigit = true ∧
    cents.length = 2 ∧ cents.all isDigit = true

/-- It is one line. -/
theorem Text.HasCents.newline_notMem {s : List Char} (h : HasCents s) : '\n' ∉ s := by
  obtain ⟨whole, cents, rfl, _, hwhole, _, hcents⟩ := h
  rw [List.mem_append, List.mem_cons]
  rintro (hc | hc | hc)
  · exact absurd (List.all_eq_true.mp hwhole _ hc) (by decide)
  · exact absurd hc (by decide)
  · exact absurd (List.all_eq_true.mp hcents _ hc) (by decide)

namespace Decimal

variable {a b : Decimal}

theorem hasCents_moneyText (h : a.negative = false) : HasCents a.moneyText.toList := by
  refine ⟨a.wholeChars, (a.fractionChars ++ ['0', '0']).take 2, ?_, digits_ne_nil _,
    all_isDigit_digits _, ?_, ?_⟩
  · rw [moneyText, String.toList_ofList, signChars, h, if_neg Bool.false_ne_true, List.nil_append]
  · rw [List.length_take, List.length_append]
    exact Nat.min_eq_left (Nat.le_add_left 2 _)
  · have hall : (a.fractionChars ++ ['0', '0']).all isDigit = true := by
      rw [List.all_append, all_isDigit_fractionChars, Bool.true_and]
      decide
    exact List.all_eq_true.mpr fun c hc => List.all_eq_true.mp hall c (List.mem_of_mem_take hc)

/-- Of a whole number of cents nothing is cut off. -/
theorem exists_read?_moneyText_of_isCents (h : a.IsCents) :
    ∃ d, read? a.moneyText = some d ∧ d.value = a.value := by
  obtain ⟨d, hread, hcents⟩ := a.exists_read?_moneyText
  rw [cents_eq_iff.mpr h] at hcents
  exact ⟨d, hread, mul_right_cancel₀ (by norm_num) hcents⟩

/-- Different numbers of cents are printed differently, since each is read back. -/
theorem value_eq_of_moneyText_eq (ha : a.IsCents) (hb : b.IsCents)
    (h : a.moneyText = b.moneyText) : a.value = b.value := by
  obtain ⟨d, hread, hd⟩ := exists_read?_moneyText_of_isCents ha
  obtain ⟨e, hread', he⟩ := exists_read?_moneyText_of_isCents hb
  rw [h, hread'] at hread
  rw [← hd, ← he, Option.some_inj.mp hread]

end Decimal

/-! ### The line with the amount -/

namespace Receipt

/-- The lines of a receipt above the amount. -/
def heading (t : Transaction) : List String :=
  [rule, "       TRANSACTION RECEIPT       ", rule, "Transaction ID: " ++ t.id,
    "Type: " ++ t.kind.text]

/-- The lines of a receipt below the amount. -/
def footing (t : Transaction) : List String :=
  ["From Account: " ++ accountText t.source, "To Account: " ++ accountText t.destination,
    "Timestamp: " ++ t.time.plainText, rule]

/-- What stands before the amount on its line. -/
def amountLabel : String :=
  "Amount: €"

/-- The receipt of a transaction with a text for its amount. -/
def showing (t : Transaction) (shown : String) : String :=
  lines (heading t ++ (amountLabel ++ shown) :: footing t)

/-- The amount that a receipt shows: what follows the label on the first line that starts with
it. -/
def amount? (receipt : String) : Option String :=
  ((parts (· == '\n') receipt.toList).find? amountLabel.toList.isPrefixOf).map fun line =>
    String.ofList (line.drop amountLabel.toList.length)

theorem toList_lines_cons (l : String) (ls : List String) :
    (lines (l :: ls)).toList = l.toList ++ '\n' :: (lines ls).toList := by
  rw [lines, List.map_cons, String.join_cons, String.toList_append, String.toList_append,
    List.append_assoc]
  rfl

theorem toList_lines_append (ls more : List String) :
    (lines (ls ++ more)).toList = (lines ls).toList ++ (lines more).toList := by
  simp only [lines, String.toList_join, List.map_append, List.flatMap_append]

/-- Nothing else on a receipt depends on the amount, so a receipt shows one only. -/
theorem showing_inj {t : Transaction} {x y : String} : showing t x = showing t y ↔ x = y := by
  have hline (shown : String) : (showing t shown).toList = (lines (heading t)).toList ++
      (amountLabel.toList ++ (shown.toList ++ '\n' :: (lines (footing t)).toList)) := by
    rw [showing, toList_lines_append, toList_lines_cons, String.toList_append, List.append_assoc]
  rw [← String.toList_inj, hline, hline, List.append_cancel_left_eq, List.append_cancel_left_eq,
    List.append_cancel_right_eq, String.toList_inj]

/-- The lines of what is printed line by line, as far as each is one. -/
theorem parts_lines_append {ls : List String} (h : ∀ l ∈ ls, '\n' ∉ l.toList)
    (more : List String) : parts (· == '\n') (lines (ls ++ more)).toList =
      ls.map String.toList ++ parts (· == '\n') (lines more).toList := by
  induction ls with
  | nil => rfl
  | cons l ls ih =>
    have hl := h l List.mem_cons_self
    have hline : parts (· == '\n') l.toList = [l.toList] :=
      parts_of_no_sep fun c hc => beq_eq_false_iff_ne.mpr fun hn => hl (hn ▸ hc)
    rw [List.cons_append, toList_lines_cons, parts_append_sep _ _ _ rfl, hline,
      ih fun k hk => h k (List.mem_cons_of_mem _ hk)]
    rfl

/-- The lines above the amount have other labels. -/
theorem isPrefixOf_heading (t : Transaction) :
    ∀ l ∈ (heading t).map String.toList, amountLabel.toList.isPrefixOf l = false := by
  rw [List.forall_mem_map, heading]
  simp only [List.forall_mem_cons, String.toList_append]
  exact ⟨by decide, by decide, by decide, rfl, rfl, nofun⟩

theorem newline_notMem_heading {t : Transaction} (hid : '\n' ∉ t.id.toList) :
    ∀ l ∈ heading t, '\n' ∉ l.toList := by
  have hname : '\n' ∉ ("Transaction ID: " ++ t.id).toList := by
    rw [String.toList_append, List.mem_append]
    exact not_or.mpr ⟨by decide, hid⟩
  have hkind : '\n' ∉ ("Type: " ++ t.kind.text).toList := by
    cases t.kind <;> decide
  rw [heading]
  simp only [List.forall_mem_cons]
  exact ⟨by decide, by decide, by decide, hname, hkind, nofun⟩

/-- The amount is found below the name and the kind, as long as the name is one line. -/
theorem amount?_showing {t : Transaction} {shown : String} (hid : '\n' ∉ t.id.toList)
    (hshown : '\n' ∉ shown.toList) : amount? (showing t shown) = some shown := by
  have hline : '\n' ∉ (amountLabel ++ shown).toList := by
    rw [String.toList_append, List.mem_append]
    exact not_or.mpr ⟨by decide, hshown⟩
  have hall : ∀ l ∈ heading t ++ [amountLabel ++ shown], '\n' ∉ l.toList :=
    List.forall_mem_append.mpr ⟨newline_notMem_heading hid, List.forall_mem_singleton.mpr hline⟩
  have hlines := parts_lines_append hall (footing t)
  rw [List.append_assoc, List.singleton_append, ← showing, List.map_append, List.append_assoc]
    at hlines
  have hlabel : amountLabel.toList.isPrefixOf (amountLabel ++ shown).toList = true := by
    rw [String.toList_append, List.isPrefixOf_iff_prefix]
    exact List.prefix_append _ _
  have hfind : (parts (· == '\n') (showing t shown).toList).find? amountLabel.toList.isPrefixOf =
      some (amountLabel ++ shown).toList := by
    rw [hlines, List.find?_eq_some_iff_append]
    exact ⟨hlabel, _, _, rfl, fun l hl => by rw [isPrefixOf_heading t l hl]; rfl⟩
  rw [amount?, hfind, Option.map_some, String.toList_append, List.drop_left, String.ofList_toList]

end Receipt

/-! ### Transactions that have been committed -/

namespace Machine

variable {m : Machine} {reads : Reads} {stamp : Stamp} {r : Request} {s : Step Reply}
  {t : Transaction}

/-- A transaction that has been committed is the one that was asked for, with an amount that can
be moved. -/
theorem Outcome.of_committed (h : Outcome reads stamp m r s)
    (ht : s.answer = .ok (.committed t)) :
    r.transaction? stamp = some t ∧ r.committed stamp s.answer = [t] ∧
      0 < t.amount.value ∧ t.amount.IsCents := by
  cases h with
  | withdrawn hc =>
    cases ht
    exact ⟨rfl, rfl, checkAmount_eq_ok_iff.mp hc⟩
  | deposited hc =>
    cases ht
    exact ⟨rfl, rfl, checkAmount_eq_ok_iff.mp hc⟩
  | transferred hc =>
    cases ht
    exact ⟨rfl, rfl, checkAmount_eq_ok_iff.mp hc⟩
  | _ => cases ht

/-- The balances are changed by the amount of the transaction that has been committed: taken off
where it is named as the source, added where it is named as the destination, and nowhere else. -/
theorem Outcome.balance_of_committed (h : Outcome reads stamp m r s)
    (ht : s.answer = .ok (.committed t)) {id : AccountId} {a : Account}
    (ha : m.ledger.find? id = some a) :
    ∃ b, s.machine.ledger.find? id = some { a with balance := b } ∧
      (t.source = some id ∧ a.balance.sub? t.amount = some b ∨
        t.destination = some id ∧ a.balance.add? t.amount = some b ∨
        t.involves id = false ∧ b = a.balance) := by
  obtain ⟨_, hcommitted, _⟩ := h.of_committed ht
  obtain ⟨b, hfind, hcase⟩ := h.balance_change ha
  refine ⟨b, hfind, ?_⟩
  rw [hcommitted] at hcase
  obtain ⟨hb, hother⟩ | ⟨u, hu, _, ⟨hd, _, hadd⟩ | ⟨hs, _, hsub⟩⟩ := hcase
  · exact .inr (.inr ⟨hother t List.mem_cons_self, hb⟩)
  · obtain rfl := List.singleton_inj.mp hu
    exact .inr (.inl ⟨hd, hadd⟩)
  · obtain rfl := List.singleton_inj.mp hu
    exact .inl ⟨hs, hsub⟩

end Machine

namespace Receipt

/-- The receipt of a transaction that has been committed shows its amount exactly.  What stands
behind the euro sign has two fraction digits and is read as the amount, at whatever scale that was
given.  The transaction is the one that was asked for, and its amount is the one that has been
taken off the balance of its source and added to that of its destination.  No transaction of
another amount, whichever machine committed it, is printed with the same one. -/
theorem amount_exact {m : Machine} {reads : Reads} {stamp : Stamp} {r : Request}
    {t : Transaction} (h : (m.perform reads stamp r).answer = .ok (.committed t)) :
    ∃ shown,
      ofTransaction t = showing t shown ∧
      ('\n' ∉ t.id.toList → amount? (ofTransaction t) = some shown) ∧
      HasCents shown.toList ∧
      (∃ d, Decimal.read? shown = some d ∧ d.equals t.amount = true ∧
        d.value = t.amount.value) ∧
      r.transaction? stamp = some t ∧
      (∀ id a, (m.admitted reads r).ledger.find? id = some a →
        ∃ b, (m.perform reads stamp r).machine.ledger.find? id = some { a with balance := b } ∧
          (t.source = some id ∧ a.balance.sub? t.amount = some b ∨
            t.destination = some id ∧ a.balance.add? t.amount = some b ∨
            t.involves id = false ∧ b = a.balance)) ∧
      ∀ (m' : Machine) (reads' : Reads) (stamp' : Stamp) (r' : Request) (t' : Transaction),
        (m'.perform reads' stamp' r').answer = .ok (.committed t') →
          ofTransaction t' = showing t' shown → t'.amount.value = t.amount.value := by
  have ho := m.outcome_perform reads stamp r
  obtain ⟨hasked, _, hpos, hcents⟩ := ho.of_committed h
  have hform := Decimal.hasCents_moneyText (Decimal.negative_eq_false_of_pos hpos)
  refine ⟨t.amount.moneyText, rfl, ?_, ?_, ?_, hasked, fun _ _ => ho.balance_of_committed h, ?_⟩
  · exact fun hid => amount?_showing hid hform.newline_notMem
  · exact hform
  · obtain ⟨d, hread, hd⟩ := Decimal.exists_read?_moneyText_of_isCents hcents
    exact ⟨d, hread, Decimal.equals_iff_value_eq.mpr hd, hd⟩
  · intro m' reads' stamp' r' t' h' hshown
    obtain ⟨_, _, _, hcents'⟩ := (m'.outcome_perform reads' stamp' r').of_committed h'
    exact Decimal.value_eq_of_moneyText_eq hcents' hcents (showing_inj.mp hshown)

/-- A deposit at three places of its fraction. -/
theorem amount_exact_three_places :
    let a : Account := ⟨"A", "Ada", .checking, .ofNat 50 (by decide)⟩
    let amount : Decimal := ⟨false, 1234500, 3, by decide, by decide⟩
    let m : Machine := ⟨"M", Dispenser.greedy, Ledger.empty, Reserve.empty, ⟨2, 0⟩⟩
    let reads := Memory.reads { Memory.empty with accounts := [a] }
    let stamp : Stamp := ⟨"T", Instant.epoch⟩
    let t := Transaction.deposit stamp "A" amount
    (m.perform reads stamp (.deposit "A" amount)).answer = .ok (.committed t) ∧
      amount? (ofTransaction t) = some "1234.50" ∧
      ∃ d, Decimal.read? "1234.50" = some d ∧ d.value = amount.value := by
  intro a amount m reads stamp t
  have h : (m.perform reads stamp (.deposit "A" amount)).answer = .ok (.committed t) := by
    decide +kernel
  obtain ⟨shown, hshowing, hamount, _, ⟨d, hread, _, hd⟩, _⟩ := amount_exact h
  have hshown : shown = "1234.50" := by
    rw [← showing_inj.mp hshowing]
    decide +kernel
  subst hshown
  exact ⟨h, hamount (by decide), d, hread, hd⟩

end Receipt

end CashMachine
