/-
Which transactions the audit trail takes.

A transaction is put at the end of the trail, or it is given to the stores to keep; both are offers
to the trail (`Offer`).  The trail takes the first offer of each name and refuses every later one,
whatever transaction comes with the name, and a refusal leaves everything as it was.  So the log
holds what was taken, in the order of the offers, the index holds the same transactions under their
names, and what is found is what was offered first.

* `Memory.offer_cases` — one offer: it is taken, or its name is in the log and it is refused;
* `Memory.log_offer`, `Memory.index_offer`, `Memory.get_offer` — what it leaves in the trail;
* `Memory.log_offers`, `Memory.index_offers`, `Memory.get_offers` — by induction a row of offers;
* `Memory.trail_faithful` — every row of offers to a new trail, and every further offer.
-/
import Mathlib.Data.List.Dedup
import CashMachine.Proofs.Trail

namespace CashMachine

/-- A transaction that is offered to the trail of a memory. -/
inductive Offer where
  /-- It is put at the end of the trail. -/
  | push (t : Transaction)
  /-- It is given to the stores to keep. -/
  | append (t : Transaction)

def Offer.transaction : Offer → Transaction
  | push t | append t => t

theorem AuditTrail.index_push {a b : AuditTrail} {t : Transaction} (h : a.push t = .ok b) :
    b.index = (t.id, t) :: a.index := by
  unfold push at h
  split at h
  · rw [← Except.ok.inj h]
    rfl
  · cases h

namespace Memory

/-- The answer to an offer, and what is kept after it. -/
def offer (m : Memory) : Offer → Except StoreError Unit × Memory
  | .push t =>
    match m.trail.push t with
    | .ok trail => (.ok (), { m with trail })
    | .error e => (.error e, m)
  | .append t => stores.write (.transaction t) m

/-- What is kept after a row of offers, one after the other. -/
def offers (m : Memory) (os : List Offer) : Memory :=
  os.foldl (fun m o => (m.offer o).2) m

/-- The transactions of the offers that are answered without an error. -/
def accepted (m : Memory) : List Offer → List Transaction
  | [] => []
  | o :: os =>
    match m.offer o with
    | (.ok _, k) => o.transaction :: k.accepted os
    | (.error _, k) => k.accepted os

/-! ### One offer -/

/-- An offer is taken into the trail, or refused because its name is in the log. -/
theorem offer_cases (m : Memory) (o : Offer) :
    (∃ trail, m.trail.push o.transaction = .ok trail ∧ m.offer o = (.ok (), { m with trail })) ∨
      (o.transaction.id ∈ m.trail.log.map Transaction.id ∧
        m.offer o = (.error (.duplicateTransaction o.transaction.id), m)) := by
  -- both ways of offering look at what the trail says of the transaction
  have hoffer : m.offer o = match m.trail.push o.transaction with
      | .ok trail => (.ok (), { m with trail })
      | .error e => (.error e, m) := by
    cases o <;> rfl
  rw [hoffer]
  cases hpush : m.trail.push o.transaction with
  | ok trail => exact .inl ⟨trail, rfl, rfl⟩
  | error e =>
    obtain ⟨hknown, rfl⟩ := AuditTrail.push_eq_error_iff.mp hpush
    refine .inr ⟨?_, rfl⟩
    by_contra hnew
    exact hknown (AuditTrail.get_eq_none.mpr hnew)

theorem offer_of_known {m : Memory} {o : Offer}
    (h : o.transaction.id ∈ m.trail.log.map Transaction.id) :
    m.offer o = (.error (.duplicateTransaction o.transaction.id), m) := by
  obtain ⟨trail, hpush, _⟩ | ⟨_, hoffer⟩ := m.offer_cases o
  · exact absurd h (AuditTrail.get_eq_none.mp (AuditTrail.log_of_push hpush).1)
  · exact hoffer

theorem offer_of_new {m : Memory} {o : Offer}
    (h : o.transaction.id ∉ m.trail.log.map Transaction.id) : (m.offer o).1 = .ok () := by
  obtain ⟨trail, _, hoffer⟩ | ⟨hknown, _⟩ := m.offer_cases o
  · rw [hoffer]
  · exact absurd hknown h

/-- After an offer its name is found: with what it was found with before, or else with the
transaction that was offered. -/
theorem get_offer (m : Memory) (o : Offer) (id : TransactionId) :
    (m.offer o).2.trail.get id =
      (m.trail.get id).or (if o.transaction.id = id then some o.transaction else none) := by
  obtain ⟨trail, hpush, hoffer⟩ | ⟨hknown, hoffer⟩ := m.offer_cases o
  · have hnew := (AuditTrail.log_of_push hpush).1
    rw [hoffer, AuditTrail.get_push hpush]
    by_cases hid : o.transaction.id = id
    · rw [if_pos hid, ← hid, hnew, if_pos rfl, Option.none_or]
    · rw [if_neg hid, if_neg hid, Option.or_none]
  · rw [hoffer]
    by_cases hid : o.transaction.id = id
    · have hfound : m.trail.get id ≠ none := by
        intro hnone
        exact AuditTrail.get_eq_none.mp hnone (hid ▸ hknown)
      obtain ⟨t, ht⟩ := Option.ne_none_iff_exists'.mp hfound
      rw [ht, Option.some_or]
    · rw [if_neg hid, Option.or_none]

/-- A transaction that is accepted goes to the end of the log. -/
theorem log_offer (m : Memory) (o : Offer) :
    (m.offer o).2.trail.log = m.trail.log ++ m.accepted [o] := by
  rw [accepted]
  obtain ⟨trail, hpush, hoffer⟩ | ⟨_, hoffer⟩ := m.offer_cases o
  · rw [hoffer]
    exact (AuditTrail.log_of_push hpush).2
  · rw [hoffer]
    exact (List.append_nil _).symm

/-- And it goes into the index, under its name. -/
theorem index_offer (m : Memory) (o : Offer) :
    (m.offer o).2.trail.index =
      (m.accepted [o]).map (fun t => (t.id, t)) ++ m.trail.index := by
  rw [accepted]
  obtain ⟨trail, hpush, hoffer⟩ | ⟨_, hoffer⟩ := m.offer_cases o
  · rw [hoffer]
    exact AuditTrail.index_push hpush
  · rw [hoffer]
    rfl

/-! ### Rows of offers -/

theorem offers_cons (m : Memory) (o : Offer) (os : List Offer) :
    m.offers (o :: os) = (m.offer o).2.offers os := rfl

theorem accepted_cons (m : Memory) (o : Offer) (os : List Offer) :
    m.accepted (o :: os) = m.accepted [o] ++ (m.offer o).2.accepted os := by
  rw [accepted, accepted]
  obtain ⟨answer, k⟩ := m.offer o
  cases answer <;> rfl

theorem log_offers (m : Memory) (os : List Offer) :
    (m.offers os).trail.log = m.trail.log ++ m.accepted os := by
  induction os generalizing m with
  | nil => exact (List.append_nil _).symm
  | cons o os ih => rw [offers_cons, accepted_cons, ih, log_offer, List.append_assoc]

/-- The index gets the transactions that the log gets. -/
theorem index_offers (m : Memory) (os : List Offer) :
    ((m.offers os).trail.index).Perm
      ((m.accepted os).map (fun t => (t.id, t)) ++ m.trail.index) := by
  induction os generalizing m with
  | nil => exact .refl _
  | cons o os ih =>
    rw [offers_cons, accepted_cons, List.map_append]
    refine (ih _).trans ?_
    -- the last one stands in front
    rw [index_offer, ← List.append_assoc]
    exact List.perm_append_comm.append_right _

/-- What is found under a name is what was there, or else what was offered first. -/
theorem get_offers (m : Memory) (os : List Offer) (id : TransactionId) :
    (m.offers os).trail.get id =
      (m.trail.get id).or ((os.map Offer.transaction).find? fun t => t.id = id) := by
  induction os generalizing m with
  | nil => exact (Option.or_none).symm
  | cons o os ih =>
    rw [offers_cons, ih, get_offer, Option.or_assoc, List.map_cons, List.find?_cons]
    by_cases hid : o.transaction.id = id
    · rw [if_pos hid, Option.some_or, decide_eq_true hid]
    · rw [if_neg hid, Option.none_or, decide_eq_false hid]

/-- Offers to a new trail, and one more offer after them.  It is refused, and changes nothing,
exactly when its name was accepted before.  The log is what was accepted, in order and with one
transaction of each name, the index has the same transactions, and there are as many as names were
offered.  A name is found with the first transaction that was offered under it, and an account with
the accepted transactions that name it, in order. -/
theorem trail_faithful {m : Memory} (hm : m.trail = AuditTrail.empty) (os : List Offer) :
    let k := m.offers os
    let taken := m.accepted os
    let offered := os.map Offer.transaction
    (∀ o : Offer,
      (k.offer o = (.error (.duplicateTransaction o.transaction.id), k) ↔
        o.transaction.id ∈ taken.map Transaction.id) ∧
      ((k.offer o).1 = .ok () ↔ o.transaction.id ∉ taken.map Transaction.id)) ∧
    k.trail.log = taken ∧ (taken.map Transaction.id).Nodup ∧
    (k.trail.index).Perm (taken.map fun t => (t.id, t)) ∧
    k.trail.size = (offered.map Transaction.id).dedup.length ∧
    (∀ id, k.trail.get id = offered.find? (fun t => t.id = id) ∧
      (stores.reads k).transaction id = .ok (offered.find? fun t => t.id = id)) ∧
    ∀ account,
      k.trail.forAccount account =
        taken.filter (fun t => t.source = some account ∨ t.destination = some account) ∧
      (stores.reads k).history account =
        .ok (taken.filter fun t => t.source = some account ∨ t.destination = some account) := by
  intro k taken offered
  have hlog : k.trail.log = taken := by
    have h := m.log_offers os
    rw [hm] at h
    exact h
  have hnodup : (taken.map Transaction.id).Nodup := hlog ▸ k.trail.nodup
  have hget : ∀ id, k.trail.get id = offered.find? fun t => t.id = id := by
    intro id
    have h := m.get_offers os id
    rw [hm] at h
    exact h
  -- a name was accepted exactly when it was offered, since then it is found
  have hnames : ∀ id, id ∈ taken.map Transaction.id ↔ id ∈ offered.map Transaction.id := by
    intro id
    have h : k.trail.get id = none ↔ id ∉ k.trail.log.map Transaction.id :=
      AuditTrail.get_eq_none
    rw [hget, hlog] at h
    rw [← not_iff_not, ← h]
    simp [List.find?_eq_none]
  refine ⟨?_, hlog, hnodup, ?_, ?_, fun id => ⟨hget id, congrArg Except.ok (hget id)⟩, ?_⟩
  · intro o
    rw [← hlog]
    constructor
    · constructor
      · intro hrefused
        by_contra hnew
        have hok := offer_of_new hnew
        rw [hrefused] at hok
        cases hok
      · exact offer_of_known
    · constructor
      · intro hok hknown
        rw [offer_of_known hknown] at hok
        cases hok
      · exact offer_of_new
  · have h := m.index_offers os
    rw [hm] at h
    rwa [show AuditTrail.empty.index = [] from rfl, List.append_nil] at h
  · have hperm : (taken.map Transaction.id).Perm (offered.map Transaction.id).dedup := by
      rw [List.perm_ext_iff_of_nodup hnodup (List.nodup_dedup _)]
      intro id
      rw [List.mem_dedup, hnames]
    rw [AuditTrail.size, hlog, ← hperm.length_eq, List.length_map]
  · intro account
    have hnamed : k.trail.forAccount account =
        taken.filter fun t => t.source = some account ∨ t.destination = some account := by
      rw [AuditTrail.forAccount, hlog]
      rfl
    exact ⟨hnamed, congrArg Except.ok hnamed⟩

/-- Ten is put in under a name, and twenty is offered under the same name and then under one of its
own: the second offer is refused, and the first name is found with ten. -/
theorem trail_faithful_repeated :
    let ten : Decimal := .ofNat 10 (by decide)
    let twenty : Decimal := .ofNat 20 (by decide)
    let first := Transaction.deposit ⟨"T1", Instant.epoch⟩ "A" ten
    let again := Transaction.transfer ⟨"T1", Instant.epoch⟩ "A" "A" twenty
    let second := Transaction.transfer ⟨"T2", Instant.epoch⟩ "A" "A" twenty
    let k := empty.offers [.push first, .append again, .append second]
    empty.trail = AuditTrail.empty ∧ k.trail.log = [first, second] ∧ k.trail.size = 2 ∧
      k.trail.get "T1" = some first ∧ k.trail.forAccount "A" = [first, second] ∧
      k.offer (.push again) = (.error (.duplicateTransaction "T1"), k) := by
  intro ten twenty first again second k
  obtain ⟨hnext, hlog, _, _, hsize, hget, hnamed⟩ :=
    trail_faithful (m := empty) rfl [.push first, .append again, .append second]
  exact ⟨rfl, hlog, hsize, (hget "T1").1, (hnamed "A").1,
    (hnext (.push again)).1.mpr List.mem_cons_self⟩

end Memory

end CashMachine
