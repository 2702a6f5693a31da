/-
Ink and paper reconcile with what was printed.

Whatever is handed to the printer costs one percent of ink and one sheet, and nothing else does.
Ink is otherwise only set back to a full cartridge, and paper is only added to.  So along a run the
sheets that came in are those that are there and those that were printed on, as long as no count
of sheets goes beyond the largest one; and what is missing of the ink since the last refill was
printed with.

* `Reserve.Used` — what an operation can do to ink and paper, `Outcome.used` — every operation;
* `Used.ink`, `Used.paper` — the two sums, `ink_run`, `paper_run` — by induction those of a run;
* `Session.Supplied` — how a request for a slip is answered by the levels;
* `supplies_reconcile` — every run, and every further request.
-/
import CashMachine.Proofs.Cash
import CashMachine.Proofs.Likeness

namespace CashMachine

namespace Request

/-- The sheets that maintenance has put in, by the answer to it. -/
def restocked : Request → Except Error Reply → List Nat32
  | .restockPaper _ sheets, .ok _ => [sheets]
  | _, _ => []

/-- The level to which maintenance has refilled the ink, by the answer to it. -/
def refilled : Request → Except Error Reply → List Nat
  | .refillInk _, .ok _ => [Reserve.fullInk]
  | _, _ => []

/-- The requests that can change the level of ink: slips and refills. -/
def usesInk : Request → Bool
  | .printReceipt _ | .printBalance _ | .refillInk _ => true
  | _ => false

/-- The requests that can change the number of sheets: slips, and putting sheets in. -/
def usesPaper : Request → Bool
  | .printReceipt _ | .printBalance _ | .restockPaper .. => true
  | _ => false

end Request

namespace Reserve

variable {r before after : Reserve} {slips : List Printed} {levels : List Nat}
  {sheets : List Nat32}

theorem canPrint_iff : r.canPrint = true ↔ 0 < r.ink ∧ 0 < r.paper.val := by
  simp [canPrint]

/-- What an operation can do to ink and paper, with the slips that it prints, the levels to which
it refills the ink, and the sheets that it puts in. -/
inductive Used (before after : Reserve) : List Printed → List Nat → List Nat32 → Prop
  | nothing (hi : after.ink = before.ink) (hp : after.paper = before.paper) :
    Used before after [] [] []
  | slip (p : Printed) (hi : after.ink + 1 = before.ink)
    (hp : after.paper.val + 1 = before.paper.val) : Used before after [p] [] []
  | refill (hi : after.ink = fullInk) (hp : after.paper = before.paper) :
    Used before after [] [fullInk] []
  | restock (n : Nat32) (hi : after.ink = before.ink) (hp : after.paper = before.paper.add n) :
    Used before after [] [] [n]

theorem used_consume (h : r.canPrint = true) (p : Printed) : Used r r.consume [p] [] [] := by
  obtain ⟨hink, hpaper⟩ := canPrint_iff.mp h
  rw [consume, if_pos h]
  exact .slip p (Nat.sub_add_cancel hink) (Nat.sub_add_cancel hpaper)

/-- Where none is refilled, the ink that there was is left or was printed with. -/
theorem Used.ink (h : Used before after slips [] sheets) :
    after.ink + slips.length = before.ink := by
  cases h with
  | nothing hi hp => exact hi
  | slip p hi hp => exact hi
  | restock n hi hp => exact hi

/-- Refilling fills the cartridge. -/
theorem Used.ink_of_refilled (h : Used before after slips levels sheets) (hl : levels ≠ []) :
    after.ink = fullInk := by
  cases h with
  | refill hi hp => exact hi
  | _ => exact absurd rfl hl

/-- Where the sheets can be counted, those that there were and came in are left or were printed
on. -/
theorem Used.paper (h : Used before after slips levels sheets)
    (hroom : ∀ n ∈ sheets, before.paper.val + n.val ≤ Nat32.max.val) :
    after.paper.val + slips.length = before.paper.val + (sheets.map Nat32.val).sum := by
  cases h with
  | nothing hi hp | refill hi hp => rw [hp]; rfl
  | slip p hi hp => exact hp
  | restock n hi hp =>
    have hcounted := Nat32.val_capped_of_le (hroom n List.mem_cons_self)
    rw [hp, Nat32.add, hcounted]
    rfl

end Reserve

namespace Machine

variable {reads : Reads} {stamp : Stamp} {m : Machine} {r : Request} {s : Step Reply}

/-! ### One operation -/

theorem Outcome.used (h : Outcome reads stamp m r s) :
    Reserve.Used m.reserve s.machine.reserve (Effect.prints s.effects) (r.refilled s.answer)
      (r.restocked s.answer) := by
  cases h with
  | refused e => cases r <;> exact .nothing rfl rfl
  | deposited =>
    -- whether notes are written or not, nothing is printed
    simp only
    split <;> exact .nothing rfl rfl
  | printed hprint | printedBalance _ hprint => exact Reserve.used_consume hprint _
  | inkRefilled => exact .refill rfl rfl
  | restocked => exact .restock _ rfl rfl
  | _ => exact .nothing rfl rfl

/-- All but slips and refills leave the ink as it is, and so does what is refused. -/
theorem Outcome.ink_eq (h : Outcome reads stamp m r s)
    (hr : r.usesInk = false ∨ ∃ e, s.answer = .error e) :
    s.machine.reserve.ink = m.reserve.ink := by
  cases h with
  | printed | printedBalance | inkRefilled =>
    obtain hr | ⟨e, he⟩ := hr
    · cases hr
    · cases he
  | _ => rfl

/-- All but slips and putting sheets in leave the paper as it is, and so does what is refused. -/
theorem Outcome.paper_eq (h : Outcome reads stamp m r s)
    (hr : r.usesPaper = false ∨ ∃ e, s.answer = .error e) :
    s.machine.reserve.paper = m.reserve.paper := by
  cases h with
  | printed | printedBalance | restocked =>
    obtain hr | ⟨e, he⟩ := hr
    · cases hr
    · cases he
  | _ => rfl

end Machine

/-! ### Runs -/

namespace Session

variable {σ : Type} {stores : Stores σ} {s : Session σ}

/-- What a request hands to the printer. -/
def slips (stores : Stores σ) (s : Session σ) (r : Stamp × Request) : List Printed :=
  (s.perform stores r.1 r.2).printed

theorem used_perform (stores : Stores σ) (s : Session σ) (r : Stamp × Request) :
    Reserve.Used s.machine.reserve (s.perform stores r.1 r.2).session.machine.reserve
      (s.slips stores r) (s.answered Request.refilled stores r)
      (s.answered Request.restocked stores r) := by
  have h := (Machine.outcome_perform s.machine (stores.reads s.store) r.1 r.2).used
  rw [Machine.reserve_admitted] at h
  exact h

theorem ink_perform (stores : Stores σ) (s : Session σ) (stamp : Stamp) {r : Request}
    (hr : r.usesInk = false ∨ ∃ e, (s.perform stores stamp r).answer = .error e) :
    (s.perform stores stamp r).session.machine.reserve.ink = s.machine.reserve.ink := by
  have h := (Machine.outcome_perform s.machine (stores.reads s.store) stamp r).ink_eq hr
  rw [Machine.reserve_admitted] at h
  exact h

theorem paper_perform (stores : Stores σ) (s : Session σ) (stamp : Stamp) {r : Request}
    (hr : r.usesPaper = false ∨ ∃ e, (s.perform stores stamp r).answer = .error e) :
    (s.perform stores stamp r).session.machine.reserve.paper = s.machine.reserve.paper := by
  have h := (Machine.outcome_perform s.machine (stores.reads s.store) stamp r).paper_eq hr
  rw [Machine.reserve_admitted] at h
  exact h

/-- Along a run without a refill, what is missing of the ink was printed with. -/
theorem ink_run (s : Session σ) (rs : List (Stamp × Request))
    (hnone : s.along stores (answered Request.refilled stores) rs = []) :
    (s.run stores rs).machine.reserve.ink + (s.along stores (slips stores) rs).length =
      s.machine.reserve.ink := by
  induction rs generalizing s with
  | nil => rfl
  | cons r rs ih =>
    obtain ⟨hfirst, hrest⟩ := List.append_eq_nil_iff.mp hnone
    have hused := used_perform stores s r
    rw [hfirst] at hused
    have hink := hused.ink
    have hlast := ih (s.perform stores r.1 r.2).session hrest
    rw [along, List.length_append, run, List.foldl_cons, ← run]
    omega

/-- Along a run in which the sheets can be counted, those that came in are there or were printed
on. -/
theorem paper_run (s : Session σ) (rs : List (Stamp × Request))
    (hroom : ∀ qs r, qs ++ [r] <+: rs →
      ∀ n ∈ (s.run stores qs).answered Request.restocked stores r,
        (s.run stores qs).machine.reserve.paper.val + n.val ≤ Nat32.max.val) :
    (s.run stores rs).machine.reserve.paper.val + (s.along stores (slips stores) rs).length =
      s.machine.reserve.paper.val +
        ((s.along stores (answered Request.restocked stores) rs).map Nat32.val).sum := by
  induction rs generalizing s with
  | nil => rfl
  | cons r rs ih =>
    have hpaper := (used_perform stores s r).paper (hroom [] r ⟨rs, rfl⟩)
    -- the points of the rest of the run are points of the run
    have hlast := ih (s.perform stores r.1 r.2).session
      fun qs q hq => hroom (r :: qs) q (List.cons_prefix_cons.mpr ⟨rfl, hq⟩)
    rw [along, along, List.length_append, List.map_append, List.sum_append, run, List.foldl_cons,
      ← run]
    omega

/-! ### Slips -/

/-- How a request for a slip is answered by the levels of ink and paper: it is printed where there
is some of both, and otherwise refused for what is missing, for ink before paper. -/
structure Supplied (reserve : Reserve) (result : Result σ) (reply : Reply) (slip : Printed) :
    Prop where
  answered_iff : (∃ x, result.answer = .ok x) ↔ 0 < reserve.ink ∧ 0 < reserve.paper.val
  printed : 0 < reserve.ink → 0 < reserve.paper.val →
    result.answer = .ok reply ∧ result.printed = [slip]
  noInk : reserve.ink = 0 → result.answer = .error (.unavailable .ink) ∧ result.printed = []
  noPaper : 0 < reserve.ink → reserve.paper.val = 0 →
    result.answer = .error (.unavailable .paper) ∧ result.printed = []

theorem supplied_of_shortage {reserve : Reserve} {result : Result σ} {reply : Reply}
    {slip : Printed}
    (hshort : ∀ what, reserve.shortage? = some what →
      result.answer = .error (.unavailable what) ∧ result.printed = [])
    (hprint : reserve.shortage? = none → result.answer = .ok reply ∧ result.printed = [slip]) :
    Supplied reserve result reply slip := by
  have hnone : 0 < reserve.ink → 0 < reserve.paper.val → reserve.shortage? = none :=
    fun hink hpaper => Reserve.shortage?_eq_none_iff.mpr (Reserve.canPrint_iff.mpr ⟨hink, hpaper⟩)
  refine ⟨⟨?_, ?_⟩, fun hink hpaper => hprint (hnone hink hpaper), ?_, ?_⟩
  · rintro ⟨x, hx⟩
    cases hs : reserve.shortage? with
    | none => exact Reserve.canPrint_iff.mp (Reserve.shortage?_eq_none_iff.mp hs)
    | some what =>
      rw [(hshort what hs).1] at hx
      cases hx
  · rintro ⟨hink, hpaper⟩
    exact ⟨reply, (hprint (hnone hink hpaper)).1⟩
  · intro hink
    exact hshort .ink (by simp [Reserve.shortage?, hink])
  · intro hink hpaper
    exact hshort .paper (by simp [Reserve.shortage?, hink.ne', hpaper])

theorem supplied_printReceipt (stores : Stores σ) (s : Session σ) (stamp : Stamp)
    (t : Transaction) :
    Supplied s.machine.reserve (s.perform stores stamp (.printReceipt t)) .printed
      (.transaction t) := by
  refine supplied_of_shortage ?_ ?_
  · intro what hwhat
    simp [perform, Machine.perform, Machine.printReceipt, Step.of, Step.map, Except.map,
      Machine.run_payReceipt_of_short, hwhat, Effect.prints]
  · intro hnone
    simp [perform, Machine.perform, Machine.printReceipt, Step.of, Step.map, Except.map,
      Machine.run_payReceipt, hnone, Effect.prints]

/-- A look-up on the way does not touch the levels. -/
theorem supplied_printBalance (stores : Stores σ) (s : Session σ) (stamp : Stamp)
    {id : AccountId} {a : Account} (ha : (s.machine.load (stores.reads s.store) id).1 = .ok a) :
    Supplied s.machine.reserve (s.perform stores stamp (.printBalance id)) (.balance a.balance)
      (.balance id a.balance) := by
  have hreserve := (Machine.grown_load s.machine (stores.reads s.store) id).reserve
  rcases hl : s.machine.load (stores.reads s.store) id with ⟨x, m⟩
  rw [hl] at ha hreserve
  obtain rfl : x = .ok a := ha
  have hreserve : m.reserve = s.machine.reserve := hreserve
  refine supplied_of_shortage ?_ ?_
  · intro what hwhat
    rw [← hreserve] at hwhat
    simp [perform, Machine.perform, Machine.printBalance, Step.of, Step.map, Except.map,
      Progress.run_account, hl, Machine.run_payReceipt_of_short, hwhat, Effect.prints]
  · intro hnone
    rw [← hreserve] at hnone
    simp [perform, Machine.perform, Machine.printBalance, Step.of, Step.map, Except.map,
      Progress.run_account, hl, Machine.run_payReceipt, hnone, Effect.prints]

end Session

/-- After any run, over any stores, in which no sheets are put in on top of the largest count: the
slips that were printed are the sheets of the start and those that were put in, less those that are
left.  From any point of the run on after which no ink was refilled, be it the start or the last
refill, which fills the cartridge, the ink is that of this point less what was printed since.  Of
further requests, a slip of a transaction, and one of an account that is found, is printed exactly
where there is ink and paper, and is otherwise refused for the ink, or for the paper where only
that is missing.  All but slips and refills leave the ink as it is, all but slips and putting sheets
in leave the paper as it is, and what is refused leaves both. -/
theorem supplies_reconcile {σ : Type} {stores : Stores σ} {s₀ s : Session σ}
    {rs : List (Stamp × Request)} {slips : List Printed} {sheets : List Nat32}
    (hs : s₀.run stores rs = s) (hslips : s₀.along stores (Session.slips stores) rs = slips)
    (hsheets : s₀.along stores (Session.answered Request.restocked stores) rs = sheets)
    (hroom : ∀ qs r, qs ++ [r] <+: rs →
      ∀ n ∈ (s₀.run stores qs).answered Request.restocked stores r,
        (s₀.run stores qs).machine.reserve.paper.val + n.val ≤ Nat32.max.val) :
    (slips.length : ℤ) =
        s₀.machine.reserve.paper.val + (sheets.map Nat32.val).sum - s.machine.reserve.paper.val ∧
      (∀ before after, before ++ after = rs →
        (s₀.run stores before).along stores (Session.answered Request.refilled stores) after = [] →
        (s.machine.reserve.ink : ℤ) = (s₀.run stores before).machine.reserve.ink -
          ((s₀.run stores before).along stores (Session.slips stores) after).length) ∧
      (∀ before r after, before ++ r :: after = rs →
        (s₀.run stores before).answered Request.refilled stores r ≠ [] →
        (s₀.run stores (before ++ [r])).machine.reserve.ink = Reserve.fullInk) ∧
      (∀ stamp t, Session.Supplied s.machine.reserve (s.perform stores stamp (.printReceipt t))
        .printed (.transaction t)) ∧
      (∀ stamp id a, (s.machine.load (stores.reads s.store) id).1 = .ok a →
        Session.Supplied s.machine.reserve (s.perform stores stamp (.printBalance id))
          (.balance a.balance) (.balance id a.balance)) ∧
      (∀ stamp r, r.usesInk = false ∨ (∃ e, (s.perform stores stamp r).answer = .error e) →
        (s.perform stores stamp r).session.machine.reserve.ink = s.machine.reserve.ink) ∧
      ∀ stamp r, r.usesPaper = false ∨ (∃ e, (s.perform stores stamp r).answer = .error e) →
        (s.perform stores stamp r).session.machine.reserve.paper = s.machine.reserve.paper := by
  subst hs hslips hsheets
  refine ⟨?_, ?_, ?_, ?_, ?_, ?_, ?_⟩
  · have hpaper := Session.paper_run s₀ rs hroom
    omega
  · rintro before after rfl hnone
    have hink := Session.ink_run (s₀.run stores before) after hnone
    rw [Session.run_append]
    omega
  · rintro before r after rfl hr
    rw [Session.run_append]
    exact (Session.used_perform stores (s₀.run stores before) r).ink_of_refilled hr
  · exact Session.supplied_printReceipt stores (s₀.run stores rs)
  · exact fun stamp id a ha => Session.supplied_printBalance stores (s₀.run stores rs) stamp ha
  · exact fun stamp r hr => Session.ink_perform stores (s₀.run stores rs) stamp hr
  · exact fun stamp r hr => Session.paper_perform stores (s₀.run stores rs) stamp hr

/-- Ink for one slip: the second one is refused, and the slip behind a refill is printed on one of
the sheets that have come in by then. -/
theorem supplies_reconcile_refilled :
    let a : Account := ⟨"A", "Ada", .checking, .ofNat 50 (by decide)⟩
    let m : Machine := ⟨"M", Dispenser.greedy, ⟨[("A", a)], by decide⟩,
      Reserve.ofLevels Notes.empty 1 2, ⟨2, 0⟩⟩
    let stamp : Stamp := ⟨"T", Instant.epoch⟩
    let t := Transaction.deposit stamp "A" a.balance
    let refill : Stamp × Request := (stamp, .refillInk .technician)
    let before : List (Stamp × Request) := [(stamp, .printReceipt t), (stamp, .printReceipt t)]
    let after : List (Stamp × Request) :=
      [(stamp, .restockPaper .technician ⟨3, by decide⟩), (stamp, .printBalance "A")]
    let s₀ : Session Memory := ⟨m, Memory.empty⟩
    ∃ s, s₀.run Memory.stores (before ++ refill :: after) = s ∧
      s₀.along Memory.stores (Session.slips Memory.stores) (before ++ refill :: after) =
        [.transaction t, .balance "A" a.balance] ∧
      s.machine.reserve.paper.val = (2 + 3 - 2 : ℤ) ∧
      s.machine.reserve.ink = (100 - 1 : ℤ) ∧
      (s.perform Memory.stores stamp (.printReceipt t)).answer = .ok .printed := by
  intro a m stamp t refill before after s₀
  have hslips : s₀.along Memory.stores (Session.slips Memory.stores) (before ++ refill :: after) =
      [.transaction t, .balance "A" a.balance] := by decide +kernel
  have hsheets : s₀.along Memory.stores (Session.answered Request.restocked Memory.stores)
      (before ++ refill :: after) = [⟨3, by decide⟩] := by decide +kernel
  have hroom : ∀ ps ∈ (before ++ refill :: after).inits, ∀ r ∈ ps.getLast?,
      ∀ n ∈ (s₀.run Memory.stores ps.dropLast).answered Request.restocked Memory.stores r,
        (s₀.run Memory.stores ps.dropLast).machine.reserve.paper.val + n.val ≤ Nat32.max.val := by
    decide +kernel
  obtain ⟨s, hs⟩ : ∃ s, s₀.run Memory.stores (before ++ refill :: after) = s := ⟨_, rfl⟩
  obtain ⟨hpaper, hink, hfull, hprinted, _⟩ := supplies_reconcile hs hslips hsheets
    fun qs r hqs n hn => by
      have h := hroom (qs ++ [r]) ((List.mem_inits _ _).mpr hqs) r (by simp)
      rw [List.dropLast_concat] at h
      exact h n hn
  have hpaper : (2 : ℤ) = 2 + 3 - s.machine.reserve.paper.val := hpaper
  -- the refill is the last one, and one slip was printed since
  have hsince := hink (before ++ [refill]) after rfl (by decide +kernel)
  have hone : ((s₀.run Memory.stores (before ++ [refill])).along Memory.stores
      (Session.slips Memory.stores) after).length = 1 := by decide +kernel
  rw [hfull before refill after rfl (by decide +kernel), hone, Reserve.fullInk] at hsince
  refine ⟨s, hs, hslips, by omega, hsince, ?_⟩
  exact ((hprinted stamp t).printed (by omega) (by omega)).1

end CashMachine
