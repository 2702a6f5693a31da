/-
Tables are read back as they are written.

A field is written between quotes where it has a comma, a quote or a line end in it, and its quotes
are doubled.  So whatever the fields are, none of them ends early or runs into the next one: each
line is read as one record of the same fields, octet by octet.  A line of one empty field would be
read as no record, so there are at least two.

* `octets` — the octets of a text; `eq_of_mem` — one of ASCII is the character itself;
* `State.foldl_field`, `State.foldl_fields` — what is read of a field, and of a line;
* `records_lines` — a table of lines is read back;
* `Batch.records_accountsTable` — so is the table of the accounts, whatever their names and owners.
-/
import CashMachine.Batch.Replay

namespace CashMachine

namespace Table

/-- The octets of a text. -/
def octets (s : List Char) : List UInt8 :=
  s.flatMap String.utf8EncodeChar

/-- The octets of the fields of a line. -/
def octetRecord (fields : List String) : Record :=
  fields.map fun f => octets f.toList

theorem toList_toUTF8 (s : String) : s.toUTF8.data.toList = octets s.toList := by
  have hencoded : s.toUTF8 = (octets s.toList).toByteArray := by
    rw [octets, ← List.utf8Encode, ← String.toByteArray_ofList, String.ofList_toList]
    rfl
  rw [hencoded, List.data_toByteArray]

theorem octets_append (s t : List Char) : octets (s ++ t) = octets s ++ octets t :=
  List.flatMap_append

theorem octets_cons (c : Char) (s : List Char) :
    octets (c :: s) = String.utf8EncodeChar c ++ octets s :=
  List.flatMap_cons

/-! ### Marks -/

/-- A character of ASCII is one octet, and the octets of any other one are beyond them. -/
theorem toNat_of_mem {c : Char} {b : UInt8} (hb : b ∈ String.utf8EncodeChar c) :
    b.toNat = c.toNat ∨ 128 ≤ b.toNat := by
  have hval : c.toNat = c.val.toNat := rfl
  unfold String.utf8EncodeChar at hb
  simp only at hb
  split at hb
  · obtain rfl := List.mem_singleton.mp hb
    rw [UInt8.toNat_ofNat']
    omega
  · right
    split at hb
    · simp only [List.mem_cons, List.not_mem_nil, or_false] at hb
      rcases hb with rfl | rfl <;> rw [UInt8.toNat_ofNat'] <;> omega
    · split at hb
      · simp only [List.mem_cons, List.not_mem_nil, or_false] at hb
        rcases hb with rfl | rfl | rfl <;> rw [UInt8.toNat_ofNat'] <;> omega
      · simp only [List.mem_cons, List.not_mem_nil, or_false] at hb
        rcases hb with rfl | rfl | rfl | rfl <;> rw [UInt8.toNat_ofNat'] <;> omega

theorem eq_of_mem {c : Char} {b : UInt8} (hb : b ∈ String.utf8EncodeChar c)
    (hsmall : b.toNat < 128) : c = Char.ofNat b.toNat := by
  have hnat : b.toNat = c.toNat := (toNat_of_mem hb).resolve_right (Nat.not_le.mpr hsmall)
  rw [hnat, Char.ofNat_toNat]

/-- An octet that a field without quotes can have. -/
def isOrdinary (b : UInt8) : Bool :=
  b != comma && b != quote && !isLineEnd b

theorem isOrdinary_of_mem {c : Char} (hc : needsQuotes c = false) {b : UInt8}
    (hb : b ∈ String.utf8EncodeChar c) : isOrdinary b = true := by
  cases hordinary : isOrdinary b with
  | true => rfl
  | false =>
    have hmark : b = comma ∨ b = quote ∨ b = lineFeed ∨ b = carriageReturn := by
      simp only [isOrdinary, isLineEnd, Bool.and_eq_false_iff, bne_eq_false_iff_eq,
        Bool.not_eq_eq_eq_not, Bool.not_false, Bool.or_eq_true, beq_iff_eq, or_assoc] at hordinary
      exact hordinary
    have hsmall : b.toNat < 128 := by
      rcases hmark with rfl | rfl | rfl | rfl <;> decide
    rw [eq_of_mem hb hsmall] at hc
    rcases hmark with rfl | rfl | rfl | rfl <;> cases hc

theorem ne_quote_of_mem {c : Char} (hc : c ≠ '"') {b : UInt8}
    (hb : b ∈ String.utf8EncodeChar c) : b ≠ quote := by
  rintro rfl
  exact hc (eq_of_mem hb (by decide))

/-! ### Reading what was written -/

namespace State

variable {mode : Mode} {f : Field} {fields : List Field} {before : List Record}

theorem take_ordinary {b : UInt8} (hb : isOrdinary b = true) (hmode : mode ≠ .quoted) :
    take ⟨mode, f, fields, before⟩ b = ⟨.plain, b :: f, fields, before⟩ := by
  have hfacts : (b ≠ comma ∧ b ≠ quote) ∧ isLineEnd b = false := by
    simpa [isOrdinary] using hb
  obtain ⟨⟨hcomma, hquote⟩, hend⟩ := hfacts
  cases mode with
  | quoted => exact absurd rfl hmode
  | _ => simp [take, takeOpening, takeOutside, keep, hcomma, hquote, hend]

theorem foldl_ordinary {b : UInt8} {bs : List UInt8} (hb : isOrdinary b = true)
    (hbs : ∀ b ∈ bs, isOrdinary b = true) (hmode : mode ≠ .quoted) :
    (b :: bs).foldl take ⟨mode, f, fields, before⟩ =
      ⟨.plain, (b :: bs).reverse ++ f, fields, before⟩ := by
  induction bs generalizing b f mode with
  | nil => exact take_ordinary hb hmode
  | cons b' bs ih =>
    rw [List.forall_mem_cons] at hbs
    have hplain : Mode.plain ≠ .quoted := by decide
    rw [List.foldl_cons, take_ordinary hb hmode, ih hbs.1 hbs.2 hplain]
    simp

theorem foldl_quoted {bs : List UInt8} (hbs : ∀ b ∈ bs, b ≠ quote) :
    bs.foldl take ⟨.quoted, f, fields, before⟩ =
      ⟨.quoted, bs.reverse ++ f, fields, before⟩ := by
  induction bs generalizing f with
  | nil => rfl
  | cons b bs ih =>
    rw [List.forall_mem_cons] at hbs
    have htake : take ⟨.quoted, f, fields, before⟩ b = ⟨.quoted, b :: f, fields, before⟩ := by
      simp [take, keep, hbs.1]
    rw [List.foldl_cons, htake, ih hbs.2, List.reverse_cons, List.append_assoc]
    rfl

/-- Of two quotes one is kept, and the field goes on. -/
theorem foldl_doubled (s : List Char) :
    (octets (doubled s)).foldl take ⟨.quoted, f, fields, before⟩ =
      ⟨.quoted, (octets s).reverse ++ f, fields, before⟩ := by
  induction s generalizing f with
  | nil => rfl
  | cons c s ih =>
    rw [doubled, List.flatMap_cons, octets_append, List.foldl_append, octets_cons,
      List.reverse_append, List.append_assoc]
    by_cases hc : c = '"'
    · subst hc
      exact ih
    · have hone : octets (if c = '"' then ['"', '"'] else [c]) = String.utf8EncodeChar c := by
        rw [if_neg hc, octets_cons]
        exact List.append_nil _
      rw [hone, foldl_quoted fun b hb => ne_quote_of_mem hc hb]
      exact ih

/-- A field is read as it is.  Only an empty one at the start of a line leaves the reader between
two records. -/
theorem foldl_field (s : List Char) (hmode : mode = .between ∨ mode = .opening)
    (fields : List Field) (before : List Record) :
    ∃ behind, (octets (quotedChars s)).foldl take ⟨mode, [], fields, before⟩ =
        ⟨behind, (octets s).reverse, fields, before⟩ ∧
      behind ≠ .quoted ∧ (behind = .between → mode = .between) := by
  have hopen : mode ≠ .quoted := by
    rcases hmode with rfl | rfl <;> exact nofun
  rw [quotedChars]
  by_cases hs : s.any needsQuotes = true
  · have hquote : take ⟨mode, [], fields, before⟩ quote = ⟨.quoted, [], fields, before⟩ := by
      rcases hmode with rfl | rfl <;> rfl
    refine ⟨.closing, ?_, nofun, nofun⟩
    rw [if_pos hs, List.cons_append, octets_cons, octets_append]
    show (octets (doubled s) ++ [quote]).foldl take (take _ quote) = _
    rw [hquote, List.foldl_append, foldl_doubled, List.append_nil]
    rfl
  · have hordinary : ∀ b ∈ octets s, isOrdinary b = true := by
      intro b hb
      obtain ⟨c, hc, hb⟩ := List.mem_flatMap.mp hb
      refine isOrdinary_of_mem ?_ hb
      rw [List.any_eq_true] at hs
      exact Bool.eq_false_iff.mpr fun h => hs ⟨c, hc, h⟩
    rw [if_neg hs]
    cases hoctets : octets s with
    | nil => exact ⟨mode, rfl, hopen, id⟩
    | cons b bs =>
      rw [hoctets, List.forall_mem_cons] at hordinary
      refine ⟨.plain, ?_, nofun, nofun⟩
      rw [foldl_ordinary hordinary.1 hordinary.2 hopen, List.append_nil]

theorem take_comma (hmode : mode ≠ .quoted) :
    take ⟨mode, f.reverse, fields, before⟩ comma = ⟨.opening, [], f :: fields, before⟩ := by
  cases mode with
  | quoted => exact absurd rfl hmode
  | _ => simp [take, takeOpening, takeOutside, endField, comma, quote, isLineEnd, lineFeed,
      carriageReturn]

theorem take_lineFeed (hmode : mode ≠ .quoted) (hbetween : mode ≠ .between) :
    take ⟨mode, f.reverse, fields, before⟩ lineFeed =
      ⟨.between, [], [], (fields.reverse ++ [f]) :: before⟩ := by
  cases mode with
  | quoted => exact absurd rfl hmode
  | between => exact absurd rfl hbetween
  | _ => simp [take, takeOpening, takeOutside, endRecord, endField, comma, quote, isLineEnd,
      lineFeed]

/-- The fields of a line, from one of them on. -/
theorem foldl_fields (s : List Char) (rest : List (List Char))
    (hmode : mode = .between ∧ rest ≠ [] ∨ mode = .opening) :
    (octets ([','].intercalate ((s :: rest).map quotedChars) ++ ['\n'])).foldl take
        ⟨mode, [], fields, before⟩ =
      ⟨.between, [], [], (fields.reverse ++ (s :: rest).map octets) :: before⟩ := by
  induction rest generalizing s mode fields with
  | nil =>
    obtain rfl : mode = .opening := hmode.resolve_left fun h => h.2 rfl
    obtain ⟨behind, hread, hquoted, hbetween⟩ :=
      foldl_field s (.inr rfl) fields before
    have hend : behind ≠ .between := fun h => by cases hbetween h
    have hfeed : (octets ['\n']).foldl take ⟨behind, (octets s).reverse, fields, before⟩ =
        ⟨.between, [], [], (fields.reverse ++ [octets s]) :: before⟩ :=
      take_lineFeed hquoted hend
    rw [List.map_singleton, List.intercalate_singleton, octets_append, List.foldl_append, hread,
      hfeed]
    rfl
  | cons t rest ih =>
    obtain ⟨behind, hread, hquoted, _⟩ :=
      foldl_field s (hmode.imp_left And.left) fields before
    have hcomma : (octets [',']).foldl take ⟨behind, (octets s).reverse, fields, before⟩ =
        ⟨.opening, [], octets s :: fields, before⟩ := take_comma hquoted
    rw [List.map_cons, List.map_cons, List.intercalate_cons_cons, List.append_assoc,
      List.append_assoc, octets_append, octets_append, List.foldl_append, List.foldl_append, hread,
      hcomma, ← List.map_cons, ih t (.inr rfl), List.reverse_cons, List.append_assoc]
    rfl

theorem foldl_line {row : List String} (hrow : 2 ≤ row.length) :
    (octets (line row).toList).foldl take ⟨.between, [], [], before⟩ =
      ⟨.between, [], [], octetRecord row :: before⟩ := by
  cases row with
  | nil => cases hrow
  | cons s row =>
    have hrest : row.map String.toList ≠ [] := by
      rintro hnil
      rw [List.map_eq_nil_iff.mp hnil] at hrow
      cases Nat.le_of_succ_le_succ hrow
    have hline : (line (s :: row)).toList =
        [','].intercalate ((s.toList :: row.map String.toList).map quotedChars) ++ ['\n'] := by
      simp [line, Function.comp_def]
    rw [hline, foldl_fields s.toList (row.map String.toList) (.inl ⟨rfl, hrest⟩)]
    simp [octetRecord]

theorem foldl_lines {rows : List (List String)} (hrows : ∀ row ∈ rows, 2 ≤ row.length) :
    (octets (String.join (rows.map line)).toList).foldl take ⟨.between, [], [], before⟩ =
      ⟨.between, [], [], (rows.map octetRecord).reverse ++ before⟩ := by
  rw [String.toList_join]
  induction rows generalizing before with
  | nil => rfl
  | cons row rows ih =>
    rw [List.forall_mem_cons] at hrows
    rw [List.map_cons, List.flatMap_cons, octets_append, List.foldl_append, foldl_line hrows.1,
      ih hrows.2, List.map_cons, List.reverse_cons, List.append_assoc]
    rfl

end State

/-- A table of lines is read back as their records, unless it starts with what would be taken for
the mark of its order. -/
theorem records_lines {rows : List (List String)} (hrows : ∀ row ∈ rows, 2 ≤ row.length)
    (hmark : withoutMark (octets (String.join (rows.map line)).toList) =
      octets (String.join (rows.map line)).toList) :
    records (String.join (rows.map line)).toUTF8.data.toList = rows.map octetRecord := by
  rw [records, toList_toUTF8, hmark, State.start, State.foldl_lines hrows, List.append_nil,
    State.finish, List.reverse_reverse]

end Table

/-- The accounts that are written are read back field by field, whatever their names and owners. -/
theorem Batch.records_accountsTable (accounts : List Account) :
    Table.records (accountsTable accounts).toUTF8.data.toList =
      if accounts.isEmpty then []
      else (Account.fieldNames :: accounts.map accountFields).map Table.octetRecord := by
  rw [accountsTable]
  by_cases hempty : accounts.isEmpty = true
  · rw [if_pos hempty, if_pos hempty]
    rfl
  · rw [if_neg hempty, if_neg hempty]
    refine Table.records_lines ?_ ?_
    · intro row hrow
      rcases List.mem_cons.mp hrow with rfl | hrow
      · decide
      · obtain ⟨a, _, rfl⟩ := List.mem_map.mp hrow
        exact Nat.le_of_ble_eq_true rfl
    · -- the header starts with the letter `a`
      rw [List.map_cons, String.toList_join, List.flatMap_cons, Table.octets_append]
      rfl

end CashMachine
