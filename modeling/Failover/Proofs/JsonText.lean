import Failover.Proofs.JsonNumber
import Failover.Proofs.Rearranged

/-!
# JSON that is written is read again

A value whose numbers are integers, whose objects have no name twice and that is not nested too
deep (`Value.Readable`) is parsed from its compact text as a rearrangement of itself
(`Value.exists_parse`).

The readers of scalars take exactly what was written for them, whatever closes it. A list is read
item by item, and each step of the loop is one lemma: the first item, an item behind a comma, and
the end. They ask of an item's text only that it begins neither with white space nor with an end
(`IsItem`), and that its reader takes it (`Reader.Reads`); so the lemmas about a whole list need
not know what the items are, and the induction on a value supplies that the items are read one
level further down. Objects go the same way, their items being fields.
-/

namespace Failover.Json

open Text

variable {rest : List Char}

/-! ## Words and names -/

/-- A character of a word is taken if it is the one that comes. -/
theorem readWord_cons {c : Cursor} {w : Char} {r : List Char} {offset : Nat} (word : List Char)
    (h : (w :: r).length < c.rest.length) :
    readWord (w :: word) ⟨w :: r, offset⟩ h =
      readWord word ⟨r, offset + 1⟩ (Nat.lt_of_succ_lt h) :=
  if_pos rfl

theorem readWord_append {c : Cursor} (word : List Char) {offset : Nat}
    (h : (word ++ rest).length < c.rest.length) :
    ∃ x : Read Unit c, readWord word ⟨word ++ rest, offset⟩ h = .ok x ∧ x.next.rest = rest := by
  induction word generalizing offset with
  | nil => exact ⟨_, rfl, rfl⟩
  | cons w word ih =>
    obtain ⟨x, hx, hnext⟩ := @ih (offset + 1) (Nat.lt_of_succ_lt h)
    exact ⟨x, (readWord_cons word h).trans hx, hnext⟩

theorem readWordBehind_append {c : Cursor} {ch : Char} {r : List Char} (hc : c.rest = ch :: r)
    {letters : String} (hr : r = letters.toList ++ rest) :
    ∃ x : Read Unit c, readWordBehind hc letters = .ok x ∧ x.next.rest = rest := by
  subst hr
  exact readWord_append letters.toList (c.length_of_rest hc)

theorem takes_readName {c : Cursor} {name : String}
    (hc : c.rest = writeString name ++ ':' :: rest) : readName.Takes c name rest := by
  rw [writeString_append] at hc
  obtain ⟨x, hx, hvalue, hnext⟩ := readString_write name (':' :: rest) (c.offset + 1)
  have hcolon : x.next.skipSpace.rest = ':' :: rest := by
    rw [Cursor.skipSpace, hnext]
    rfl
  unfold Reader.Takes readName
  split
  next r hr =>
    obtain rfl := (List.cons.inj (hr.symm.trans hc)).2
    rw [hx]
    dsimp only
    split
    next r hr => exact ⟨_, rfl, hvalue, (List.cons.inj (hr.symm.trans hcolon)).2⟩
    next hnil => cases hcolon.symm.trans hnil
    next hother _ => exact absurd hcolon (hother rest)
  next hother => exact absurd hc (hother _)

/-! ## Lists and objects -/

section

variable {α : Type} {item : Reader α} {text mid : List Char} {texts : List (List Char)} {a : α}
  {as : List α} {p : String × α} {ps : List (String × α)} {c : Cursor} {ch : Char} {r : List Char}

/-- Whatever closes it, the reader takes the text for the value. -/
def Reader.Reads (item : Reader α) (text : List Char) (value : α) : Prop :=
  ∀ c rest, c.rest = text ++ rest → Closes rest → item.Takes c value rest

/-- The text of an item: it begins with something that is neither white space nor an end. -/
def IsItem (text : List Char) : Prop :=
  ∃ ch r, text = ch :: r ∧ Cursor.isSpace ch = false ∧ ch ≠ ']' ∧ ch ≠ '\x7d'

/-- White space ends where no more of it comes. -/
theorem skipSpace_rest (hc : c.rest = ch :: r) (h : Cursor.isSpace ch = false) :
    c.skipSpace.rest = ch :: r := by
  simp [Cursor.skipSpace, hc, h]

theorem intercalate_comma (text : List Char) (more : List (List Char)) :
    [','].intercalate (text :: more) = text ++ more.flatMap (',' :: ·) := by
  induction more generalizing text with
  | nil => rw [List.intercalate_singleton, List.flatMap_nil, List.append_nil]
  | cons next more ih =>
    rw [List.intercalate_cons_cons, ih, List.append_assoc]
    rfl

/-! ### The items of a list -/

theorem takes_readItems_end (first : Bool) (hc : c.rest = ']' :: rest) :
    (readItems item first).Takes c [] rest := by
  have hend := skipSpace_rest hc rfl
  unfold Reader.Takes readItems
  split
  next hnil => cases hend.symm.trans hnil
  next r hr => exact ⟨_, rfl, rfl, (List.cons.inj (hr.symm.trans hend)).2⟩
  next hother hr => exact absurd (List.cons.inj (hr.symm.trans hend)).1 hother

theorem takes_readItems_first (htext : IsItem text)
    (hitem : ∀ d : Cursor, d.rest = text ++ mid → item.Takes d a mid)
    (hmore : ∀ d : Cursor, d.rest = mid → (readItems item false).Takes d as rest)
    (hc : c.rest = text ++ mid) : (readItems item true).Takes c (a :: as) rest := by
  obtain ⟨ch, r, rfl, hspace, hne, -⟩ := htext
  have hhead := skipSpace_rest hc hspace
  obtain ⟨x, hx, rfl, hnext⟩ := hitem c.skipSpace hhead
  obtain ⟨y, hy, rfl, hrest⟩ := hmore x.next hnext
  unfold Reader.Takes readItems
  split
  next hnil => cases hhead.symm.trans hnil
  next r hr => exact absurd (List.cons.inj (hhead.symm.trans hr)).1 hne
  next =>
    rw [if_pos rfl, hx]
    dsimp only
    rw [hy]
    exact ⟨_, rfl, rfl, hrest⟩

theorem takes_readItems_comma (htext : IsItem text)
    (hitem : ∀ d : Cursor, d.rest = text ++ mid → item.Takes d a mid)
    (hmore : ∀ d : Cursor, d.rest = mid → (readItems item false).Takes d as rest)
    (hc : c.rest = ',' :: (text ++ mid)) : (readItems item false).Takes c (a :: as) rest := by
  obtain ⟨ch, r, rfl, hspace, hne, -⟩ := htext
  have hcomma := skipSpace_rest hc rfl
  let d : Cursor := ⟨ch :: r ++ mid, c.skipSpace.offset + 1⟩
  have hhead : d.skipSpace.rest = ch :: (r ++ mid) := skipSpace_rest rfl hspace
  obtain ⟨x, hx, rfl, hnext⟩ := hitem d.skipSpace hhead
  obtain ⟨y, hy, rfl, hrest⟩ := hmore x.next hnext
  unfold Reader.Takes readItems
  split
  next hnil => cases hcomma.symm.trans hnil
  next r hr => cases hcomma.symm.trans hr
  next first tail _ hr =>
    obtain ⟨rfl, rfl⟩ := List.cons.inj (hcomma.symm.trans hr)
    rw [if_neg Bool.false_ne_true, if_pos rfl]
    dsimp only
    -- The reader looks at what stands behind the comma before it reads the item.
    split
    next hnil => cases hhead.symm.trans hnil
    next r hr => exact absurd (List.cons.inj (hhead.symm.trans hr)).1 hne
    next =>
      rw [hx]
      dsimp only
      rw [hy]
      exact ⟨_, rfl, rfl, hrest⟩

/-- Items behind the first are read, each with a comma in front of it. -/
theorem takes_moreItems (hreads : List.Forall₂ item.Reads texts as)
    (htexts : ∀ text ∈ texts, IsItem text)
    (hc : c.rest = texts.flatMap (',' :: ·) ++ ']' :: rest) :
    (readItems item false).Takes c as rest := by
  induction hreads generalizing c with
  | nil => exact takes_readItems_end false hc
  | @cons text a texts as hread _ ih =>
    obtain ⟨hfirst, hmore⟩ := List.forall_mem_cons.1 htexts
    rw [List.flatMap_cons, List.cons_append, List.cons_append, List.append_assoc] at hc
    exact takes_readItems_comma hfirst
      (fun d hd => hread d _ hd (closes_flatMap texts (.inr (.inl rfl))))
      (fun d hd => ih hmore hd) hc

/-- The items of a list are read up to its end. -/
theorem takes_items (hreads : List.Forall₂ item.Reads texts as)
    (htexts : ∀ text ∈ texts, IsItem text)
    (hc : c.rest = [','].intercalate texts ++ ']' :: rest) :
    (readItems item true).Takes c as rest := by
  cases hreads with
  | nil => exact takes_readItems_end true hc
  | @cons text a texts as hread hreads =>
    obtain ⟨hfirst, hmore⟩ := List.forall_mem_cons.1 htexts
    rw [intercalate_comma, List.append_assoc] at hc
    exact takes_readItems_first hfirst
      (fun d hd => hread d _ hd (closes_flatMap texts (.inr (.inl rfl))))
      (fun d hd => takes_moreItems hreads hmore hd) hc

/-! ### The fields of an object -/

/-- A field is its name and its value. -/
theorem reads_field (h : item.Reads text a) (name : String) :
    (readField item).Reads (writeString name ++ ':' :: text) (name, a) := by
  intro c rest hc hrest
  rw [List.append_assoc] at hc
  obtain ⟨x, hx, rfl, hnext⟩ := takes_readName hc
  obtain ⟨y, hy, rfl, hend⟩ := h x.next rest hnext hrest
  unfold Reader.Takes readField
  rw [hx]
  dsimp only
  rw [hy]
  exact ⟨_, rfl, rfl, hend⟩

theorem takes_readFields_end (first : Bool) (hc : c.rest = '\x7d' :: rest) :
    (readFields item first).Takes c [] rest := by
  have hend := skipSpace_rest hc rfl
  unfold Reader.Takes readFields
  split
  next hnil => cases hend.symm.trans hnil
  next hr =>
    obtain ⟨rfl, rfl⟩ := List.cons.inj (hend.symm.trans hr)
    exact ⟨_, rfl, rfl, rfl⟩

theorem takes_readFields_first (htext : IsItem text)
    (hitem : ∀ d : Cursor, d.rest = text ++ mid → (readField item).Takes d p mid)
    (hmore : ∀ d : Cursor, d.rest = mid → (readFields item false).Takes d ps rest)
    (hc : c.rest = text ++ mid) : (readFields item true).Takes c (p :: ps) rest := by
  obtain ⟨ch, r, rfl, hspace, -, hne⟩ := htext
  have hhead := skipSpace_rest hc hspace
  obtain ⟨x, hx, rfl, hnext⟩ := hitem c.skipSpace hhead
  obtain ⟨y, hy, rfl, hrest⟩ := hmore x.next hnext
  unfold Reader.Takes readFields
  split
  next hnil => cases hhead.symm.trans hnil
  next hr =>
    obtain ⟨rfl, rfl⟩ := List.cons.inj (hhead.symm.trans hr)
    rw [if_neg hne, if_pos rfl, hx]
    dsimp only
    rw [hy]
    exact ⟨_, rfl, rfl, hrest⟩

theorem takes_readFields_comma (htext : IsItem text)
    (hitem : ∀ d : Cursor, d.rest = text ++ mid → (readField item).Takes d p mid)
    (hmore : ∀ d : Cursor, d.rest = mid → (readFields item false).Takes d ps rest)
    (hc : c.rest = ',' :: (text ++ mid)) : (readFields item false).Takes c (p :: ps) rest := by
  obtain ⟨ch, r, rfl, hspace, -, hne⟩ := htext
  have hcomma := skipSpace_rest hc rfl
  let d : Cursor := ⟨ch :: r ++ mid, c.skipSpace.offset + 1⟩
  have hhead : d.skipSpace.rest = ch :: (r ++ mid) := skipSpace_rest rfl hspace
  obtain ⟨x, hx, rfl, hnext⟩ := hitem d.skipSpace hhead
  obtain ⟨y, hy, rfl, hrest⟩ := hmore x.next hnext
  unfold Reader.Takes readFields
  split
  next hnil => cases hcomma.symm.trans hnil
  next hr =>
    obtain ⟨rfl, rfl⟩ := List.cons.inj (hcomma.symm.trans hr)
    rw [if_neg (by decide), if_neg Bool.false_ne_true, if_pos rfl]
    dsimp only
    split
    next hnil => cases hhead.symm.trans hnil
    next r hr => exact absurd (List.cons.inj (hhead.symm.trans hr)).1 hne
    next =>
      rw [hx]
      dsimp only
      rw [hy]
      exact ⟨_, rfl, rfl, hrest⟩

/-- Fields behind the first are read, each with a comma in front of it. -/
theorem takes_moreFields (hreads : List.Forall₂ (readField item).Reads texts ps)
    (htexts : ∀ text ∈ texts, IsItem text)
    (hc : c.rest = texts.flatMap (',' :: ·) ++ '\x7d' :: rest) :
    (readFields item false).Takes c ps rest := by
  induction hreads generalizing c with
  | nil => exact takes_readFields_end false hc
  | @cons text p texts ps hread _ ih =>
    obtain ⟨hfirst, hmore⟩ := List.forall_mem_cons.1 htexts
    rw [List.flatMap_cons, List.cons_append, List.cons_append, List.append_assoc] at hc
    exact takes_readFields_comma hfirst
      (fun d hd => hread d _ hd (closes_flatMap texts (.inr (.inr rfl))))
      (fun d hd => ih hmore hd) hc

/-- The fields of an object are read up to its end. -/
theorem takes_fields (hreads : List.Forall₂ (readField item).Reads texts ps)
    (htexts : ∀ text ∈ texts, IsItem text)
    (hc : c.rest = [','].intercalate texts ++ '\x7d' :: rest) :
    (readFields item true).Takes c ps rest := by
  cases hreads with
  | nil => exact takes_readFields_end true hc
  | @cons text p texts ps hread hreads =>
    obtain ⟨hfirst, hmore⟩ := List.forall_mem_cons.1 htexts
    rw [intercalate_comma, List.append_assoc] at hc
    exact takes_readFields_first hfirst
      (fun d hd => hread d _ hd (closes_flatMap texts (.inr (.inr rfl))))
      (fun d hd => takes_moreFields hreads hmore hd) hc

end

/-! ## Values -/

namespace Value

/-- What is written so that it can be read again: integers that 64 bits hold and no doubles,
nested at most this deep, with different names in an object. -/
inductive Readable : Nat → Value → Prop
  | null {depth : Nat} : Readable depth .null
  | bool {depth : Nat} (b : Bool) : Readable depth (.bool b)
  | int {depth : Nat} {n : Int} (hlo : Int64.minValue.toInt ≤ n) (hhi : n.toNat ≤ maxInteger) :
    Readable depth (.number (.int n))
  | string {depth : Nat} (s : String) : Readable depth (.string s)
  | array {depth : Nat} {items : List Value} (h : ∀ v ∈ items, Readable depth v) :
    Readable (depth + 1) (.array items)
  | object {depth : Nat} {fields : List (String × Value)} (hnames : (fields.map Prod.fst).Nodup)
    (h : ∀ p ∈ fields, Readable depth p.2) : Readable (depth + 1) (.object fields)

theorem writeItems_eq : (items : List Value) →
    writeItems items = [','].intercalate (items.map write)
  | [] => rfl
  | [v] => by rw [writeItems, List.map_singleton, List.intercalate_singleton]
  | v :: w :: more => by
    rw [writeItems, writeItems_eq (w :: more)]
    · exact List.intercalate_cons_cons.symm
    · exact List.cons_ne_nil w more

/-- A field as it is written. -/
def writeField (p : String × Value) : List Char := writeString p.1 ++ ':' :: p.2.write

theorem writeFields_eq : (fields : List (String × Value)) →
    writeFields fields = [','].intercalate (fields.map writeField)
  | [] => rfl
  | [(k, v)] => by
    rw [writeFields, List.map_singleton, List.intercalate_singleton, List.append_assoc]
    rfl
  | (k, v) :: q :: more => by
    rw [writeFields, writeFields_eq (q :: more)]
    · simp [writeField, List.intercalate_cons_cons]
    · exact List.cons_ne_nil q more

/-! ### Scalars -/

section

variable {c : Cursor} {ch : Char} {r : List Char} {v : Value} {depth : Nat}

/-- What a scalar may begin with. -/
def scalarHeads : List Char := "ntf\"-0123456789".toList

/-- A scalar begins with neither white space nor a bracket. -/
theorem plain_of_scalarHeads (h : ch ∈ scalarHeads) :
    Cursor.isSpace ch = false ∧ ch ≠ '[' ∧ ch ≠ '\x7b' ∧ ch ≠ ']' ∧ ch ≠ '\x7d' := by
  have hall : scalarHeads.all (fun ch => !Cursor.isSpace ch && ch != '[' && ch != '\x7b' &&
      ch != ']' && ch != '\x7d') = true := by decide
  simpa [and_assoc] using List.all_eq_true.1 hall ch h

theorem write_negative {n : Int} (h : n < 0) :
    write (.number (.int n)) = '-' :: Nat.toDigits 10 n.natAbs := by
  rw [write, Number.write, if_pos h]
  rfl

theorem write_positive {n : Int} (h : ¬ n < 0) :
    write (.number (.int n)) = Nat.toDigits 10 n.natAbs := by
  rw [write, Number.write, if_neg h]
  rfl

theorem head_scalar (h : Readable 0 v) : ∃ ch r, v.write = ch :: r ∧ ch ∈ scalarHeads := by
  have hdigit : ∀ d < 10, hexDigit d ∈ scalarHeads := by decide
  cases h with
  | null => exact ⟨'n', _, rfl, by decide⟩
  | bool b =>
    cases b
    · exact ⟨'f', _, rfl, by decide⟩
    · exact ⟨'t', _, rfl, by decide⟩
  | @int _ n _ _ =>
    by_cases hneg : n < 0
    · exact ⟨'-', _, write_negative hneg, by decide⟩
    · obtain ⟨ch, r, hdigits⟩ :=
        List.exists_cons_of_ne_nil (Nat.toDigits_ne_nil (n := n.natAbs) (b := 10))
      obtain ⟨d, hd, rfl⟩ :=
        exists_hexDigit_of_mem_toDigits (by decide) (hdigits ▸ List.mem_cons_self)
      exact ⟨_, r, (write_positive hneg).trans hdigits, hdigit d hd⟩
  | string s => exact ⟨'"', _, rfl, by decide⟩

theorem takes_int {n : Int} (hlo : Int64.minValue.toInt ≤ n) (hhi : n.toNat ≤ maxInteger)
    (hc : c.rest = ch :: r) (htext : c.rest = write (.number (.int n)) ++ rest)
    (hrest : Closes rest) :
    ∃ x, readScalar c ch r hc = .ok x ∧ x.value = .number (.int n) ∧ x.next.rest = rest := by
  have hheld := natAbs_le_maxInteger hlo hhi
  have hhead := hc.symm.trans htext
  unfold readScalar
  dsimp only
  by_cases hneg : n < 0
  · rw [write_negative hneg] at hhead
    obtain ⟨rfl, hr⟩ := List.cons.inj hhead
    obtain ⟨x, hx, hvalue, hnext⟩ :=
      takes_readUnsigned true hheld hrest (c := ⟨r, c.offset + 1⟩) hr
    rw [if_neg (by decide), if_neg (by decide), if_neg (by decide), if_pos rfl, hx]
    exact ⟨_, rfl, congrArg Value.number (hvalue.trans (integer_negative hneg hlo)), hnext⟩
  · rw [write_positive hneg] at hhead
    obtain ⟨x, hx, hvalue, hnext⟩ := takes_readUnsigned false hheld hrest (hc.trans hhead)
    have hdigit : ch.isDigit = true := isDigit_of_toDigits_append hhead.symm
    have hother : ∀ w : Char, w.isDigit = false → ch ≠ w := by
      rintro w hw rfl
      exact absurd (hdigit.symm.trans hw) (by decide)
    rw [if_neg (hother 'n' rfl), if_neg (hother 't' rfl), if_neg (hother 'f' rfl),
      if_neg (hother '-' rfl), if_pos hdigit, hx]
    exact ⟨_, rfl, congrArg Value.number (hvalue.trans (integer_positive hneg)), hnext⟩

/-- A scalar is taken as it was written. -/
theorem takes_readScalar (h : Readable 0 v) (hc : c.rest = ch :: r)
    (htext : c.rest = v.write ++ rest) (hrest : Closes rest) :
    ∃ x, readScalar c ch r hc = .ok x ∧ x.value = v ∧ x.next.rest = rest := by
  have hhead := hc.symm.trans htext
  cases h with
  | null =>
    unfold readScalar
    dsimp only
    obtain ⟨rfl, hr⟩ : ch = 'n' ∧ r = "ull".toList ++ rest := List.cons.inj hhead
    obtain ⟨x, hx, hnext⟩ := readWordBehind_append hc hr
    rw [if_pos rfl, hx]
    exact ⟨_, rfl, rfl, hnext⟩
  | bool b =>
    unfold readScalar
    dsimp only
    cases b
    · obtain ⟨rfl, hr⟩ : ch = 'f' ∧ r = "alse".toList ++ rest := List.cons.inj hhead
      obtain ⟨x, hx, hnext⟩ := readWordBehind_append hc hr
      rw [if_neg (by decide), if_neg (by decide), if_pos rfl, hx]
      exact ⟨_, rfl, rfl, hnext⟩
    · obtain ⟨rfl, hr⟩ : ch = 't' ∧ r = "rue".toList ++ rest := List.cons.inj hhead
      obtain ⟨x, hx, hnext⟩ := readWordBehind_append hc hr
      rw [if_neg (by decide), if_pos rfl, hx]
      exact ⟨_, rfl, rfl, hnext⟩
  | int hlo hhi => exact takes_int hlo hhi hc htext hrest
  | string s =>
    unfold readScalar
    dsimp only
    have hstring := hhead.trans (writeString_append s rest)
    obtain ⟨rfl, rfl⟩ := List.cons.inj hstring
    obtain ⟨x, hx, hvalue, hnext⟩ := readString_write s rest (c.offset + 1)
    rw [if_neg (by decide), if_neg (by decide), if_neg (by decide), if_neg (by decide),
      if_neg (by decide), if_pos rfl, hx]
    exact ⟨_, rfl, congrArg Value.string hvalue, hnext⟩

theorem reads_scalar (h : Readable 0 v) : (readValue depth).Reads v.write v := by
  intro c rest hc hrest
  obtain ⟨ch, r, hwrite, hch⟩ := head_scalar h
  obtain ⟨hspace, hlist, hobject, -⟩ := plain_of_scalarHeads hch
  have hhead : c.skipSpace.rest = ch :: (r ++ rest) :=
    skipSpace_rest (by rw [hc, hwrite]; rfl) hspace
  obtain ⟨x, hx, rfl, hnext⟩ :=
    takes_readScalar h hhead (by rw [hhead, hwrite]; rfl) hrest
  unfold Reader.Takes
  -- Scalars are read at every depth, also where nothing may be opened any more.
  cases depth with
  | zero =>
    unfold readValue
    split
    next hnil => cases hhead.symm.trans hnil
    next hr =>
      obtain ⟨rfl, rfl⟩ := List.cons.inj (hhead.symm.trans hr)
      rw [if_neg (not_or.2 ⟨hlist, hobject⟩), hx]
      exact ⟨_, rfl, rfl, hnext⟩
  | succ depth =>
    unfold readValue
    split
    next hnil => cases hhead.symm.trans hnil
    next hr =>
      obtain ⟨rfl, rfl⟩ := List.cons.inj (hhead.symm.trans hr)
      dsimp only
      rw [if_neg hlist, if_neg hobject, hx]
      exact ⟨_, rfl, rfl, hnext⟩

end

/-! ### Nested values -/

section

variable {v : Value} {depth : Nat}

theorem reads_array {items : List Value} {ws : List Value} (hwrite : ∀ v ∈ items, IsItem v.write)
    (hreads : List.Forall₂ (fun v w => (readValue depth).Reads v.write w) items ws) :
    (readValue (depth + 1)).Reads (write (.array items)) (.array ws) := by
  intro c rest hc hrest
  have htext : c.rest = '[' :: ([','].intercalate (items.map write) ++ ']' :: rest) := by
    rw [hc, write, writeItems_eq]
    simp
  have hhead := skipSpace_rest htext rfl
  have htexts : ∀ text ∈ items.map write, IsItem text := List.forall_mem_map.2 hwrite
  obtain ⟨x, hx, hitems, hnext⟩ := takes_items (List.forall₂_map_left_iff.2 hreads) htexts
    (c := ⟨_, c.skipSpace.offset + 1⟩) rfl
  unfold Reader.Takes readValue
  split
  next hnil => cases hhead.symm.trans hnil
  next hr =>
    obtain ⟨rfl, rfl⟩ := List.cons.inj (hhead.symm.trans hr)
    dsimp only
    rw [if_pos rfl, hx]
    exact ⟨_, rfl, congrArg Value.array hitems, hnext⟩

theorem reads_object {fields : List (String × Value)} {ws : List (String × Value)}
    (hreads : List.Forall₂
      (fun p q => p.1 = q.1 ∧ (readValue depth).Reads p.2.write q.2) fields ws) :
    (readValue (depth + 1)).Reads (write (.object fields)) (.object (Dict.ofList ws)) := by
  intro c rest hc hrest
  have htext :
      c.rest = '\x7b' :: ([','].intercalate (fields.map writeField) ++ '\x7d' :: rest) := by
    rw [hc, write, writeFields_eq]
    simp
  have hhead := skipSpace_rest htext rfl
  have htexts : ∀ t ∈ fields.map writeField, IsItem t := List.forall_mem_map.2 fun p _ =>
    ⟨'"', _, writeString_append _ _, rfl, by decide, by decide⟩
  have hfields : List.Forall₂ (readField (readValue depth)).Reads (fields.map writeField) ws :=
    List.forall₂_map_left_iff.2 (hreads.imp fun p q ⟨hname, hread⟩ =>
      (Prod.ext hname rfl : (p.1, q.2) = q) ▸ reads_field hread p.1)
  obtain ⟨x, hx, hvalue, hnext⟩ := takes_fields hfields htexts
    (c := ⟨_, c.skipSpace.offset + 1⟩) rfl
  unfold Reader.Takes readValue
  split
  next hnil => cases hhead.symm.trans hnil
  next hr =>
    obtain ⟨rfl, rfl⟩ := List.cons.inj (hhead.symm.trans hr)
    dsimp only
    rw [if_neg (by decide), if_pos rfl, hx]
    exact ⟨_, rfl, congrArg (Value.object <| Dict.ofList ·) hvalue, hnext⟩

theorem isItem_of_scalar (h : Readable 0 v) : IsItem v.write := by
  obtain ⟨ch, r, hwrite, hch⟩ := head_scalar h
  obtain ⟨hspace, -, -, hlist, hobject⟩ := plain_of_scalarHeads hch
  exact ⟨ch, r, hwrite, hspace, hlist, hobject⟩

theorem isItem_write (h : Readable depth v) : IsItem v.write := by
  cases h with
  | null => exact isItem_of_scalar .null
  | bool b => exact isItem_of_scalar (.bool b)
  | int hlo hhi => exact isItem_of_scalar (.int hlo hhi)
  | string s => exact isItem_of_scalar (.string s)
  | array => exact ⟨'[', _, rfl, rfl, by decide, by decide⟩
  | object => exact ⟨'\x7b', _, rfl, rfl, by decide, by decide⟩

theorem exists_forall₂ {α β : Type} {R : α → β → Prop} {xs : List α} (h : ∀ x ∈ xs, ∃ y, R x y) :
    ∃ ys, List.Forall₂ R xs ys := by
  induction xs with
  | nil => exact ⟨[], .nil⟩
  | cons x xs ih =>
    obtain ⟨⟨y, hy⟩, hmore⟩ := List.forall_mem_cons.1 h
    obtain ⟨ys, hys⟩ := ih hmore
    exact ⟨y :: ys, .cons hy hys⟩

/-- **What is written is read again**, the fields of its objects in order. -/
theorem exists_reads (h : Readable depth v) :
    ∃ w, v.Rearranged w ∧ (readValue depth).Reads v.write w := by
  induction h with
  | null => exact ⟨_, .null, reads_scalar .null⟩
  | bool b => exact ⟨_, .bool b, reads_scalar (.bool b)⟩
  | int hlo hhi => exact ⟨_, .number _, reads_scalar (.int hlo hhi)⟩
  | string s => exact ⟨_, .string s, reads_scalar (.string s)⟩
  | array h ih =>
    obtain ⟨ws, hws⟩ := exists_forall₂ ih
    exact ⟨_, .array (hws.imp fun _ _ hw => hw.1), reads_array (fun v hv => isItem_write (h v hv))
      (hws.imp fun _ _ hw => hw.2)⟩
  | @object depth fields hnames h ih =>
    -- The dictionary is made of the fields as they were read, so the two orders are apart by one
    -- permutation here, and those further down are in the values already.
    have hfield : ∀ p ∈ fields, ∃ q : String × Value,
        p.1 = q.1 ∧ p.2.Rearranged q.2 ∧ (readValue depth).Reads p.2.write q.2 := fun p hp => by
      obtain ⟨w, hw⟩ := ih p hp
      exact ⟨(p.1, w), rfl, hw⟩
    obtain ⟨ws, hws⟩ := exists_forall₂ hfield
    obtain ⟨hsame, hvalues⟩ := forall₂_fields.1 (hws.imp fun _ _ hq => ⟨hq.1, hq.2.1⟩)
    exact ⟨_, .object hsame.symm hvalues (Dict.perm_ofList (hsame ▸ hnames)),
      reads_object (hws.imp fun _ _ hw => ⟨hw.1, hw.2.2⟩)⟩

/-- **A text that is written is parsed.** -/
theorem exists_parse (h : v.Readable maxDepth) :
    ∃ w, parse v.compact = .ok w ∧ v.Rearranged w := by
  obtain ⟨w, hw, hreads⟩ := exists_reads h
  have hclosed : Closes [] := fun c hc => by cases hc
  obtain ⟨x, hx, rfl, hnext⟩ := hreads (.ofText v.write) [] (List.append_nil _).symm hclosed
  refine ⟨x.value, ?_, hw⟩
  unfold parse parseChars compact
  rw [String.toList_ofList]
  dsimp only [bind, Except.bind, pure, Except.pure]
  rw [hx]
  dsimp only
  rw [Cursor.finish_of_rest hnext]
  rfl

end

end Value

end Failover.Json
