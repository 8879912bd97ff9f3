import Mathlib
import Failover.Domain.Name
import Failover.Proofs.Punycode

/-!
# Domain names that are brought to ASCII again

A name in ASCII is made of labels that are left alone when the name is read once more: no
character of theirs is mapped, none is forbidden (`isLabelChar`), and a label with Punycode in it
decodes to what it was made of. There is one exception. The label before encoding may have
`maxConverted` characters and the Punycode that is decoded twice as many, but encoding may make
more of a label than that; then the name is refused the second time (`Label.isOverlong`).

`textToAscii?_again` says what a second reading comes to: the name itself, unless one of its
labels is overlong.
-/

namespace Failover.Domain

open Text

/-- A character of a label in ASCII. -/
def isLabelChar (c : Char) : Bool := c.toNat < 0x80 && !isForbidden c && c != '.'

theorem isLabelChar_iff {c : Char} :
    isLabelChar c = true ↔ c.toNat < 0x80 ∧ isForbidden c = false ∧ c ≠ '.' := by
  simp [isLabelChar, and_assoc]

theorem isLabelChar_digit {c : Char} (h : (Punycode.digit? c).isSome = true) :
    isLabelChar c = true := by
  obtain ⟨d, hd, rfl⟩ := Punycode.exists_digitChar h
  have hall : ∀ e ∈ List.range 36, isLabelChar (Punycode.digitChar e) = true := by decide
  exact hall d (List.mem_range.2 hd)

theorem isLabelChar_of_mem_acePrefix {c : Char} (h : c ∈ acePrefix) : isLabelChar c = true :=
  List.all_eq_true.1 (by decide : acePrefix.all isLabelChar = true) c h

/-- The digits of a number are plain. -/
theorem isLabelChar_of_mem_toDigits {base n : Nat} {c : Char} (hlo : 1 < base) (hhi : base ≤ 16)
    (h : c ∈ Nat.toDigits base n) : isLabelChar c = true := by
  obtain ⟨d, hd, rfl⟩ := exists_hexDigit_of_mem_toDigits hlo h
  have hall : ∀ e < 16, isLabelChar (hexDigit e) = true := by decide
  exact hall d (by omega)

/-! ## Labels -/

/-- A label whose Punycode is longer than what is decoded may be. -/
def Label.isOverlong (ascii : List Char) : Bool :=
  acePrefix.isPrefixOf ascii && 2 * maxConverted < (ascii.drop 4).length

theorem isLabel_mem {label : List Char} (h : isLabel label = true) :
    ∀ c ∈ label, isForbidden c = false ∧ c ≠ '.' := by
  simp only [isLabel, Bool.and_eq_true, Bool.not_eq_true', List.any_eq_false,
    List.contains_eq_mem, decide_eq_false_iff_not, Bool.not_eq_true] at h
  intro c hc
  exact ⟨h.2 c hc, fun hdot => h.1.1.1.2 (hdot ▸ hc)⟩

namespace Label

variable {label : List Char} {x : Label}

/-- The ways in which a label gets its two forms. -/
theorem ofMapped?_cases (h : ofMapped? label = some x) :
    (acePrefix.isPrefixOf label = true ∧ label.all (·.toNat < 0x80) = true ∧
      (label.drop 4).length ≤ 2 * maxConverted ∧ Punycode.decode? (label.drop 4) = some x.shown ∧
      isLabel x.shown = true ∧ x.ascii = label) ∨
    (acePrefix.isPrefixOf label = false ∧ label.all (·.toNat < 0x80) = true ∧
      label.any isForbidden = false ∧ x.shown = label ∧ x.ascii = label) ∨
    (label.all (·.toNat < 0x80) = false ∧ isLabel label = true ∧ x.shown = label ∧
      x.ascii = acePrefix ++ Punycode.encode label) := by
  unfold ofMapped? at h
  dsimp only at h
  cases hbegins : acePrefix.isPrefixOf label with
  | true =>
    rw [hbegins, if_pos rfl] at h
    split at h
    next hbounds =>
      simp only [Bool.and_eq_true, decide_eq_true_eq] at hbounds
      split at h
      · cases h
      next shown hdecode =>
        split at h
        next hshown =>
          cases h
          exact .inl ⟨rfl, hbounds.1, hbounds.2, hdecode, (Bool.and_eq_true_iff.1 hshown).1, rfl⟩
        · cases h
    · cases h
  | false =>
    rw [hbegins, if_neg Bool.false_ne_true] at h
    split at h
    next hascii =>
      split at h
      · cases h
      next hnone =>
        cases h
        exact .inr (.inl ⟨rfl, hascii, Bool.eq_false_iff.2 hnone, rfl, rfl⟩)
    next hascii =>
      split at h
      next hlabel =>
        cases h
        exact .inr (.inr ⟨Bool.eq_false_iff.2 hascii, hlabel, rfl, rfl⟩)
      · cases h

/-- The form in ASCII of a label without a dot. -/
theorem plain_of_ofMapped? (h : ofMapped? label = some x) (hdot : ∀ c ∈ label, c ≠ '.') :
    ∀ c ∈ x.ascii, isLabelChar c = true := by
  rcases ofMapped?_cases h with
    ⟨hbegins, -, -, hdecode, hlabel, hx⟩ | ⟨-, hascii, hforbidden, -, hx⟩ | ⟨-, hlabel, -, hx⟩
  · intro c hc
    rw [hx] at hc
    obtain ⟨rest, rfl⟩ := List.isPrefixOf_iff_prefix.1 hbegins
    rcases List.mem_append.1 hc with hc | hc
    · exact isLabelChar_of_mem_acePrefix hc
    · rcases Punycode.mem_of_decode? hdecode hc with ⟨hmem, hlt⟩ | rfl | hdigit
      · obtain ⟨hnone, hne⟩ := isLabel_mem hlabel c hmem
        exact isLabelChar_iff.2 ⟨hlt, hnone, hne⟩
      · decide
      · exact isLabelChar_digit hdigit
  · intro c hc
    rw [hx] at hc
    have hlt := List.all_eq_true.1 hascii c hc
    have hnone := List.any_eq_false.1 hforbidden c hc
    exact isLabelChar_iff.2 ⟨by simpa using hlt, by simpa using hnone, hdot c hc⟩
  · intro c hc
    rw [hx] at hc
    rcases List.mem_append.1 hc with hc | hc
    · exact isLabelChar_of_mem_acePrefix hc
    · rcases Punycode.mem_encode hc with ⟨hmem, hlt⟩ | rfl | hdigit
      · obtain ⟨hnone, hne⟩ := isLabel_mem hlabel c hmem
        exact isLabelChar_iff.2 ⟨hlt, hnone, hne⟩
      · decide
      · exact isLabelChar_digit hdigit

theorem ascii_of_plain (h : ∀ c ∈ label, isLabelChar c = true) :
    label.all (·.toNat < 0x80) = true :=
  List.all_eq_true.2 fun c hc => by simpa using (isLabelChar_iff.1 (h c hc)).1

/-- A label in ASCII without Punycode is left as it is. -/
theorem ofMapped?_plain (h : ∀ c ∈ label, isLabelChar c = true)
    (hbegins : acePrefix.isPrefixOf label = false) : ofMapped? label = some ⟨label, label⟩ := by
  have hnone : label.any isForbidden = false :=
    List.any_eq_false.2 fun c hc => by simp [(isLabelChar_iff.1 (h c hc)).2.1]
  unfold ofMapped?
  simp only [hbegins, Bool.false_eq_true, if_false, ascii_of_plain h, if_true, hnone]

/-- The form in ASCII has the same two forms, unless it is overlong. -/
theorem ofMapped?_ascii (h : ofMapped? label = some x) (hdot : ∀ c ∈ label, c ≠ '.') :
    ofMapped? x.ascii = if isOverlong x.ascii then none else some x := by
  have hplain := plain_of_ofMapped? h hdot
  rcases ofMapped?_cases h with
    ⟨hbegins, -, hlength, -, -, hx⟩ | ⟨hbegins, -, -, -, hx⟩ | ⟨hascii, hlabel, hshown, hx⟩
  · have hfits : isOverlong label = false := by
      simp only [isOverlong, hbegins, Bool.true_and, decide_eq_false_iff_not]
      omega
    rw [hx, hfits, if_neg Bool.false_ne_true, h]
  · have hfits : isOverlong label = false := by
      rw [isOverlong, hbegins, Bool.false_and]
    rw [hx, hfits, if_neg Bool.false_ne_true, h]
  · have hbegins : acePrefix.isPrefixOf x.ascii = true :=
      List.isPrefixOf_iff_prefix.2 (hx ▸ List.prefix_append _ _)
    have hdrop : x.ascii.drop 4 = Punycode.encode label := by rw [hx]; rfl
    have hwide : label.any (0x80 ≤ ·.toNat) = true := by
      rw [List.any_eq_true]
      obtain ⟨c, hc, hge⟩ := List.all_eq_false.1 hascii
      exact ⟨c, hc, by simpa using hge⟩
    unfold ofMapped? isOverlong
    simp only [hbegins, ascii_of_plain hplain, hdrop, Punycode.decode?_encode, hlabel, hwide,
      Bool.true_and, if_true]
    by_cases hlong : 2 * maxConverted < (Punycode.encode label).length
    · rw [if_neg (by simpa using hlong), if_pos (by simpa using hlong)]
    · rw [if_pos (by simpa using hlong), if_neg (by simpa using hlong), ← hshown]

end Label

/-! ## Names -/

theorem not_isUpper_of_labelChar {c : Char} (h : isLabelChar c = true) : c.isUpper = false := by
  have hforbidden := (isLabelChar_iff.1 h).2.1
  simp only [isForbidden, Bool.or_eq_false_iff] at hforbidden
  exact hforbidden.1.2

theorem mapM_mapChar? {cs : List Char} (h : ∀ c ∈ cs, c.toNat < 0x80 ∧ c.isUpper = false) :
    cs.mapM mapChar? = some (cs.map fun c => [c]) := by
  induction cs with
  | nil => rfl
  | cons c r ih =>
    obtain ⟨hlt, hlower⟩ := h c List.mem_cons_self
    have hc : mapChar? c = some [c] := by
      rw [mapChar?, if_pos hlt, Char.toLower_eq_of_not_isUpper (Bool.eq_false_iff.1 hlower)]
    rw [List.mapM_cons, hc, ih fun d hd => h d (List.mem_cons_of_mem _ hd)]
    rfl

/-- In ASCII nothing but capitals is mapped. -/
theorem map?_eq_self {cs : List Char} (h : ∀ c ∈ cs, c.toNat < 0x80 ∧ c.isUpper = false) :
    map? cs = some cs := by
  have hflat : (cs.map fun c => [c]).flatten = cs := by
    rw [← List.flatMap_def, List.flatMap_singleton']
  rw [map?, mapM_mapChar? h, Option.map_some, hflat,
    compose_eq_self_of_ascii fun c hc => (h c hc).1]

/-- The name has labels of plain characters only. -/
def IsPlainName (name : List Char) : Prop := ∀ c ∈ name, isLabelChar c = true ∨ c = '.'

theorem IsPlainName.lower {name : List Char} (h : IsPlainName name) :
    ∀ c ∈ name, c.toNat < 0x80 ∧ c.isUpper = false := by
  intro c hc
  rcases h c hc with hplain | rfl
  · exact ⟨(isLabelChar_iff.1 hplain).1, not_isUpper_of_labelChar hplain⟩
  · decide

/-- No other character than plain ones and dots is in the name. -/
theorem IsPlainName.not_mem {name : List Char} (h : IsPlainName name) {c : Char}
    (hc : isLabelChar c = false) (hdot : c ≠ '.') : c ∉ name := by
  intro hmem
  rcases h c hmem with hplain | heq
  · rw [hc] at hplain
    cases hplain
  · exact hdot heq

theorem isPlainName_intercalate {labels : List (List Char)}
    (h : ∀ label ∈ labels, ∀ c ∈ label, isLabelChar c = true) :
    IsPlainName (['.'].intercalate labels) := by
  intro c hc
  rcases mem_intercalate hc with rfl | ⟨label, hlabel, hc⟩
  · exact .inr rfl
  · exact .inl (h label hlabel c hc)

theorem splitOn_dot {labels : List (List Char)} (hne : labels ≠ [])
    (h : ∀ label ∈ labels, ∀ c ∈ label, isLabelChar c = true) :
    splitOn (· == '.') (['.'].intercalate labels) = labels :=
  splitOn_intercalate_pieces rfl hne fun label hlabel c hc =>
    beq_eq_false_iff_ne.2 (isLabelChar_iff.1 (h label hlabel c hc)).2.2

/-- In ASCII nothing is written from right to left. -/
theorem areDirected_of_ascii {labels : List (List Char)}
    (h : ∀ label ∈ labels, ∀ c ∈ label, c.toNat < 0x80) : areDirected labels = true := by
  rw [areDirected, Bool.or_eq_true]
  left
  refine List.all_eq_true.2 fun label hlabel => List.all_eq_true.2 fun c hc => ?_
  have hlt := h label hlabel c hc
  have hge : ¬ 0x590 ≤ c.toNat := by omega
  simp [isRightToLeft, hge]

/-- A name of plain labels without Punycode is in ASCII already. -/
theorem textToAscii?_eq_self {labels : List (List Char)} (hne : labels ≠ [])
    (hplain : ∀ label ∈ labels, ∀ c ∈ label, isLabelChar c = true)
    (hbegins : ∀ label ∈ labels, acePrefix.isPrefixOf label = false) :
    textToAscii? (['.'].intercalate labels) = some (['.'].intercalate labels) := by
  have hforms : labels.mapM Label.ofMapped? = some (labels.map fun label => ⟨label, label⟩) := by
    rw [mapM_eq_some, List.map_map]
    exact List.map_congr_left fun label hlabel =>
      Label.ofMapped?_plain (hplain label hlabel) (hbegins label hlabel)
  have hdirected : areDirected labels = true :=
    areDirected_of_ascii fun label hlabel c hc => (isLabelChar_iff.1 (hplain label hlabel c hc)).1
  unfold textToAscii?
  simp [map?_eq_self (isPlainName_intercalate hplain).lower, splitOn_dot hne hplain, hforms,
    hdirected, Function.comp_def]

/-- Some label of the name is overlong. -/
def isOverlongName (name : List Char) : Bool := (splitOn (· == '.') name).any Label.isOverlong

/-- The two forms of the labels of a name that is brought to ASCII. -/
theorem exists_labels {name ascii : List Char} (h : textToAscii? name = some ascii) :
    ∃ labels : List Label, labels ≠ [] ∧ ascii = ['.'].intercalate (labels.map (·.ascii)) ∧
      areDirected (labels.map (·.shown)) = true ∧
      ∀ x ∈ labels, (∀ c ∈ x.ascii, isLabelChar c = true) ∧
        Label.ofMapped? x.ascii = if Label.isOverlong x.ascii then none else some x := by
  unfold textToAscii? at h
  obtain ⟨mapped, hmapped, h⟩ := Option.bind_eq_some_iff.1 h
  obtain ⟨labels, hlabels, h⟩ := Option.bind_eq_some_iff.1 h
  rw [mapM_eq_some] at hlabels
  split at h
  next hdirected =>
    cases h
    refine ⟨labels, ?_, rfl, hdirected, fun x hx => ?_⟩
    · rintro rfl
      exact splitOn_ne_nil _ _ (List.map_eq_nil_iff.1 hlabels)
    · have hmem : some x ∈ (splitOn (· == '.') mapped).map Label.ofMapped? :=
        hlabels ▸ List.mem_map_of_mem hx
      obtain ⟨piece, hpiece, hpieceForms⟩ := List.mem_map.1 hmem
      have hdot : ∀ c ∈ piece, c ≠ '.' := fun c hc =>
        beq_eq_false_iff_ne.1 (not_sep_of_mem_splitOn hpiece c hc)
      exact ⟨Label.plain_of_ofMapped? hpieceForms hdot, Label.ofMapped?_ascii hpieceForms hdot⟩
  · cases h

/-- A name in ASCII has plain characters only. -/
theorem textToAscii?_plain {name ascii : List Char} (h : textToAscii? name = some ascii) :
    IsPlainName ascii := by
  obtain ⟨labels, -, rfl, -, hlabels⟩ := exists_labels h
  refine isPlainName_intercalate fun label hlabel => ?_
  obtain ⟨x, hx, rfl⟩ := List.mem_map.1 hlabel
  exact (hlabels x hx).1

/-- **A name in ASCII is brought to ASCII once more.** It stays as it is, or it is refused
because a label of it is overlong. -/
theorem textToAscii?_again {name ascii : List Char} (h : textToAscii? name = some ascii) :
    textToAscii? ascii = if isOverlongName ascii then none else some ascii := by
  have hmap := map?_eq_self (textToAscii?_plain h).lower
  obtain ⟨labels, hne, rfl, hdirected, hlabels⟩ := exists_labels h
  have hsplit : splitOn (· == '.') (['.'].intercalate (labels.map (·.ascii))) =
      labels.map (·.ascii) := by
    refine splitOn_dot (by simpa using hne) fun label hlabel => ?_
    obtain ⟨x, hx, rfl⟩ := List.mem_map.1 hlabel
    exact (hlabels x hx).1
  unfold textToAscii? isOverlongName
  simp only [hmap, hsplit, Option.bind_eq_bind, Option.bind_some]
  by_cases hlong : (labels.map (·.ascii)).any Label.isOverlong = true
  · obtain ⟨label, hlabel, hover⟩ := List.any_eq_true.1 hlong
    obtain ⟨x, hx, rfl⟩ := List.mem_map.1 hlabel
    have hnone : Label.ofMapped? x.ascii = none := by rw [(hlabels x hx).2, if_pos hover]
    rw [mapM_eq_none (List.mem_map_of_mem hx) hnone, if_pos hlong]
    rfl
  · have hall : (labels.map (·.ascii)).mapM Label.ofMapped? = some labels := by
      rw [mapM_eq_some, List.map_map]
      refine List.map_congr_left fun x hx => ?_
      have hfits : Label.isOverlong x.ascii = false := by
        rw [Bool.not_eq_true, List.any_eq_false] at hlong
        simpa using hlong x.ascii (List.mem_map_of_mem hx)
      rw [Function.comp_apply, (hlabels x hx).2, hfits, if_neg Bool.false_ne_true]
    rw [hall, if_neg hlong, Option.bind_some, hdirected, if_pos rfl]

end Failover.Domain
