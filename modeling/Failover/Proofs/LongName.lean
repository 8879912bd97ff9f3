import Mathlib.Data.List.Perm.Subperm
import Failover.Proofs.Host

/-!
# Names of ideographs

A unified ideograph is neither mapped nor composed nor barred from a host's name, so a label of
them is brought to ASCII by encoding alone (`Host.parse_ideographs`). How long it gets depends on
the distances between its characters: where no two are closer than 27, each of them but the first
35 takes three digits at least (`length_encode_of_spaced`). Such a label can have fewer than
`maxConverted` characters and still be overlong in ASCII.
-/

namespace Failover.Domain.Punycode

/-! ## The length of encoded labels -/

theorem length_encodeNumber_pos (bias k q : Nat) : 1 ≤ (encodeNumber bias k q).length :=
  List.length_pos_of_ne_nil (encodeNumber_ne_nil bias k q)

/-- Both of the first thresholds are passed by what is left of the number. -/
theorem three_le_length_encodeNumber (bias k : Nat) {q : Nat} (h : 936 ≤ q) :
    3 ≤ (encodeNumber bias k q).length := by
  have hpos := threshold_pos k bias
  have hle := threshold_le k bias
  have hnext := threshold_le (k + 36) bias
  have hrest : 26 ≤ (q - threshold k bias) / (36 - threshold k bias) := by
    rw [Nat.le_div_iff_mul_le (by omega)]
    omega
  have hlast := length_encodeNumber_pos bias (k + 36 + 36)
    (((q - threshold k bias) / (36 - threshold k bias) - threshold (k + 36) bias) /
      (36 - threshold (k + 36) bias))
  rw [encodeNumber, if_neg (by omega : ¬ q < threshold k bias), encodeNumber, if_neg (by omega),
    List.length_cons, List.length_cons]
  omega

namespace Encoding

variable {s : Encoding} {n : Nat} {label : List Char}

/-- Nothing that is written or in place is taken back. -/
theorem pass_grows (s : Encoding) (n : Nat) (c : Char) :
    s.out.length ≤ (s.pass n c).out.length ∧ s.placed ≤ (s.pass n c).placed := by
  unfold pass
  split
  · exact ⟨Nat.le_refl _, Nat.le_refl _⟩
  · split
    · exact ⟨by simp, Nat.le_succ _⟩
    · exact ⟨Nat.le_refl _, Nat.le_refl _⟩

theorem passAll_grows (s : Encoding) (n : Nat) (label : List Char) :
    s.out.length ≤ (label.foldl (pass n) s).out.length ∧
      s.placed ≤ (label.foldl (pass n) s).placed := by
  induction label generalizing s with
  | nil => exact ⟨Nat.le_refl _, Nat.le_refl _⟩
  | cons c r ih =>
    exact ⟨Nat.le_trans (pass_grows s n c).1 (ih (s.pass n c)).1,
      Nat.le_trans (pass_grows s n c).2 (ih (s.pass n c)).2⟩

/-- A character whose point is in work gets in place, and a great difference takes three
digits. -/
theorem passAll_places (h : ∃ c ∈ label, c.toNat = s.point) :
    s.placed + 1 ≤ (label.foldl (pass n) s).placed ∧
      (936 ≤ s.delta → s.out.length + 3 ≤ (label.foldl (pass n) s).out.length) := by
  induction label generalizing s with
  | nil =>
    obtain ⟨c, hc, -⟩ := h
    cases hc
  | cons d r ih =>
    rw [List.foldl_cons]
    by_cases heq : d.toNat = s.point
    · have hpass : s.pass n d = _ := (if_neg (by omega)).trans (if_pos heq)
      obtain ⟨hout, hplaced⟩ := passAll_grows (s.pass n d) n r
      rw [hpass] at hout hplaced ⊢
      refine ⟨hplaced, fun hdelta => ?_⟩
      have hthree := three_le_length_encodeNumber s.bias 36 hdelta
      rw [List.length_append] at hout
      omega
    · have hr : ∃ c ∈ r, c.toNat = s.point := by
        obtain ⟨c, hc, hpoint⟩ := h
        rcases List.mem_cons.1 hc with rfl | hc
        · exact absurd hpoint heq
        · exact ⟨c, hc, hpoint⟩
      by_cases hlt : d.toNat < s.point
      · have hpass : s.pass n d = { s with delta := s.delta + 1 } := if_pos hlt
        rw [hpass]
        obtain ⟨hplaced, hout⟩ := ih (s := { s with delta := s.delta + 1 }) hr
        exact ⟨hplaced, fun hdelta => hout (Nat.le_succ_of_le hdelta)⟩
      · have hpass : s.pass n d = s := (if_neg hlt).trans (if_neg heq)
        rw [hpass]
        exact ih hr

/-- With 35 characters in place, each further point takes three digits, when it is far enough
from the one before it. -/
theorem placeAll_length (s : Encoding) (n : Nat) (label : List Char) {points : List Nat}
    (hspaced : points.Pairwise (· + 27 ≤ ·))
    (hpoints : ∀ p ∈ points, s.point + 26 ≤ p)
    (hlabel : ∀ p ∈ points, ∃ c ∈ label, c.toNat = p) :
    s.out.length + 3 * (points.length - (35 - s.placed)) ≤
      (points.foldl (place label n) s).out.length := by
  induction points generalizing s with
  | nil => simp
  | cons p r ih =>
    obtain ⟨hfirst, hspaced⟩ := List.pairwise_cons.1 hspaced
    have hp := hpoints p List.mem_cons_self
    have hway : 26 * (s.placed + 1) ≤ (p - s.point) * (s.placed + 1) :=
      Nat.mul_le_mul_right _ (by omega)
    obtain ⟨hplaced, hout⟩ := passAll_places (n := n)
      (s := { s with delta := s.delta + (p - s.point) * (s.placed + 1), point := p })
      (hlabel p List.mem_cons_self)
    obtain ⟨hgrows, -⟩ := passAll_grows
      { s with delta := s.delta + (p - s.point) * (s.placed + 1), point := p } n label
    have hrest := ih (s.place label n p) hspaced
      (fun q hq => by
        have hfar := hfirst q hq
        rw [place_point]
        omega)
      fun q hq => hlabel q (List.mem_cons_of_mem _ hq)
    rw [List.foldl_cons, List.length_cons]
    refine Nat.le_trans ?_ hrest
    unfold place
    dsimp only at hplaced hout hgrows ⊢
    generalize label.foldl (pass n) _ = t at hplaced hout hgrows ⊢
    -- From 36 places on, 26 points on the way are a difference of 36 * 26 = 936.
    by_cases hmany : 35 ≤ s.placed
    · have hthree := hout (by omega)
      omega
    · omega

end Encoding

/-- **The digits of a label whose characters lie far from each other.** -/
theorem length_encode_of_spaced {label : List Char} (hnodup : (label.map Char.toNat).Nodup)
    (hwide : ∀ c ∈ label, 0x80 + 26 ≤ c.toNat)
    (hspaced : ∀ c ∈ label, ∀ d ∈ label, c.toNat < d.toNat → c.toNat + 27 ≤ d.toNat) :
    3 * (label.length - 35) ≤ (encode label).length := by
  have hall : label.filter (0x80 ≤ ·.toNat) = label :=
    List.filter_eq_self.2 fun c hc => by
      have := hwide c hc
      rw [decide_eq_true_eq]
      omega
  have hbasic : label.filter (·.toNat < 0x80) = [] :=
    List.filter_eq_nil_iff.2 fun c hc => by
      have := hwide c hc
      rw [decide_eq_true_eq]
      omega
  have hpoints : (pointsOf label).Pairwise (· + 27 ≤ ·) :=
    (pointsOf_ascending label).imp_of_mem fun ha hb hlt => by
      obtain ⟨c, hc, rfl⟩ := mem_pointsOf.1 ha
      obtain ⟨d, hd, rfl⟩ := mem_pointsOf.1 hb
      exact hspaced c hc d hd hlt
  have hcount : label.length ≤ (pointsOf label).length := by
    have hsubset : label.map Char.toNat ⊆ pointsOf label := fun p hp => by
      obtain ⟨c, hc, rfl⟩ := List.mem_map.1 hp
      exact mem_pointsOf.2 ⟨c, hc, rfl⟩
    simpa using (hnodup.subperm hsubset).length_le
  have hplaced := Encoding.placeAll_length ⟨[], 0x80, 0, 72, 0⟩ 0 label hpoints
    (fun p hp => by
      obtain ⟨c, hc, rfl⟩ := mem_pointsOf.1 hp
      exact hwide c hc)
    fun p hp => mem_pointsOf.1 hp
  rw [encode_eq, digitsOf, hall, hbasic]
  simp only [List.length_nil, Nat.zero_add, Nat.sub_zero] at hplaced
  simp only [List.isEmpty_nil, if_true, List.nil_append, List.length_nil]
  omega

end Failover.Domain.Punycode

namespace Failover.Text

/-! ## Ideographs -/

theorem combiningClass_ideograph {c : Char} (h : isIdeograph c = true) : combiningClass c = 0 := by
  rw [combiningClass, h, Bool.or_true, if_pos rfl]

theorem insertByClass_ideograph {c : Char} (h : isIdeograph c = true) (done : List Char) :
    insertByClass c done = c :: done := by
  cases done with
  | nil => rfl
  | cons d more => rw [insertByClass, if_neg fun hne => hne.2.1 (combiningClass_ideograph h)]

theorem push_ideograph {c : Char} (h : isIdeograph c = true) (s : Composing) :
    s.push c = ⟨s.reversed, some c, []⟩ := by
  have hpair : ∀ a, composePair? a c = none := fun a => by
    rw [composePair?, h, Bool.or_true, if_pos rfl]
  unfold Composing.push
  simp only [combiningClass_ideograph h, if_true, hpair, ite_self]
  cases s.starter <;> rfl

section

variable {label : List Char} (h : ∀ c ∈ label, isIdeograph c = true)

include h

theorem decompose_ideographs : decompose label = label := by
  have hapart : label.flatMap decomposeChar = label := by
    rw [List.flatMap_congr (g := fun c => [c]) fun c hc => by
      rw [decomposeChar, h c hc, Bool.or_true, if_pos rfl], List.flatMap_singleton']
  have hinsert : ∀ done : List Char,
      label.foldl (fun done c => insertByClass c done) done = label.reverse ++ done := by
    clear hapart
    induction label with
    | nil => exact fun _ => rfl
    | cons c r ih =>
      intro done
      rw [List.foldl_cons, insertByClass_ideograph (h c List.mem_cons_self),
        ih (fun d hd => h d (List.mem_cons_of_mem _ hd)), List.reverse_cons, List.append_assoc]
      rfl
  rw [decompose, hapart, hinsert, List.append_nil, List.reverse_reverse]

/-- Ideographs stay as they are. -/
theorem compose_ideographs : compose label = label := by
  have hpush : ∀ s : Composing,
      (label.foldl Composing.push s).reversed = label.reverse ++ s.reversed := by
    induction label with
    | nil => exact fun _ => rfl
    | cons c r ih =>
      intro s
      rw [List.foldl_cons, ih (fun d hd => h d (List.mem_cons_of_mem _ hd)),
        push_ideograph (h c List.mem_cons_self), List.reverse_cons, List.append_assoc]
      rfl
  rw [compose, decompose_ideographs h, hpush]
  split
  · rfl
  · show (label.reverse ++ []).reverse = label
    rw [List.append_nil, List.reverse_reverse]

end

end Failover.Text

namespace Failover.Domain

open Text

theorem toNat_of_ideograph {c : Char} (h : isIdeograph c = true) :
    0x4E00 ≤ c.toNat ∧ c.toNat ≤ 0x9FFF := by
  simpa [isIdeograph] using h

theorem ne_of_ideograph {c d : Char} (h : isIdeograph c = true) (hd : isIdeograph d = false) :
    c ≠ d := by
  rintro rfl
  rw [h] at hd
  cases hd

theorem notMem_of_ideograph {c : Char} {marks : List Char} (h : isIdeograph c = true)
    (hmarks : marks.all (!isIdeograph ·) = true) : c ∉ marks := by
  intro hc
  have hnone := List.all_eq_true.1 hmarks c hc
  rw [h] at hnone
  cases hnone

theorem mapChar?_ideograph {c : Char} (h : isIdeograph c = true) : mapChar? c = some [c] := by
  have hge := (toNat_of_ideograph h).1
  rw [mapChar?, if_neg (by omega), if_pos h]

theorem not_forbidden_ideograph {c : Char} (h : isIdeograph c = true) : isForbidden c = false := by
  obtain ⟨hge, hle⟩ := toNat_of_ideograph h
  have hupper : c.isUpper = false := by
    rw [← Bool.not_eq_true]
    intro hupper
    have hz : c.toNat ≤ 90 := UInt32.le_iff_toNat_le.1 (of_decide_eq_true hupper).2
    omega
  have hmarks : ['%', '#', '/', ':', '<', '>', '?', '@', '[', '\\', ']', '^', '|'].contains c =
      false := by
    rw [List.contains_eq_mem, decide_eq_false_iff_not]
    exact notMem_of_ideograph h (by decide)
  rw [isForbidden, hmarks, hupper]
  simp only [Bool.or_false, Bool.or_eq_false_iff, decide_eq_false_iff_not, beq_eq_false_iff_ne]
  omega

section

variable {label : List Char} (h : ∀ c ∈ label, isIdeograph c = true)

include h

theorem joinersFit_ideographs (before : List Char) : joinersFit before label = true := by
  induction label generalizing before with
  | nil => rfl
  | cons c r ih =>
    have hc := h c List.mem_cons_self
    have hjoiner : (c == '\u200d') = false :=
      beq_eq_false_iff_ne.2 (ne_of_ideograph hc (by decide))
    have hnonJoiner : (c == '\u200c') = false :=
      beq_eq_false_iff_ne.2 (ne_of_ideograph hc (by decide))
    rw [joinersFit, hjoiner, hnonJoiner, ih fun d hd => h d (List.mem_cons_of_mem _ hd)]
    rfl

theorem isLabel_ideographs (hlength : label.length ≤ maxConverted) : isLabel label = true := by
  have hstable : label.all isStable = true := List.all_eq_true.2 fun c hc => by
    rw [isStable, mapChar?_ideograph (h c hc), beq_self_eq_true]
  have hdot : label.contains '.' = false := by
    rw [List.contains_eq_mem, decide_eq_false_iff_not]
    exact fun hmem => ne_of_ideograph (h _ hmem) (by decide) rfl
  have hmark : label.head?.any isMark = false := by
    cases label with
    | nil => rfl
    | cons c r =>
      show isMark c = false
      rw [isMark, h c List.mem_cons_self]
      rfl
  have hforbidden : label.any isForbidden = false :=
    List.any_eq_false.2 fun c hc => by rw [not_forbidden_ideograph (h c hc)]; decide
  rw [isLabel, compose_ideographs h, beq_self_eq_true, hstable, hdot, hmark,
    joinersFit_ideographs h, hforbidden, decide_eq_true hlength]
  rfl

theorem areDirected_ideographs : areDirected [label] = true := by
  have hnone : label.all (fun c => !isRightToLeft c) = true := List.all_eq_true.2 fun c hc => by
    rw [isRightToLeft, h c hc, Bool.not_true, Bool.and_false, Bool.false_and, Bool.not_false]
  rw [areDirected, List.all_cons, hnone]
  rfl

/-- A name of ideographs is encoded, and nothing else is done to it. -/
theorem textToAscii?_ideographs (hne : label ≠ []) (hlength : label.length ≤ maxConverted) :
    textToAscii? label = some (acePrefix ++ Punycode.encode label) := by
  have hmapped : map? label = some label := by
    have hchars : label.mapM mapChar? = some (label.map fun c => [c]) := by
      rw [mapM_eq_some, List.map_map]
      exact List.map_congr_left fun c hc => mapChar?_ideograph (h c hc)
    rw [map?, hchars, Option.map_some, ← List.flatMap_def, List.flatMap_singleton',
      compose_ideographs h]
  have hsplit : splitOn (· == '.') label = [label] := splitOn_eq_singleton fun c hc =>
    beq_eq_false_iff_ne.2 (ne_of_ideograph (h c hc) (by decide))
  have hbegins : acePrefix.isPrefixOf label = false := by
    rw [← Bool.not_eq_true, List.isPrefixOf_iff_prefix]
    exact fun hx => ne_of_ideograph (h 'x' (hx.subset List.mem_cons_self)) (by decide) rfl
  have hwide : label.all (·.toNat < 0x80) = false := by
    obtain ⟨c, r, rfl⟩ := List.exists_cons_of_ne_nil hne
    have hge := (toNat_of_ideograph (h c List.mem_cons_self)).1
    exact List.all_eq_false.2 ⟨c, List.mem_cons_self, by rw [decide_eq_true_eq]; omega⟩
  have hforms : Label.ofMapped? label = some ⟨label, acePrefix ++ Punycode.encode label⟩ := by
    unfold Label.ofMapped?
    simp only [hbegins, hwide, isLabel_ideographs h hlength, Bool.false_eq_true, if_false, if_true]
  unfold textToAscii?
  simp only [hmapped, hsplit, Option.bind_eq_bind, Option.bind_some, List.mapM_cons, hforms,
    List.mapM_nil, Option.pure_def, List.map_cons, List.map_nil, areDirected_ideographs h, if_true,
    List.intercalate_singleton]

end

end Failover.Domain

namespace Failover.Url.Host

open Text Domain

variable {label : List Char}

theorem not_dot_of_ideographs (h : ∀ c ∈ label, isIdeograph c = true) :
    ∀ c ∈ acePrefix ++ Punycode.encode label, (c == '.') = false := by
  intro c hc
  rw [beq_eq_false_iff_ne]
  rcases List.mem_append.1 hc with hc | hc
  · exact (isLabelChar_iff.1 (isLabelChar_of_mem_acePrefix hc)).2.2
  · rcases Punycode.mem_encode hc with ⟨hmem, -⟩ | rfl | hdigit
    · exact ne_of_ideograph (h c hmem) (by decide)
    · decide
    · exact (isLabelChar_iff.1 (isLabelChar_digit hdigit)).2.2

/-- A label with Punycode in it is no number. -/
theorem endsInNumber_ace {digits : List Char}
    (h : ∀ c ∈ acePrefix ++ digits, (c == '.') = false) :
    Ipv4.endsInNumber (acePrefix ++ digits) = false := by
  have hparts : Ipv4.parts (acePrefix ++ digits) = [acePrefix ++ digits] := by
    rw [Ipv4.parts, splitOn_eq_singleton h]
    rfl
  have hmem : 'x' ∈ acePrefix ++ digits := List.mem_append_left _ List.mem_cons_self
  have hx : digitValue? 10 'x' = none := by decide
  have hnumber : Ipv4.readPart? (acePrefix ++ digits) = none := by
    show digitsNumber? 10 (acePrefix ++ digits) = none
    rw [digitsNumber?, mapM_eq_none hmem hx]
    rfl
  have hdigits : (acePrefix ++ digits).all Char.isDigit = false :=
    List.all_eq_false.2 ⟨'x', hmem, by decide⟩
  rw [Ipv4.endsInNumber, hparts]
  simp only [List.getLast?_singleton, hdigits, hnumber, Bool.and_false, Option.isSome_none,
    Bool.or_false]

/-- A name of ideographs is read as the name that it is encoded to. -/
theorem parse_ideographs (h : ∀ c ∈ label, isIdeograph c = true) (hne : label ≠ [])
    (hlength : label.length ≤ maxConverted) :
    parse label = .ok (.domain (acePrefix ++ Punycode.encode label)) := by
  have hascii := textToAscii?_ideographs h hne hlength
  have hbracketed : bracketed? label = none := by
    unfold bracketed?
    split
    · exact absurd rfl (ne_of_ideograph (h '[' List.mem_cons_self) (by decide))
    · rfl
  have hdecode := toAscii?_percentDecode fun hmem : '%' ∈ label =>
    ne_of_ideograph (h '%' hmem) (by decide) rfl
  have hsome : (acePrefix ++ Punycode.encode label).isEmpty = false := rfl
  unfold parse
  simp only [hbracketed, hdecode, hascii, hsome, endsInNumber_ace (not_dot_of_ideographs h),
    Bool.false_eq_true, if_false]

/-- The name may be overlong. -/
theorem isOverlong_ideographs (h : ∀ c ∈ label, isIdeograph c = true) :
    (domain (acePrefix ++ Punycode.encode label)).isOverlong =
      decide (2 * maxConverted < (Punycode.encode label).length) := by
  have hbegins : acePrefix.isPrefixOf (acePrefix ++ Punycode.encode label) = true :=
    List.isPrefixOf_iff_prefix.2 (List.prefix_append _ _)
  rw [isOverlong, isOverlongName, splitOn_eq_singleton (not_dot_of_ideographs h), List.any_cons,
    List.any_nil, Bool.or_false, Label.isOverlong, hbegins, Bool.true_and]
  rfl

end Failover.Url.Host
