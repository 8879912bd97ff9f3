import Failover.Domain.Punycode

/-!
# Decoding what was encoded

The encoder goes through the code points of a label in ascending order, and for each of
them through the whole label. The decoder sees nothing but the differences that come out,
and puts a character in place for each of them. Wherever the encoder stands, the decoder has
put in place what the encoder has passed so far (`Encoding.present`), and the difference
that the encoder has counted up since then is the way that is left to go
(`Encoding.Tracked`). Both are kept by each character that is passed (`Tracked.pass`) and by
each code point (`Tracked.place`), and so the decoder has the whole label in the end
(`decode?_encode`).

Of the digits only their characters matter further: letters, digits and the hyphen behind
the characters that stand for themselves (`mem_encode`).
-/

namespace Failover.Domain.Punycode

/-! ## One number -/

/-- A number is read back from its digits, whatever stands behind them. -/
theorem decodeNumber_encodeNumber (bias k q weight sum : Nat) (r : List Char) :
    decodeNumber bias k weight sum (encodeNumber bias k q ++ r) = some (sum + q * weight, r) := by
  fun_induction encodeNumber bias k q generalizing weight sum with
  | case1 k q t hlt =>
    have hle := threshold_le k bias
    have hq : q < 36 := by omega
    rw [List.cons_append, decodeNumber, digit?_digitChar hq]
    exact if_pos hlt
  | case2 k q t hge ih =>
    have hpos := threshold_pos k bias
    have hle := threshold_le k bias
    have hrem : (q - t) % (36 - t) < 36 - t := Nat.mod_lt _ (by omega)
    have hdigit : t + (q - t) % (36 - t) < 36 := by omega
    rw [List.cons_append, decodeNumber, digit?_digitChar hdigit]
    simp only
    rw [if_neg (by omega), ih]
    -- The digit and the rest of the number together are the number.
    have hq : t + (q - t) % (36 - t) + (q - t) / (36 - t) * (36 - t) = q := by
      have hdiv := Nat.mod_add_div' (q - t) (36 - t)
      omega
    have hsum : sum + (t + (q - t) % (36 - t)) * weight +
        (q - t) / (36 - t) * (weight * (36 - t)) = sum + q * weight := by
      rw [Nat.mul_comm weight, ← Nat.mul_assoc, Nat.add_assoc, ← Nat.add_mul, hq]
    rw [← hsum]

theorem encodeNumber_ne_nil (bias k q : Nat) : encodeNumber bias k q ≠ [] := by
  rw [encodeNumber]
  split <;> exact List.cons_ne_nil _ _

/-! ## One character -/

theorem isPoint_toNat {c : Char} (h : 0x80 ≤ c.toNat) : isPoint c.toNat = true := by
  have hvalid : c.toNat < 0xD800 ∨ 0xDFFF < c.toNat ∧ c.toNat < 0x110000 := c.valid
  simp only [isPoint, Bool.or_eq_true, Bool.and_eq_true, decide_eq_true_eq]
  omega

/-- One difference is read and its character put in place. -/
theorem decodeLoop_encodeNumber {point pos bias delta p : Nat} {first : Bool}
    {left right : List Char} {c : Char} (hc : c.toNat = p) (houtside : 0x80 ≤ p)
    (hpoint : point ≤ p)
    (hreach : pos + delta = (p - point) * ((left ++ right).length + 1) + left.length)
    (r : List Char) :
    decodeLoop point pos bias first (left ++ right) (encodeNumber bias 36 delta ++ r) =
      decodeLoop p (left.length + 1) (adapt delta ((left ++ right).length + 1) first) false
        (left ++ c :: right) r := by
  have hsize : left.length < (left ++ right).length + 1 := by
    rw [List.length_append]
    omega
  have hnumber := decodeNumber_encodeNumber bias 36 delta 1 pos r
  rw [Nat.mul_one, hreach] at hnumber
  have hdiv : ((p - point) * ((left ++ right).length + 1) + left.length) /
      ((left ++ right).length + 1) = p - point := by
    rw [Nat.mul_comm, Nat.mul_add_div (by omega), Nat.div_eq_of_lt hsize, Nat.add_zero]
  have hmod : ((p - point) * ((left ++ right).length + 1) + left.length) %
      ((left ++ right).length + 1) = left.length := by
    rw [Nat.mul_comm, Nat.mul_add_mod, Nat.mod_eq_of_lt hsize]
  have hnext : point + (p - point) = p := by omega
  have hdelta : (p - point) * ((left ++ right).length + 1) + left.length - pos = delta := by
    omega
  have hchar : Char.ofNat p = c := by rw [← hc, Char.ofNat_toNat]
  have hisPoint : isPoint p = true := hc ▸ isPoint_toNat (hc ▸ houtside)
  cases hdigits : encodeNumber bias 36 delta ++ r with
  | nil => exact absurd (List.append_eq_nil_iff.1 hdigits).1 (encodeNumber_ne_nil _ _ _)
  | cons d ds =>
    rw [hdigits] at hnumber
    rw [decodeLoop]
    split
    next hnone => rw [hnumber] at hnone; cases hnone
    next i rest hsome =>
      rw [hnumber] at hsome
      cases hsome
      simp only [hdiv, hmod, hnext, hdelta, hisPoint, hchar, if_true, List.take_left,
        List.drop_left]

namespace Encoding

/-- What is in place when the encoder has passed the part of a label before some place: of
that part also the characters of the point in work. -/
def present (point : Nat) (before after : List Char) : List Char :=
  before.filter (·.toNat ≤ point) ++ after.filter (·.toNat < point)

/-- The decoder follows: after the digits so far it is at `point` and `pos`, has in place what
was passed, and the difference so far is what it has to go from there. -/
structure Tracked (basic : List Char) (s : Encoding) (before after : List Char)
    (point pos : Nat) : Prop where
  outside : 0x80 ≤ s.point
  point_le : point ≤ s.point
  placed : s.placed = (present s.point before after).length
  basic_le : basic.length ≤ s.placed
  decoded : ∀ r, decodeLoop 0x80 0 72 true basic (s.out ++ r) =
    decodeLoop point pos s.bias (s.placed == basic.length) (present s.point before after) r
  reach : pos + s.delta =
    (s.point - point) * (s.placed + 1) + (before.filter (·.toNat ≤ s.point)).length

variable {basic before after : List Char} {s : Encoding} {point pos : Nat}

@[simp] theorem pass_point (n : Nat) (s : Encoding) (c : Char) : (s.pass n c).point = s.point := by
  unfold pass
  split
  · rfl
  · split <;> rfl

/-- A character whose point is in work is put in place. -/
theorem Tracked.put {c : Char} (h : s.Tracked basic before (c :: after) point pos)
    (hc : c.toNat = s.point) :
    Tracked basic
      { s with
        out := s.out ++ encodeNumber s.bias 36 s.delta
        delta := 0
        bias := adapt s.delta (s.placed + 1) (s.placed == basic.length)
        placed := s.placed + 1 }
      (before ++ [c]) after s.point ((before.filter (·.toNat ≤ s.point)).length + 1) := by
  have hbefore : present s.point before (c :: after) =
      before.filter (·.toNat ≤ s.point) ++ after.filter (·.toNat < s.point) := by
    simp [present, hc]
  have hafter : present s.point (before ++ [c]) after =
      before.filter (·.toNat ≤ s.point) ++ c :: after.filter (·.toNat < s.point) := by
    simp [present, List.filter_append, hc]
  have hplaced := h.placed
  rw [hbefore] at hplaced
  refine ⟨h.outside, Nat.le_refl _, ?_, Nat.le_succ_of_le h.basic_le, fun r => ?_, ?_⟩
  · simp only [hafter, hplaced, List.length_append, List.length_cons, Nat.add_assoc]
  · have hreach := h.reach
    rw [hplaced] at hreach
    have hnew : (s.placed + 1 == basic.length) = false := by
      have hle := h.basic_le
      rw [beq_eq_false_iff_ne]
      omega
    simp only [hnew, hafter]
    rw [List.append_assoc, h.decoded, hbefore,
      decodeLoop_encodeNumber hc h.outside h.point_le hreach, ← hplaced]
  · simp only [List.filter_append, List.length_append, hc, Nat.le_refl, decide_true,
      List.filter_cons_of_pos, List.filter_nil, List.length_singleton, Nat.sub_self,
      Nat.zero_mul, Nat.zero_add, Nat.add_zero]

/-- One character of the label. -/
theorem Tracked.pass {c : Char} (h : s.Tracked basic before (c :: after) point pos) :
    ∃ point pos, (s.pass basic.length c).Tracked basic (before ++ [c]) after point pos := by
  rcases Nat.lt_trichotomy c.toNat s.point with hlt | heq | hgt
  · -- It is in place already, and is counted.
    have hpass : s.pass basic.length c = { s with delta := s.delta + 1 } := if_pos hlt
    have hpresent :
        present s.point (before ++ [c]) after = present s.point before (c :: after) := by
      simp [present, List.filter_append, hlt, Nat.le_of_lt hlt]
    refine ⟨point, pos, ?_⟩
    rw [hpass]
    refine ⟨h.outside, h.point_le, ?_, h.basic_le, ?_, ?_⟩
    · rw [hpresent]; exact h.placed
    · rw [hpresent]; exact h.decoded
    · have hreach := h.reach
      simp only [List.filter_append, List.length_append, Nat.le_of_lt hlt, decide_true,
        List.filter_cons_of_pos, List.filter_nil, List.length_singleton]
      omega
  · have hpass : s.pass basic.length c = _ := (if_neg (by omega)).trans (if_pos heq)
    exact ⟨_, _, hpass ▸ h.put heq⟩
  · -- It has to wait for its point.
    have hpass : s.pass basic.length c = s := (if_neg (by omega)).trans (if_neg (by omega))
    have hpresent :
        present s.point (before ++ [c]) after = present s.point before (c :: after) := by
      simp [present, List.filter_append, Nat.not_le.2 hgt, Nat.le_of_lt hgt]
    refine ⟨point, pos, ?_⟩
    rw [hpass]
    refine ⟨h.outside, h.point_le, ?_, h.basic_le, ?_, ?_⟩
    · rw [hpresent]; exact h.placed
    · rw [hpresent]; exact h.decoded
    · have hnone : [c].filter (·.toNat ≤ s.point) = [] := by simp [hgt]
      rw [List.filter_append, hnone, List.append_nil]
      exact h.reach

/-! ## One code point -/

/-- The whole label. -/
theorem Tracked.passAll (h : s.Tracked basic before after point pos) :
    ∃ point pos, (after.foldl (Encoding.pass basic.length) s).Tracked basic (before ++ after) []
      point pos := by
  induction after generalizing s before point pos with
  | nil => rw [List.append_nil]; exact ⟨point, pos, h⟩
  | cons c r ih =>
    obtain ⟨point', pos', hpass⟩ := h.pass
    rw [List.append_cons]
    exact ih hpass

theorem passAll_point (n : Nat) (label : List Char) (s : Encoding) :
    (label.foldl (Encoding.pass n) s).point = s.point := by
  induction label generalizing s with
  | nil => rfl
  | cons c r ih => rw [List.foldl_cons, ih, pass_point]

theorem place_point (n : Nat) (label : List Char) (s : Encoding) (p : Nat) :
    (s.place label n p).point = p + 1 := rfl

/-- A code point is brought into work, and then the one behind it. Between the former one and
this one the label has none. -/
theorem Tracked.place {label : List Char} {p : Nat} (h : s.Tracked basic [] label point pos)
    (hp : s.point ≤ p) (hnone : ∀ c ∈ label, s.point ≤ c.toNat → p ≤ c.toNat) :
    ∃ point pos, (s.place label basic.length p).Tracked basic [] label point pos := by
  have hpresent : present p [] label = present s.point [] label := by
    refine List.filter_congr fun c hc => ?_
    rw [decide_eq_decide]
    exact ⟨fun hlt => Nat.lt_of_not_le fun hle => absurd (hnone c hc hle) (by omega),
      fun hlt => by omega⟩
  have hstart : Tracked basic
      { s with delta := s.delta + (p - s.point) * (s.placed + 1), point := p } [] label
      point pos := by
    refine ⟨Nat.le_trans h.outside hp, Nat.le_trans h.point_le hp, ?_, h.basic_le, ?_, ?_⟩
    · simp only [hpresent]; exact h.placed
    · simp only [hpresent]; exact h.decoded
    · have hreach := h.reach
      have hway : (p - point) * (s.placed + 1) =
          (s.point - point) * (s.placed + 1) + (p - s.point) * (s.placed + 1) := by
        have hle := h.point_le
        rw [← Nat.add_mul]
        congr 1
        omega
      simp only [List.filter_nil, List.length_nil] at hreach ⊢
      omega
  obtain ⟨point', pos', hall⟩ := hstart.passAll
  have hpoint := passAll_point basic.length label
    { s with delta := s.delta + (p - s.point) * (s.placed + 1), point := p }
  revert hall hpoint
  unfold Encoding.place
  dsimp only
  generalize label.foldl (Encoding.pass basic.length) _ = t
  intro hall hpoint
  rw [List.nil_append] at hall
  have hpassed : present (p + 1) [] label = present t.point label [] := by
    rw [hpoint]
    simp only [present, Nat.lt_succ_iff, List.filter_nil, List.nil_append, List.append_nil]
  refine ⟨point', pos', ?_⟩
  have houtside := hall.outside
  have hle := hall.point_le
  rw [hpoint] at houtside hle
  refine ⟨Nat.le_succ_of_le houtside, Nat.le_succ_of_le hle, ?_, hall.basic_le, ?_, ?_⟩
  · rw [hpassed]; exact hall.placed
  · rw [hpassed]; exact hall.decoded
  · -- The count of what was passed becomes one more turn over all that is in place.
    have hreach := hall.reach
    have hplaced := hall.placed
    rw [hpoint] at hreach hplaced
    simp only [present, List.filter_nil, List.append_nil] at hplaced
    have hturn : (p + 1 - point') * (t.placed + 1) =
        (p - point') * (t.placed + 1) + (t.placed + 1) := by
      rw [Nat.succ_sub hle, Nat.succ_mul]
    simp only [List.filter_nil, List.length_nil]
    omega

/-- All code points, in ascending order. -/
theorem Tracked.placeAll {label : List Char} {points : List Nat}
    (h : s.Tracked basic [] label point pos) (hascending : points.Pairwise (· < ·))
    (hpoints : ∀ p ∈ points, s.point ≤ p)
    (hall : ∀ c ∈ label, s.point ≤ c.toNat → c.toNat ∈ points) :
    ∃ point pos,
      (points.foldl (Encoding.place label basic.length) s).Tracked basic [] label point pos ∧
      ∀ c ∈ label, c.toNat < (points.foldl (Encoding.place label basic.length) s).point := by
  induction points generalizing s point pos with
  | nil => exact ⟨point, pos, h, fun c hc => Nat.lt_of_not_le fun hle => by cases hall c hc hle⟩
  | cons p r ih =>
    obtain ⟨hfirst, hascending⟩ := List.pairwise_cons.1 hascending
    obtain ⟨point', pos', hplace⟩ := h.place (hpoints p List.mem_cons_self) fun c hc hle => by
      rcases List.mem_cons.1 (hall c hc hle) with heq | hmem
      · omega
      · exact Nat.le_of_lt (hfirst _ hmem)
    refine ih hplace hascending (fun q hq => hfirst q hq) fun c hc hle => ?_
    rw [place_point] at hle
    have hmem := hall c hc (Nat.le_trans (hpoints p List.mem_cons_self) (by omega))
    rcases List.mem_cons.1 hmem with heq | hmem
    · omega
    · exact hmem

end Encoding

/-! ## A label -/

theorem mem_insertNew {n m : Nat} {ns : List Nat} : m ∈ insertNew n ns ↔ m = n ∨ m ∈ ns := by
  fun_induction insertNew n ns with
  | case1 => simp
  | case2 => simp
  | case3 => simp
  | case4 k r _ _ ih =>
    rw [List.mem_cons, ih, List.mem_cons]
    exact or_left_comm

theorem insertNew_ascending {n : Nat} {ns : List Nat} (h : ns.Pairwise (· < ·)) :
    (insertNew n ns).Pairwise (· < ·) := by
  fun_induction insertNew n ns with
  | case1 => exact List.pairwise_singleton _ _
  | case2 m r hlt =>
    refine List.pairwise_cons.2 ⟨fun k hk => ?_, h⟩
    rcases List.mem_cons.1 hk with rfl | hk
    · exact hlt
    · exact Nat.lt_trans hlt ((List.pairwise_cons.1 h).1 k hk)
  | case3 => exact h
  | case4 m r hlt hne ih =>
    obtain ⟨hfirst, hr⟩ := List.pairwise_cons.1 h
    refine List.pairwise_cons.2 ⟨fun k hk => ?_, ih hr⟩
    rcases mem_insertNew.1 hk with rfl | hk
    · omega
    · exact hfirst k hk

/-- The code points of characters, each once and in ascending order. -/
def pointsOf (cs : List Char) : List Nat := cs.foldr (fun c ns => insertNew c.toNat ns) []

theorem mem_pointsOf {cs : List Char} {n : Nat} : n ∈ pointsOf cs ↔ ∃ c ∈ cs, c.toNat = n := by
  induction cs with
  | nil => simp [pointsOf]
  | cons c r ih =>
    show n ∈ insertNew c.toNat (pointsOf r) ↔ _
    rw [mem_insertNew, ih]
    simp only [List.mem_cons, exists_eq_or_imp]
    exact or_congr_left eq_comm

theorem pointsOf_ascending (cs : List Char) : (pointsOf cs).Pairwise (· < ·) := by
  induction cs with
  | nil => exact List.Pairwise.nil
  | cons c r ih => exact insertNew_ascending ih

/-! ### Digits -/

/-- The digits of a number are digits. -/
theorem mem_encodeNumber {bias k q : Nat} {c : Char} (h : c ∈ encodeNumber bias k q) :
    (digit? c).isSome = true := by
  fun_induction encodeNumber bias k q with
  | case1 k q t hlt =>
    have hle := threshold_le k bias
    rw [List.mem_singleton.1 h, digit?_digitChar (by omega)]
    rfl
  | case2 k q t hge ih =>
    rcases List.mem_cons.1 h with rfl | h
    · have hpos := threshold_pos k bias
      have hle := threshold_le k bias
      have hrem : (q - t) % (36 - t) < 36 - t := Nat.mod_lt _ (by omega)
      rw [digit?_digitChar (by omega)]
      rfl
    · exact ih h

namespace Encoding

/-- Everything that is written is a digit. -/
def Written (s : Encoding) : Prop := ∀ c ∈ s.out, (digit? c).isSome = true

variable {s : Encoding}

theorem Written.pass (h : s.Written) (n : Nat) (c : Char) : (s.pass n c).Written := by
  unfold Encoding.pass
  split
  · exact h
  · split
    · intro d hd
      rcases List.mem_append.1 hd with hd | hd
      · exact h d hd
      · exact mem_encodeNumber hd
    · exact h

theorem Written.passAll (h : s.Written) (n : Nat) (label : List Char) :
    (label.foldl (Encoding.pass n) s).Written := by
  induction label generalizing s with
  | nil => exact h
  | cons c r ih => exact ih (h.pass n c)

theorem Written.placeAll (h : s.Written) (n : Nat) (label : List Char) (points : List Nat) :
    (points.foldl (Encoding.place label n) s).Written := by
  induction points generalizing s with
  | nil => exact h
  | cons p r ih =>
    refine ih ?_
    have hstart : Written { s with
        delta := s.delta + (p - s.point) * (s.placed + 1), point := p } := h
    exact hstart.passAll n label

end Encoding

/-! ### Back and forth -/

/-- The digits of a label. -/
def digitsOf (label : List Char) : List Char :=
  ((pointsOf (label.filter (0x80 ≤ ·.toNat))).foldl
    (Encoding.place label (label.filter (·.toNat < 0x80)).length)
    ⟨[], 0x80, 0, 72, (label.filter (·.toNat < 0x80)).length⟩).out

theorem encode_eq (label : List Char) :
    encode label = label.filter (·.toNat < 0x80) ++
      (if (label.filter (·.toNat < 0x80)).isEmpty then [] else ['-']) ++ digitsOf label := rfl

theorem mem_digitsOf {label : List Char} {c : Char} (h : c ∈ digitsOf label) :
    (digit? c).isSome = true := by
  have hempty : Encoding.Written
      ⟨[], 0x80, 0, 72, (label.filter (·.toNat < 0x80)).length⟩ := fun _ hc => by cases hc
  exact hempty.placeAll _ label _ c h

/-- The digits of a label bring its other characters to those that stand for themselves. -/
theorem decodeLoop_digitsOf (label : List Char) :
    decodeLoop 0x80 0 72 true (label.filter (·.toNat < 0x80)) (digitsOf label) = some label := by
  have hstart : Encoding.Tracked (label.filter (·.toNat < 0x80))
      ⟨[], 0x80, 0, 72, (label.filter (·.toNat < 0x80)).length⟩ [] label 0x80 0 := by
    refine ⟨Nat.le_refl _, Nat.le_refl _, rfl, Nat.le_refl _, fun r => ?_, ?_⟩
    · simp [Encoding.present]
    · simp
  have hpoints : ∀ p ∈ pointsOf (label.filter (0x80 ≤ ·.toNat)), 0x80 ≤ p := by
    intro p hp
    obtain ⟨c, hc, rfl⟩ := mem_pointsOf.1 hp
    simpa using (List.mem_filter.1 hc).2
  have hall : ∀ c ∈ label, 0x80 ≤ c.toNat →
      c.toNat ∈ pointsOf (label.filter (0x80 ≤ ·.toNat)) := fun c hc hle =>
    mem_pointsOf.2 ⟨c, List.mem_filter.2 ⟨hc, by simpa using hle⟩, rfl⟩
  obtain ⟨point, pos, htracked, hlt⟩ := hstart.placeAll (pointsOf_ascending _) hpoints hall
  have hdecoded := htracked.decoded []
  rw [List.append_nil, decodeLoop] at hdecoded
  refine hdecoded.trans ?_
  rw [Encoding.present, List.filter_nil, List.nil_append, List.filter_eq_self.2]
  exact fun c hc => by simpa using hlt c hc

theorem ne_hyphen_of_digit {c : Char} (h : (digit? c).isSome = true) : (c != '-') = true := by
  rw [bne_iff_ne]
  rintro rfl
  revert h
  decide

/-- **Encoding loses nothing.** -/
theorem decode?_encode (label : List Char) : decode? (encode label) = some label := by
  have hdigits : ∀ c ∈ (digitsOf label).reverse, (c != '-') = true := fun c hc =>
    ne_hyphen_of_digit (mem_digitsOf (List.mem_reverse.1 hc))
  have hloop := decodeLoop_digitsOf label
  have hascii : (label.filter (·.toNat < 0x80)).all (·.toNat < 0x80) = true :=
    List.all_eq_true.2 fun c hc => (List.mem_filter.1 hc).2
  rw [encode_eq]
  generalize label.filter (·.toNat < 0x80) = basic at hloop hascii ⊢
  unfold decode?
  simp only [List.reverse_append, List.takeWhile_append_of_pos hdigits,
    List.dropWhile_append_of_pos hdigits]
  cases basic with
  | nil => simpa using hloop
  | cons c r =>
    have hsome : (c :: r).isEmpty = false := rfl
    simpa [hsome, hascii] using hloop

/-! ## The characters of encoded labels -/

theorem exists_digitChar {c : Char} (h : (digit? c).isSome = true) : ∃ d < 36, c = digitChar d := by
  unfold digit? at h
  split at h
  next hletter =>
    have hlo : 97 ≤ c.toNat := hletter.1
    have hhi : c.toNat ≤ 122 := hletter.2
    refine ⟨c.toNat - 97, by omega, ?_⟩
    rw [digitChar, if_pos (by omega)]
    show c = Char.ofNat (97 + (c.toNat - 97))
    rw [Nat.add_sub_cancel' hlo, Char.ofNat_toNat]
  next =>
    split at h
    next hdigit =>
      have hlo : 48 ≤ c.toNat := hdigit.1
      have hhi : c.toNat ≤ 57 := hdigit.2
      refine ⟨c.toNat - 48 + 26, by omega, ?_⟩
      rw [digitChar, if_neg (by omega)]
      show c = Char.ofNat (48 + (c.toNat - 48 + 26 - 26))
      rw [Nat.add_sub_cancel, Nat.add_sub_cancel' hlo, Char.ofNat_toNat]
    next => cases h

/-- Besides characters of the label that stand for themselves there are only digits and the
hyphen. -/
theorem mem_encode {label : List Char} {c : Char} (h : c ∈ encode label) :
    c ∈ label ∧ c.toNat < 0x80 ∨ c = '-' ∨ (digit? c).isSome = true := by
  rw [encode_eq, List.mem_append, List.mem_append] at h
  rcases h with (hbasic | hhyphen) | hdigit
  · obtain ⟨hmem, hascii⟩ := List.mem_filter.1 hbasic
    exact .inl ⟨hmem, by simpa using hascii⟩
  · split at hhyphen
    · cases hhyphen
    · exact .inr (.inl (List.mem_singleton.1 hhyphen))
  · exact .inr (.inr (mem_digitsOf hdigit))

theorem decodeNumber_digits {bias k weight sum n : Nat} {cs r : List Char}
    (h : decodeNumber bias k weight sum cs = some (n, r)) :
    ∀ c ∈ cs, (digit? c).isSome = true ∨ c ∈ r := by
  induction cs generalizing k weight sum with
  | nil => intro c hc; cases hc
  | cons d cs ih =>
    rw [decodeNumber] at h
    cases hd : digit? d with
    | none => rw [hd] at h; cases h
    | some v =>
      simp only [hd] at h
      intro c hc
      rcases List.mem_cons.1 hc with rfl | hc
      · rw [hd]; exact .inl rfl
      · split at h
        · cases h; exact .inr hc
        · exact ih h c hc

/-- What is decoded is digits, and what was in place stays. -/
theorem decodeLoop_eq_some {point pos bias : Nat} {first : Bool} {label cs shown : List Char}
    (h : decodeLoop point pos bias first label cs = some shown) :
    (∀ c ∈ cs, (digit? c).isSome = true) ∧ ∀ c ∈ label, c ∈ shown := by
  fun_induction decodeLoop point pos bias first label cs with
  | case1 =>
    cases h
    exact ⟨fun _ hc => (List.not_mem_nil hc).elim, fun _ hc => hc⟩
  | case2 => cases h
  | case3 point pos bias first label c cs i rest hnumber size next hpoint at' ih =>
    obtain ⟨hdigits, hkept⟩ := ih h
    refine ⟨fun d hd => ?_, fun d hd => hkept d ?_⟩
    · exact (decodeNumber_digits hnumber d hd).elim id (hdigits d)
    · rw [← List.take_append_drop at' label, List.mem_append] at hd
      rw [List.mem_append, List.mem_cons]
      exact hd.imp_right .inr
  | case4 => cases h

/-- A label that can be decoded has no other characters either. -/
theorem mem_of_decode? {cs shown : List Char} (h : decode? cs = some shown) {c : Char}
    (hc : c ∈ cs) : c ∈ shown ∧ c.toNat < 0x80 ∨ c = '-' ∨ (digit? c).isSome = true := by
  unfold decode? at h
  simp only at h
  split at h
  · exact .inr (.inr ((decodeLoop_eq_some h).1 c hc))
  next =>
    split at h
    next hascii =>
      obtain ⟨hdigits, hkept⟩ := decodeLoop_eq_some h
      rw [← List.mem_reverse, ← List.takeWhile_append_dropWhile (p := (· != '-')) (l := cs.reverse),
        List.mem_append] at hc
      rcases hc with htail | hrest
      · exact .inr (.inr (hdigits c (List.mem_reverse.2 htail)))
      · cases hdrop : cs.reverse.dropWhile (· != '-') with
        | nil => rw [hdrop] at hrest; cases hrest
        | cons x r =>
          rw [hdrop] at hrest hkept hascii
          rcases List.mem_cons.1 hrest with rfl | hmem
          · have hhead := List.head?_dropWhile_not (· != '-') cs.reverse
            rw [hdrop] at hhead
            exact .inr (.inl (by simpa using hhead))
          · have hbasic : c ∈ ((x :: r).drop 1).reverse := List.mem_reverse.2 hmem
            exact .inl ⟨hkept c hbasic, by simpa using List.all_eq_true.1 hascii c hbasic⟩
    next => cases h

end Failover.Domain.Punycode
