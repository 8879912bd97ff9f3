import Mathlib.Data.List.DropRight
import Failover.Proofs.Utf8
import Failover.Server

/-!
# Paths that are read again

The segments of a path that was read are no steps, have nothing left to encode and hold no
slash (`SpecialSegment`). Encoding could make a step only by writing a dot as `%2E`, and it
never encodes a dot. Without the slashes at its end such a path is therefore read as the
segments it was written from, and stripping slashes once more changes nothing
(`basePath_again`).
-/

namespace Failover.Url

open Text

/-! ## Encoded text -/

theorem hexCapital_facts : ∀ n < 16, pathSet (hexCapital n) = false ∧
    isSlash .special (hexCapital n) = false ∧ (hexCapital n).toLower = Nat.digitChar n := by
  decide

/-- The characters of an encoded text: those that need no encoding, and those of codes. -/
theorem mem_percentEncode {set : EncodeSet} {cs : List Char} {c : Char}
    (h : c ∈ percentEncode set cs) :
    (c ∈ cs ∧ set c = false) ∨ c = '%' ∨ ∃ n < 16, c = hexCapital n := by
  obtain ⟨d, hd, hc⟩ := List.mem_flatMap.1 h
  unfold encodeChar at hc
  split at hc
  · obtain ⟨b, -, hc⟩ := List.mem_flatMap.1 hc
    have hb : b.toNat < 256 := b.toNat_lt
    simp only [encodeByte, List.mem_cons, List.not_mem_nil, or_false] at hc
    rcases hc with rfl | rfl | rfl
    · exact .inr (.inl rfl)
    · exact .inr (.inr ⟨b.toNat / 16, by omega, rfl⟩)
    · exact .inr (.inr ⟨b.toNat % 16, by omega, rfl⟩)
  next hset =>
    rw [List.mem_singleton] at hc
    subst hc
    exact .inl ⟨hd, Bool.eq_false_iff.2 hset⟩

/-- The first byte of a character is the code of a dot only for the dot. -/
theorem exists_encodeChar {c : Char} (hset : pathSet c = true) :
    ∃ b : UInt8, b ≠ 0x2E ∧ ∃ r, encodeChar pathSet c =
      '%' :: hexCapital (b.toNat / 16) :: hexCapital (b.toNat % 16) :: r := by
  obtain ⟨b, bs, hbytes, hhead⟩ := Utf8.exists_head c
  refine ⟨b, ?_, bs.flatMap encodeByte, ?_⟩
  · rintro rfl
    have hdot : Utf8.head 0x2E (bs ++ []) = .char '.' (bs ++ []) := rfl
    rw [hhead] at hdot
    have hc := (Utf8.Head.char.inj hdot).1
    subst hc
    revert hset
    decide
  · rw [encodeChar, if_pos hset, hbytes]
    rfl

/-! ## Steps -/

/-- A percent sign in the spelling of a step begins the code of a dot. -/
theorem percent_of_step {s : List Char} (h : isDot s = true ∨ isDoubleDot s = true) {x y : Char}
    (hs : ['%', x, y] <:+: s.map Char.toLower) : x = '2' ∧ y = 'e' := by
  have hspellings : s.map Char.toLower ∈ [['.'], ['%', '2', 'e'], ['.', '.'],
      ['.', '%', '2', 'e'], ['%', '2', 'e', '.'], ['%', '2', 'e', '%', '2', 'e']] := by
    rcases h with h | h
    · simp only [isDot, Bool.or_eq_true, beq_iff_eq] at h
      rcases h with h | h <;> rw [h] <;> decide
    · unfold isDoubleDot at h
      split at h
      next heq => rw [heq]; decide
      next heq => rw [heq]; decide
      next heq => rw [heq]; decide
      next heq => rw [heq]; decide
      next => cases h
  simp only [List.mem_cons, List.not_mem_nil, or_false] at hspellings
  revert hs
  rcases hspellings with heq | heq | heq | heq | heq | heq <;> rw [heq] <;>
    simp [List.infix_cons_iff]

/-- Encoding makes no step of what is none. -/
theorem not_step_percentEncode {s : List Char} (hdot : isDot s = false)
    (hdouble : isDoubleDot s = false) :
    isDot (percentEncode pathSet s) = false ∧ isDoubleDot (percentEncode pathSet s) = false := by
  by_cases hplain : ∀ c ∈ s, pathSet c = false
  · rw [percentEncode_eq_self hplain]
    exact ⟨hdot, hdouble⟩
  · simp only [not_forall, Bool.not_eq_false] at hplain
    obtain ⟨c, hc, hset⟩ := hplain
    obtain ⟨before, after, rfl⟩ := List.append_of_mem hc
    obtain ⟨b, hb, r, hcode⟩ := exists_encodeChar hset
    have hlt : b.toNat < 256 := b.toNat_lt
    have hinfix : ['%', Nat.digitChar (b.toNat / 16), Nat.digitChar (b.toNat % 16)] <:+:
        (percentEncode pathSet (before ++ c :: after)).map Char.toLower := by
      rw [← (hexCapital_facts _ (by omega : b.toNat / 16 < 16)).2.2,
        ← (hexCapital_facts _ (by omega : b.toNat % 16 < 16)).2.2]
      refine ⟨(percentEncode pathSet before).map Char.toLower,
        (r ++ percentEncode pathSet after).map Char.toLower, ?_⟩
      simp [percentEncode, hcode]
    have hnone : ¬ (isDot (percentEncode pathSet (before ++ c :: after)) = true ∨
        isDoubleDot (percentEncode pathSet (before ++ c :: after)) = true) := fun hstep => by
      obtain ⟨hx, hy⟩ := percent_of_step hstep hinfix
      rw [Nat.digitChar_eq_two] at hx
      rw [Nat.digitChar_eq_e] at hy
      exact hb (UInt8.toNat_inj.1 (show b.toNat = 46 by omega))
    rwa [not_or, Bool.not_eq_true, Bool.not_eq_true] at hnone

/-! ## Segments -/

/-- A segment of a finished path whose slashes may lean either way. -/
def SpecialSegment (s : List Char) : Prop := Segment s ∧ ∀ c ∈ s, isSlash .special c = false

theorem specialSegment_nil : SpecialSegment [] := by
  refine ⟨⟨rfl, rfl, ?_⟩, ?_⟩ <;> intro c hc <;> cases hc

theorem specialSegment_percentEncode {s : List Char} (hdot : isDot s = false)
    (hdouble : isDoubleDot s = false) (hslash : ∀ c ∈ s, isSlash .special c = false) :
    SpecialSegment (percentEncode pathSet s) := by
  obtain ⟨hdot, hdouble⟩ := not_step_percentEncode hdot hdouble
  refine ⟨⟨hdot, hdouble, fun c hc => ?_⟩, fun c hc => ?_⟩
  · rcases mem_percentEncode hc with ⟨-, hset⟩ | rfl | ⟨n, hn, rfl⟩
    · exact hset
    · decide
    · exact (hexCapital_facts n hn).1
  · rcases mem_percentEncode hc with ⟨hmem, -⟩ | rfl | ⟨n, hn, rfl⟩
    · exact hslash c hmem
    · decide
    · exact (hexCapital_facts n hn).2.1

/-- Steps and segments are taken one by one; what lies behind stays finished. -/
theorem specialSegment_takeSegments {before segments : List (List Char)}
    (hbefore : ∀ s ∈ before, SpecialSegment s)
    (hsegments : ∀ s ∈ segments, ∀ c ∈ s, isSlash .special c = false) :
    ∀ s ∈ takeSegments before segments, SpecialSegment s := by
  have htail : ∀ before : List (List Char), (∀ s ∈ before, SpecialSegment s) →
      ∀ s ∈ before.tail, SpecialSegment s := fun _ h s hs => h s (List.mem_of_mem_tail hs)
  fun_induction takeSegments before segments with
  | case1 before => exact fun s hs => hbefore s (List.mem_reverse.1 hs)
  | case2 before s _ =>
    exact fun t ht => List.forall_mem_cons.2 ⟨specialSegment_nil, htail before hbefore⟩ t
      (List.mem_reverse.1 ht)
  | case3 before s _ _ =>
    exact fun t ht => List.forall_mem_cons.2 ⟨specialSegment_nil, hbefore⟩ t
      (List.mem_reverse.1 ht)
  | case4 before s hdouble hdot =>
    have hs := specialSegment_percentEncode (Bool.eq_false_iff.2 hdot)
      (Bool.eq_false_iff.2 hdouble) (hsegments s List.mem_cons_self)
    exact fun t ht => List.forall_mem_cons.2 ⟨hs, hbefore⟩ t (List.mem_reverse.1 ht)
  | case5 before s more _ _ ih =>
    exact ih (htail before hbefore) fun t ht => hsegments t (List.mem_cons_of_mem _ ht)
  | case6 before s more _ _ _ ih =>
    exact ih hbefore fun t ht => hsegments t (List.mem_cons_of_mem _ ht)
  | case7 before s more _ hdouble hdot ih =>
    have hs := specialSegment_percentEncode (Bool.eq_false_iff.2 hdot)
      (Bool.eq_false_iff.2 hdouble) (hsegments s List.mem_cons_self)
    exact ih (List.forall_mem_cons.2 ⟨hs, hbefore⟩) fun t ht =>
      hsegments t (List.mem_cons_of_mem _ ht)

theorem specialSegment_readSegments {text : List Char} :
    ∀ s ∈ readSegments .special text, SpecialSegment s := by
  unfold readSegments
  split
  · simpa using specialSegment_nil
  · exact specialSegment_takeSegments (fun s hs => absurd hs List.not_mem_nil)
      fun s hs => not_sep_of_mem_splitOn hs

/-! ## Paths without slashes at the end -/

theorem writeSegments_concat (segments : List (List Char)) (s : List Char) :
    writeSegments (segments ++ [s]) = writeSegments segments ++ '/' :: s := by
  simp [writeSegments]

theorem writeSegments_cons (s : List Char) (more : List (List Char)) :
    writeSegments (s :: more) = '/' :: ['/'].intercalate (s :: more) := by
  induction more generalizing s with
  | nil => simp [writeSegments]
  | cons t more ih =>
    rw [List.intercalate_cons_cons, List.append_assoc, List.singleton_append, ← ih]
    rfl

/-- Without the slashes at the end a path is one without the empty segments at the end. -/
theorem dropTrailingSlashes_writeSegments {segments : List (List Char)}
    (h : ∀ s ∈ segments, SpecialSegment s) :
    Server.dropTrailingSlashes (writeSegments segments) =
      writeSegments (segments.rdropWhile (·.isEmpty)) := by
  show (writeSegments segments).rdropWhile (· == '/') = _
  induction segments using List.reverseRecOn with
  | nil => rfl
  | append_singleton front s ih =>
    rw [writeSegments_concat]
    rcases List.eq_nil_or_concat s with rfl | ⟨s, c, rfl⟩
    · rw [List.rdropWhile_concat_pos _ _ _ rfl, List.rdropWhile_concat_pos _ _ _ rfl,
        ih fun t ht => h t (List.mem_append_left _ ht)]
    · have hc : ¬ (c == '/') = true := fun hslash => by
        have hnone := (h (s.concat c) (by simp)).2 c (by simp)
        rw [isSlash, hslash] at hnone
        cases hnone
      have hshown : ¬ (s ++ [c]).isEmpty = true := by simp
      have hshift : writeSegments front ++ '/' :: (s ++ [c]) =
          (writeSegments front ++ '/' :: s) ++ [c] := by simp
      rw [List.concat_eq_append, List.rdropWhile_concat_neg _ _ _ hshown, hshift,
        List.rdropWhile_concat_neg (· == '/') _ c hc, ← hshift, writeSegments_concat]

/-- Finished segments are read back. -/
theorem readSegments_writeSegments {segments : List (List Char)} (hne : segments ≠ [])
    (h : ∀ s ∈ segments, SpecialSegment s) :
    readSegments .special (writeSegments segments) = segments := by
  cases segments with
  | nil => exact absurd rfl hne
  | cons s more =>
    rw [writeSegments_cons, readSegments]
    have hslash : isSlash .special '/' = true := rfl
    rw [if_pos hslash, splitOn_intercalate_pieces hslash hne fun t ht => (h t ht).2,
      normalise_eq_self fun t ht => (h t ht).1]

theorem specialSegment_rdropWhile {segments : List (List Char)}
    (h : ∀ s ∈ segments, SpecialSegment s) :
    ∀ s ∈ segments.rdropWhile (·.isEmpty), SpecialSegment s :=
  fun s hs => h s ((List.rdropWhile_prefix _ _).subset hs)

/-- A base path that is read once more is the same base path. -/
theorem basePath_again {segments : List (List Char)} (h : ∀ s ∈ segments, SpecialSegment s) :
    Server.dropTrailingSlashes (writeSegments (readSegments .special
        (Server.dropTrailingSlashes (writeSegments segments)))) =
      Server.dropTrailingSlashes (writeSegments segments) := by
  have hkept := specialSegment_rdropWhile h
  rw [dropTrailingSlashes_writeSegments h]
  by_cases hnil : segments.rdropWhile (·.isEmpty) = []
  · rw [hnil]
    rfl
  · rw [readSegments_writeSegments hnil hkept, dropTrailingSlashes_writeSegments hkept,
      List.rdropWhile_idempotent]

/-- A base path is empty or begins with a slash, and there is nothing in it to encode. -/
theorem basePath_shape {segments : List (List Char)} (h : ∀ s ∈ segments, SpecialSegment s) :
    (Server.dropTrailingSlashes (writeSegments segments) = [] ∨
      ∃ r, Server.dropTrailingSlashes (writeSegments segments) = '/' :: r) ∧
    ∀ c ∈ Server.dropTrailingSlashes (writeSegments segments), pathSet c = false := by
  have hkept := specialSegment_rdropWhile h
  rw [dropTrailingSlashes_writeSegments h]
  refine ⟨?_, fun c hc => ?_⟩
  · cases segments.rdropWhile (·.isEmpty) with
    | nil => exact .inl rfl
    | cons s more => exact .inr ⟨_, writeSegments_cons s more⟩
  · obtain ⟨s, hs, hc⟩ := List.mem_flatMap.1 hc
    rcases List.mem_cons.1 hc with rfl | hc
    · decide
    · exact (hkept s hs).1.2.2 c hc

end Failover.Url
