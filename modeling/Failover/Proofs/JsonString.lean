import Mathlib.Tactic.SplitIfs
import Failover.Json.Expect

/-!
# Strings in JSON that are read again

A string is written between quotes with an escape for each character that cannot stand there
itself, and is read as the string it was written for (`readText_write`). Each kind of escape is
one case: the two that guard the notation, the five controls with a letter of their own, and
the other controls, of which only the two lower digits of the four are ever needed.
-/

namespace Failover.Json

open Text

/-- The reader takes a value from the cursor and leaves this much of the text. -/
def Reader.Takes {α : Type} (r : Reader α) (c : Cursor) (value : α) (rest : List Char) : Prop :=
  ∃ x : Read α c, r c = .ok x ∧ x.value = value ∧ x.next.rest = rest

variable {ch e : Char} {r rest cs : List Char} (offset : Nat)

/-! ## Escapes -/

theorem readEscape_short (hu : ch ≠ 'u') (h : shortEscape? ch = some e) :
    Reader.Takes readEscape ⟨ch :: r, offset⟩ e r := by
  unfold Reader.Takes readEscape
  dsimp only
  rw [if_neg hu]
  split
  next d hd =>
    rw [h] at hd
    cases hd
    exact ⟨_, rfl, rfl, rfl⟩
  next hnone =>
    rw [h] at hnone
    cases hnone

theorem readHex_control {n : Nat} (h : n < 0x20) :
    Reader.Takes readHex ⟨'0' :: '0' :: hexDigit (n / 16) :: hexDigit (n % 16) :: r, offset⟩ n
      r := by
  have hzero : hexValue? '0' = some 0 := rfl
  have hhigh := hexValue?_hexDigit (n / 16) (by omega)
  have hlow := hexValue?_hexDigit (n % 16) (Nat.mod_lt n (by decide))
  have hsum : ((0 * 16 + 0) * 16 + n / 16) * 16 + n % 16 = n := by omega
  unfold Reader.Takes readHex
  dsimp only
  rw [hzero, hhigh, hlow]
  exact ⟨_, rfl, hsum, rfl⟩

/-- A control is written by the two lower digits of its code. -/
theorem readEscape_control {n : Nat} (h : n < 0x20) :
    Reader.Takes readEscape ⟨'u' :: '0' :: '0' :: hexDigit (n / 16) :: hexDigit (n % 16) :: r,
      offset⟩ (Char.ofNat n) r := by
  obtain ⟨x, hx, hvalue, hnext⟩ := readHex_control (r := r) (offset + 1) h
  have hlow : ¬ (0xDC00 ≤ x.value ∧ x.value ≤ 0xDFFF) := by omega
  have hhigh : x.value < 0xD800 ∨ 0xDBFF < x.value := by omega
  unfold Reader.Takes readEscape readUnicode
  dsimp only [bind, Except.bind, pure, Except.pure]
  rw [if_pos rfl, hx]
  dsimp only
  rw [if_neg hlow, if_pos hhigh]
  exact ⟨_, rfl, congrArg Char.ofNat hvalue, hnext⟩

/-! ## Strings -/

theorem readStringBody_quote : Reader.Takes readStringBody ⟨'"' :: rest, offset⟩ [] rest := by
  unfold Reader.Takes
  rw [readStringBody]
  exact ⟨_, rfl, rfl, rfl⟩

theorem readStringBody_plain (hquote : ch ≠ '"') (hbackslash : ch ≠ '\\')
    (hcontrol : 0x20 ≤ ch.toNat)
    (h : ∀ offset, Reader.Takes readStringBody ⟨r, offset⟩ cs rest) :
    Reader.Takes readStringBody ⟨ch :: r, offset⟩ (ch :: cs) rest := by
  obtain ⟨x, hx, hvalue, hnext⟩ := h (offset + ch.utf8Size)
  have hstep : readStringBody (Cursor.step ⟨ch :: r, offset⟩ ch r) = .ok x := hx
  unfold Reader.Takes
  rw [readStringBody]
  dsimp only
  rw [if_neg hquote, if_neg hbackslash, if_neg (by omega : ¬ ch.toNat < 0x20), hstep]
  exact ⟨_, rfl, congrArg (ch :: ·) hvalue, hnext⟩

theorem readStringBody_escape {mid : List Char}
    (hescape : ∀ offset, Reader.Takes readEscape ⟨r, offset⟩ e mid)
    (h : ∀ offset, Reader.Takes readStringBody ⟨mid, offset⟩ cs rest) :
    Reader.Takes readStringBody ⟨'\\' :: r, offset⟩ (e :: cs) rest := by
  obtain ⟨⟨_, ⟨_, offset'⟩, _⟩, hx, rfl, rfl⟩ := hescape (offset + 1)
  obtain ⟨y, hy, hbody, hend⟩ := h offset'
  unfold Reader.Takes
  rw [readStringBody]
  dsimp only
  rw [if_neg (by decide), if_pos rfl, hx]
  dsimp only
  rw [hy]
  exact ⟨_, rfl, congrArg (_ :: ·) hbody, hend⟩

/-- The three ways in which a character stands in a string. -/
theorem escapeChar_cases (c : Char) :
    (c ≠ '"' ∧ c ≠ '\\' ∧ 0x20 ≤ c.toNat ∧ escapeChar c = [c]) ∨
    (∃ letter, letter ≠ 'u' ∧ shortEscape? letter = some c ∧ escapeChar c = ['\\', letter]) ∨
    (c.toNat < 0x20 ∧ escapeChar c =
      ['\\', 'u', '0', '0', hexDigit (c.toNat / 16), hexDigit (c.toNat % 16)]) := by
  unfold escapeChar
  split_ifs with hquote hbackslash hge hb hf hn hr ht
  · exact .inr (.inl ⟨'"', by decide, by rw [beq_iff_eq.1 hquote]; rfl, rfl⟩)
  · exact .inr (.inl ⟨'\\', by decide, by rw [beq_iff_eq.1 hbackslash]; rfl, rfl⟩)
  · exact .inl ⟨by simpa using hquote, by simpa using hbackslash, hge, rfl⟩
  · exact .inr (.inl ⟨'b', by decide, by rw [beq_iff_eq.1 hb]; rfl, rfl⟩)
  · exact .inr (.inl ⟨'f', by decide, by rw [beq_iff_eq.1 hf]; rfl, rfl⟩)
  · exact .inr (.inl ⟨'n', by decide, by rw [beq_iff_eq.1 hn]; rfl, rfl⟩)
  · exact .inr (.inl ⟨'r', by decide, by rw [beq_iff_eq.1 hr]; rfl, rfl⟩)
  · exact .inr (.inl ⟨'t', by decide, by rw [beq_iff_eq.1 ht]; rfl, rfl⟩)
  · exact .inr (.inr ⟨by omega, rfl⟩)

/-- One character of a string is taken, escaped or not. -/
theorem readStringBody_char (c : Char)
    (h : ∀ offset, Reader.Takes readStringBody ⟨r, offset⟩ cs rest) :
    Reader.Takes readStringBody ⟨escapeChar c ++ r, offset⟩ (c :: cs) rest := by
  obtain ⟨hquote, hbackslash, hge, heq⟩ | ⟨letter, hu, hletter, heq⟩ | ⟨hlt, heq⟩ :=
    escapeChar_cases c <;> rw [heq]
  · exact readStringBody_plain offset hquote hbackslash hge h
  · exact readStringBody_escape offset (fun offset => readEscape_short offset hu hletter) h
  · have hescape := fun offset => readEscape_control (r := r) offset hlt
    rw [Char.ofNat_toNat] at hescape
    exact readStringBody_escape offset hescape h

/-- A string is taken up to its quote. -/
theorem readStringBody_write (cs rest : List Char) (offset : Nat) :
    Reader.Takes readStringBody ⟨cs.flatMap escapeChar ++ '"' :: rest, offset⟩ cs rest := by
  induction cs generalizing offset with
  | nil => exact readStringBody_quote offset
  | cons c r ih =>
    rw [List.flatMap_cons, List.append_assoc]
    exact readStringBody_char offset c ih

theorem writeString_append (s : String) (rest : List Char) :
    writeString s ++ rest = '"' :: (s.toList.flatMap escapeChar ++ '"' :: rest) := by
  simp [writeString]

/-- A string is taken with its quote, the first one having been seen. -/
theorem readString_write (s : String) (rest : List Char) (offset : Nat) :
    Reader.Takes readString ⟨s.toList.flatMap escapeChar ++ '"' :: rest, offset⟩ s rest := by
  obtain ⟨x, hx, hvalue, hnext⟩ := readStringBody_write s.toList rest offset
  unfold Reader.Takes readString
  rw [hx]
  refine ⟨_, rfl, ?_, hnext⟩
  show String.ofList x.value = s
  rw [hvalue, String.ofList_toList]

theorem readText_quote (expected : String) (body : List Char) (offset : Nat) :
    readText expected ⟨'"' :: body, offset⟩ =
      (readString ⟨body, offset + 1⟩).map fun y =>
        (y.behindSpace rfl : Read String ⟨'"' :: body, offset⟩) :=
  rfl

theorem readText_write (expected s : String) (rest : List Char) (offset : Nat) :
    Reader.Takes (readText expected) ⟨writeString s ++ rest, offset⟩ s rest := by
  obtain ⟨x, hx, hvalue, hnext⟩ := readString_write s rest (offset + 1)
  rw [writeString_append]
  unfold Reader.Takes
  rw [readText_quote, hx]
  exact ⟨_, rfl, hvalue, hnext⟩

/-- A text is finished where nothing of it is left. -/
theorem Cursor.finish_of_rest {c : Cursor} (h : c.rest = []) : c.finish = .ok () := by
  unfold Cursor.finish Cursor.skipSpace
  rw [h]
  rfl

/-- **A string is read back from its JSON.** -/
theorem run_readText (expected s : String) :
    (readText expected).run (Value.string s).compact = .ok s := by
  have h := readText_write expected s [] 0
  rw [List.append_nil] at h
  obtain ⟨x, hx, hvalue, hnext⟩ := h
  have htext : (Value.string s).compact.toList = writeString s := String.toList_ofList
  unfold Reader.run Cursor.ofText
  rw [htext]
  dsimp only [bind, Except.bind, pure, Except.pure]
  rw [hx]
  dsimp only
  rw [Cursor.finish_of_rest hnext]
  exact congrArg Except.ok hvalue

end Failover.Json
