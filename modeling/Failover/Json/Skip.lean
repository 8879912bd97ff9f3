import Failover.Json.Reader

/-!
# Passing over a value

A field that nobody asked for is passed over. Only its outline is looked at: a
number needs no place among the doubles, an escaped surrogate needs no partner,
and values may lie in each other as deep as the text is long, since nothing is
kept of them.
-/

namespace Failover.Json

/-! ## Scalars -/

/-- Digits that must follow; `c` stands before the first. -/
def skipDigits : Reader Unit := fun c =>
  match hc : c.rest with
  | ch :: _ =>
    if h : ch.isDigit then
      .ok ⟨(), c.digits.2, c.digits_shorter hc h⟩
    else c.fail .number
  | [] => c.fail .number

/-- An exponent, if there is one. The sign is taken with the `e`. -/
def skipExponent {c : Cursor} (d : Cursor) (h : d.rest.length < c.rest.length) :
    Except SyntaxError (Read Unit c) :=
  match hd : d.rest with
  | e :: r =>
    if e == 'e' || e == 'E' then
      let signed := r.head?.any fun sign => sign == '+' || sign == '-'
      let unsigned : Cursor := if signed then ⟨r.drop 1, d.offset + 2⟩ else ⟨r, d.offset + 1⟩
      have hu : unsigned.rest.length ≤ c.rest.length := by
        simp only [hd, List.length_cons] at h
        simp only [unsigned]
        split <;> simp <;> omega
      match skipDigits unsigned with
      | .ok n => .ok (n.widen hu)
      | .error _ => unsigned.failNext .number
    else .ok ⟨(), d, h⟩
  | [] => .ok ⟨(), d, h⟩

/-- A number without its sign. -/
def skipUnsigned : Reader Unit := fun c =>
  match skipDigits c with
  | .error _ => c.failNext .number
  | .ok n =>
    if c.rest.head? = some '0' ∧ c.digits.1.length ≠ 1 then .error ⟨.number, c.offset + 2⟩
    else
      match hd : n.next.rest with
      | '.' :: r =>
        match skipDigits ⟨r, n.next.offset + 1⟩ with
        | .error _ => Cursor.failNext ⟨r, n.next.offset + 1⟩ .number
        | .ok m =>
          skipExponent m.next (by
            have := m.shorter; have := n.shorter
            simp only [hd, List.length_cons] at *; omega)
      | _ => skipExponent n.next n.shorter

/-- A string up to its closing quote, the cursor standing behind the opening one. -/
def skipString : Reader Unit := fun c =>
  match hc : c.rest with
  | [] => c.fail .endInString
  | '"' :: r => .ok ⟨(), ⟨r, c.offset + 1⟩, Cursor.length_of_rest hc⟩
  | '\\' :: 'u' :: r =>
    match readHex ⟨r, c.offset + 2⟩ with
    | .error e => .error e
    | .ok unit =>
      have hu := unit.shorter
      (skipString unit.next).map (·.widen (by simp only [hc, List.length_cons] at *; omega))
  | '\\' :: ch :: r =>
    if (shortEscape? ch).isSome then
      (skipString ⟨r, c.offset + 2⟩).map (·.widen (by simp only [hc, List.length_cons]; omega))
    else .error ⟨.escape, c.offset + 1 + ch.utf8Size⟩
  | ['\\'] => .error ⟨.endInString, c.offset + 1⟩
  | ch :: r =>
    if ch.toNat < 0x20 then c.fail .controlCharacter
    else
      (skipString (c.step ch r)).map (·.widen (by
        simp only [hc, Cursor.step, List.length_cons]; omega))
termination_by c => c.rest.length
decreasing_by
  · simp only [hc, List.length_cons] at *; omega
  · simp only [hc, List.length_cons]; omega
  · simp [hc, Cursor.step]

/-! ## Values -/

/-- What may stand before an item: nothing, an opening bracket or a comma. -/
inductive Before where
  | bracket
  | item
  deriving DecidableEq

/-- The cursor before the next item: behind the comma, if there has to be one. -/
def itemStart (before : Before) (c : Cursor) (r : List Char) : Cursor :=
  if before = .item then ⟨r, c.skipSpace.offset + 1⟩ else c.skipSpace

theorem itemStart_length {c : Cursor} {ch : Char} {r : List Char} (before : Before)
    (hc : c.skipSpace.rest = ch :: r) : (itemStart before c r).rest.length ≤ c.rest.length := by
  unfold itemStart
  split
  · exact Nat.le_of_lt (c.length_of_skipSpace hc)
  · exact c.skipSpace_length

/-- The items of a list behind its bracket or behind an item. -/
def skipItems (item : Reader Unit) (before : Before) : Reader Unit := fun c =>
  match hc : c.skipSpace.rest with
  | [] => c.skipSpace.fail .endInList
  | ch :: r =>
    if ch = ']' then .ok ⟨(), ⟨r, c.skipSpace.offset + 1⟩, c.length_of_skipSpace hc⟩
    else if before = .item ∧ ch ≠ ',' then c.skipSpace.failNext .noListEnd
    else
      match item (itemStart before c r) with
      | .error e => .error e
      | .ok v =>
        have hv : v.next.rest.length < c.rest.length := v.next_lt (itemStart_length before hc)
        (skipItems item .item v.next).map (·.widen (Nat.le_of_lt hv))
termination_by c => c.rest.length

/-- A name and its colon. -/
def skipName : Reader Unit := fun c =>
  have hs := c.skipSpace_length
  match hc : c.skipSpace.rest with
  | [] => c.skipSpace.fail .endInObject
  | '"' :: r =>
    match skipString ⟨r, c.skipSpace.offset + 1⟩ with
    | .error e => .error e
    | .ok name =>
      have hn := name.shorter
      have ht := name.next.skipSpace_length
      match hd : name.next.skipSpace.rest with
      | ':' :: r' => .ok ⟨(), ⟨r', name.next.skipSpace.offset + 1⟩, by
          simp only [hd, hc, List.length_cons] at *; omega⟩
      | [] => name.next.skipSpace.fail .endInObject
      | _ => name.next.skipSpace.failNext .noColon
  | _ => c.skipSpace.failNext .keyNoString

/-- The fields of an object behind its brace or behind a field. -/
def skipFields (item : Reader Unit) (before : Before) : Reader Unit := fun c =>
  match hc : c.skipSpace.rest with
  | [] => c.skipSpace.fail .endInObject
  | ch :: r =>
    if ch = '\x7d' then .ok ⟨(), ⟨r, c.skipSpace.offset + 1⟩, c.length_of_skipSpace hc⟩
    else if before = .item ∧ ch ≠ ',' then c.skipSpace.failNext .noObjectEnd
    else
      match skipName (itemStart before c r) with
      | .error e => .error e
      | .ok name =>
        have hn : name.next.rest.length < c.rest.length := name.next_lt (itemStart_length before hc)
        match item name.next with
        | .error e => .error e
        | .ok v =>
          have hv : v.next.rest.length < c.rest.length := Nat.lt_trans v.shorter hn
          (skipFields item .item v.next).map (·.widen (Nat.le_of_lt hv))
termination_by c => c.rest.length

/-- A scalar, the cursor standing before it. -/
def skipScalar (c : Cursor) (ch : Char) (r : List Char) (hc : c.rest = ch :: r) :
    Except SyntaxError (Read Unit c) :=
  let d : Cursor := ⟨r, c.offset + 1⟩
  if ch = 'n' then readWordBehind hc "ull"
  else if ch = 't' then readWordBehind hc "rue"
  else if ch = 'f' then readWordBehind hc "alse"
  else if ch = '-' then (skipUnsigned d).map (·.behind hc)
  else if ch.isDigit then skipUnsigned c
  else if ch = '"' then (skipString d).map (·.behind hc)
  else c.failNext .noValue

/-- A value with lists and objects at most `depth` deep. -/
def skipNested (depth : Nat) : Reader Unit := fun c =>
  have hs := c.skipSpace_length
  match hc : c.skipSpace.rest with
  | [] => c.skipSpace.fail .endInValue
  | ch :: r =>
    let d : Cursor := ⟨r, c.skipSpace.offset + 1⟩
    match depth with
    | 0 => (skipScalar c.skipSpace ch r hc).map (·.widen hs)
    | depth + 1 =>
      if ch = '[' then (skipItems (skipNested depth) .bracket d).map (·.behindSpace hc)
      else if ch = '\x7b' then (skipFields (skipNested depth) .bracket d).map (·.behindSpace hc)
      else (skipScalar c.skipSpace ch r hc).map (·.widen hs)

/-- A value of any depth: brackets lie no deeper than there are characters. -/
def skipValue : Reader Unit := fun c => skipNested c.rest.length c

end Failover.Json
