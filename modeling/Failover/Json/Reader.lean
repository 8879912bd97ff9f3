import Failover.Json.Number
import Failover.Text.Numeral

/-!
# Reading JSON

`Value.parse` reads a whole text. Nesting is bounded: arrays and objects may lie
127 deep, and the reader of values is a recursion on how much deeper they may
go, so that no input can exhaust the machine's stack. Of two fields with one name
the later one counts.

A fault is reported at the first place where the text cannot be continued to a
JSON text; which fault it is depends on what could have come there.
-/

namespace Failover.Json

open Text

/-! ## Strings -/

/-- How many bytes the next four characters have. -/
def bytesAhead (cs : List Char) : Nat :=
  (cs.take 4).foldl (fun n c => n + c.utf8Size) 0

/-- The four digits of an escaped UTF-16 unit. -/
def readHex : Reader Nat := fun c =>
  match hc : c.rest with
  | w :: x :: y :: z :: r =>
    match hexValue? w, hexValue? x, hexValue? y, hexValue? z with
    | some w, some x, some y, some z =>
      .ok ⟨((w * 16 + x) * 16 + y) * 16 + z, ⟨r, c.offset + 4⟩, by simp [hc]; omega⟩
    | _, _, _, _ => .error ⟨.escape, c.offset + 4⟩
  | cs =>
    if 4 ≤ bytesAhead cs then .error ⟨.escape, c.offset + 4⟩
    else .error ⟨.endInString, c.offset + bytesAhead cs⟩

/-- The next character if it is the one given; else a fault behind it. -/
def expectAfterSurrogate (wanted : Char) : Reader Unit := fun c =>
  match hc : c.rest with
  | [] => c.fail .endInString
  | ch :: r =>
    if ch = wanted then .ok ⟨(), ⟨r, c.offset + 1⟩, Cursor.length_of_rest hc⟩
    else .error ⟨.hexEscapeEnd, c.offset + 1⟩

/-- An escaped character, the cursor standing behind `\u`. A high surrogate needs
a low one right behind it; a low one alone is refused. -/
def readUnicode : Reader Char := fun c => do
  let high ← readHex c
  if 0xDC00 ≤ high.value ∧ high.value ≤ 0xDFFF then high.next.fail .loneSurrogate
  else if high.value < 0xD800 ∨ 0xDBFF < high.value then
    return high.map Char.ofNat
  else
    let slash ← expectAfterSurrogate '\\' high.next
    let letter ← expectAfterSurrogate 'u' slash.next
    let low ← readHex letter.next
    if low.value < 0xDC00 ∨ 0xDFFF < low.value then low.next.fail .loneSurrogate
    else
      return ⟨Char.ofNat (0x10000 + (high.value - 0xD800) * 0x400 + (low.value - 0xDC00)), low.next,
        by have := high.shorter; have := slash.shorter; have := letter.shorter
           have := low.shorter; omega⟩

/-- The character that a one-letter escape stands for. -/
def shortEscape? : Char → Option Char
  | '"' => some '"'
  | '\\' => some '\\'
  | '/' => some '/'
  | 'b' => some '\x08'
  | 'f' => some '\x0c'
  | 'n' => some '\n'
  | 'r' => some '\r'
  | 't' => some '\t'
  | _ => none

/-- An escape, the cursor standing behind its backslash. -/
def readEscape : Reader Char := fun c =>
  match hc : c.rest with
  | [] => c.fail .endInString
  | ch :: r =>
    if ch = 'u' then
      (readUnicode ⟨r, c.offset + 1⟩).map (·.behind hc)
    else
      match shortEscape? ch with
      | some e => .ok ⟨e, ⟨r, c.offset + 1⟩, Cursor.length_of_rest hc⟩
      | none => .error ⟨.escape, c.offset + 1⟩

/-- The characters up to the closing quote, which is taken too. -/
def readStringBody : Reader (List Char) := fun c =>
  match hc : c.rest with
  | [] => c.fail .endInString
  | ch :: r =>
    if ch = '"' then .ok ⟨[], ⟨r, c.offset + 1⟩, Cursor.length_of_rest hc⟩
    else if ch = '\\' then
      match readEscape ⟨r, c.offset + 1⟩ with
      | .error e => .error e
      | .ok escape =>
        have h := escape.shorter
        (readStringBody escape.next).map fun body =>
          ⟨escape.value :: body.value, body.next, by
            have := body.shorter; simp only [hc, List.length_cons] at h ⊢; omega⟩
    else if ch.toNat < 0x20 then .error ⟨.controlCharacter, c.offset + 1⟩
    else
      (readStringBody (c.step ch r)).map fun body =>
        ⟨ch :: body.value, body.next, by
          have := body.shorter; simp only [Cursor.step] at this; simp only [hc, List.length_cons]
          omega⟩
termination_by c => c.rest.length
decreasing_by
  · simp only [hc, List.length_cons] at h ⊢; omega
  · simp [Cursor.step, hc]

/-- A string, the cursor standing behind its opening quote. -/
def readString : Reader String := fun c =>
  (readStringBody c).map (·.map String.ofList)

/-! ## Words -/

/-- The characters of a word, one after the other. -/
def readWord {c : Cursor} (word : List Char) (d : Cursor) (h : d.rest.length < c.rest.length) :
    Except SyntaxError (Read Unit c) :=
  match word with
  | [] => .ok ⟨(), d, h⟩
  | w :: word =>
    match hd : d.rest with
    | [] => d.fail .endInValue
    | ch :: r =>
      if ch = w then
        readWord word ⟨r, d.offset + 1⟩ (Nat.lt_trans (d.length_of_rest hd) h)
      else .error ⟨.noWord, d.offset + 1⟩

/-- What is left of a word whose first character was seen. -/
def readWordBehind {c : Cursor} {ch : Char} {r : List Char} (hc : c.rest = ch :: r)
    (letters : String) : Except SyntaxError (Read Unit c) :=
  readWord letters.toList ⟨r, c.offset + 1⟩ (c.length_of_rest hc)

/-! ## Lists and objects -/

/-- The items of a list behind its bracket or behind an item, and the closing
bracket, which is taken too. -/
def readItems {α : Type} (item : Reader α) (first : Bool) : Reader (List α) := fun c =>
  have hs := c.skipSpace_length
  match hc : c.skipSpace.rest with
  | [] => c.skipSpace.fail .endInList
  | ']' :: r => .ok ⟨[], ⟨r, c.skipSpace.offset + 1⟩, Cursor.length_of_skipSpace hc⟩
  | ch :: r =>
    if first then
      match item c.skipSpace with
      | .error e => .error e
      | .ok v =>
        have hv := v.shorter
        (readItems item false v.next).map fun more =>
          ⟨v.value :: more.value, more.next, by have := more.shorter; omega⟩
    else if ch = ',' then
      let d : Cursor := ⟨r, c.skipSpace.offset + 1⟩
      have hd := d.skipSpace_length
      match d.skipSpace.rest with
      | [] => d.skipSpace.fail .endInValue
      | ']' :: _ => d.skipSpace.failNext .trailingComma
      | _ =>
        match item d.skipSpace with
        | .error e => .error e
        | .ok v =>
          have hv := v.shorter
          have hlt : v.next.rest.length < c.rest.length := by
            simp only [hc, List.length_cons] at hs; simp only [d] at hd hv; omega
          (readItems item false v.next).map fun more =>
            ⟨v.value :: more.value, more.next, by have := more.shorter; omega⟩
    else c.skipSpace.failNext .noListEnd
termination_by c => c.rest.length
decreasing_by all_goals omega

/-- A name in front of a colon; the cursor stands before the name's quote. -/
def readName : Reader String := fun c =>
  match hc : c.rest with
  | '"' :: r =>
    match readString ⟨r, c.offset + 1⟩ with
    | .error e => .error e
    | .ok name =>
      have hn := name.shorter
      have hs := name.next.skipSpace_length
      match hd : name.next.skipSpace.rest with
      | ':' :: r' =>
        .ok ⟨name.value, ⟨r', name.next.skipSpace.offset + 1⟩, by
          simp only [hd, List.length_cons] at hs; simp only [hc, List.length_cons] at hn ⊢; omega⟩
      | [] => name.next.skipSpace.fail .endInObject
      | _ => name.next.skipSpace.failNext .noColon
  | _ => c.failNext .keyNoString

/-- A field: name, colon, value. -/
def readField {α : Type} (item : Reader α) : Reader (String × α) := fun c =>
  match readName c with
  | .error e => .error e
  | .ok name =>
    have hn := name.shorter
    (item name.next).map fun v =>
      ⟨(name.value, v.value), v.next, by have := v.shorter; omega⟩

/-- The fields of an object behind its brace or behind a field, and the closing
brace, which is taken too. -/
def readFields {α : Type} (item : Reader α) (first : Bool) : Reader (List (String × α)) := fun c =>
  have hs := c.skipSpace_length
  match hc : c.skipSpace.rest with
  | [] => c.skipSpace.fail .endInObject
  | ch :: r =>
    if ch = '\x7d' then .ok ⟨[], ⟨r, c.skipSpace.offset + 1⟩, Cursor.length_of_skipSpace hc⟩
    else if first then
      match readField item c.skipSpace with
      | .error e => .error e
      | .ok p =>
        have hp := p.shorter
        (readFields item false p.next).map fun more =>
          ⟨p.value :: more.value, more.next, by have := more.shorter; omega⟩
    else if ch = ',' then
      let d : Cursor := ⟨r, c.skipSpace.offset + 1⟩
      have hd := d.skipSpace_length
      match d.skipSpace.rest with
      | [] => d.skipSpace.fail .endInValue
      | '\x7d' :: _ => d.skipSpace.failNext .trailingComma
      | _ =>
        match readField item d.skipSpace with
        | .error e => .error e
        | .ok p =>
          have hp := p.shorter
          have hlt : p.next.rest.length < c.rest.length := by
            simp only [hc, List.length_cons] at hs; simp only [d] at hd hp; omega
          (readFields item false p.next).map fun more =>
            ⟨p.value :: more.value, more.next, by have := more.shorter; omega⟩
    else c.skipSpace.failNext .noObjectEnd
termination_by c => c.rest.length
decreasing_by all_goals omega

/-! ## Values -/

/-- A value that is not a list or an object, or an opening bracket. -/
def readScalar (c : Cursor) (ch : Char) (r : List Char) (hc : c.rest = ch :: r) :
    Except SyntaxError (Read Value c) :=
  let d : Cursor := ⟨r, c.offset + 1⟩
  if ch = 'n' then (readWordBehind hc "ull").map (·.map fun _ => .null)
  else if ch = 't' then (readWordBehind hc "rue").map (·.map fun _ => .bool true)
  else if ch = 'f' then (readWordBehind hc "alse").map (·.map fun _ => .bool false)
  else if ch = '-' then (readUnsigned true d).map fun n => (n.map Value.number).behind hc
  else if ch.isDigit then (readUnsigned false c).map (·.map Value.number)
  else if ch = '"' then (readString d).map fun s => (s.map Value.string).behind hc
  else c.failNext .noValue

/-- A value, with lists and objects at most `depth` deep. -/
def readValue : Nat → Reader Value
  | 0 => fun c =>
    have hs := c.skipSpace_length
    match hc : c.skipSpace.rest with
    | [] => c.skipSpace.fail .endInValue
    | ch :: r =>
      if ch = '[' ∨ ch = '\x7b' then c.skipSpace.failNext .tooDeep
      else (readScalar c.skipSpace ch r hc).map (·.widen hs)
  | depth + 1 => fun c =>
    have hs := c.skipSpace_length
    match hc : c.skipSpace.rest with
    | [] => c.skipSpace.fail .endInValue
    | ch :: r =>
      let d : Cursor := ⟨r, c.skipSpace.offset + 1⟩
      if ch = '[' then
        (readItems (readValue depth) true d).map fun items =>
          (items.map Value.array).behindSpace hc
      else if ch = '\x7b' then
        (readFields (readValue depth) true d).map fun fields =>
          (fields.map fun ps => Value.object (Dict.ofList ps)).behindSpace hc
      else (readScalar c.skipSpace ch r hc).map (·.widen hs)

/-- How deep lists and objects may lie in each other. -/
def maxDepth : Nat := 127

/-- Nothing but white space is left. -/
def Cursor.finish (c : Cursor) : Except SyntaxError Unit :=
  if c.skipSpace.rest.isEmpty then .ok () else c.skipSpace.failNext .trailing

/-- The place of a fault in its text. -/
def SyntaxError.locate (text : List Char) (e : SyntaxError) : Error :=
  ⟨e.fault, some (.of text e.offset)⟩

namespace Value

/-- Reads a text that holds one value. -/
def parseChars (text : List Char) : Except Error Value :=
  let r : Except SyntaxError Value := do
    let v ← readValue maxDepth (.ofText text)
    v.next.finish
    return v.value
  r.mapError (·.locate text)

def parse (text : String) : Except Error Value :=
  parseChars text.toList

end Value

end Failover.Json
