import Failover.Text.Numeral
import Failover.Toml.Text

/-!
# Strings

There are four kinds: with escapes or without, on one line or on several. A string
on several lines is set between three quotes; a line break right behind the opening
ones does not count, and one or two quotes may stand in it, at its end too. In one
with escapes a backslash at the end of a line takes away the break and the white
space behind it.
-/

namespace Failover.Toml

/-- The value of so many hexadecimal digits. -/
def hexNumber? (count : Nat) (s : List Char) : Option (Nat × List Char) :=
  let digits := s.take count
  if digits.length = count then (Text.numeral? 16 digits).map (·, s.drop count) else none

/-- The character of a code point. -/
def scalar? (n : Nat) : Option Char :=
  if n.isValidChar then some (Char.ofNat n) else none

/-- An escape behind its backslash: the character, and what is left. -/
def escape? : List Char → Option (Char × List Char)
  | 'b' :: r => some ('\x08', r)
  | 'f' :: r => some ('\x0c', r)
  | 'n' :: r => some ('\n', r)
  | 'r' :: r => some ('\r', r)
  | 't' :: r => some ('\t', r)
  | '"' :: r => some ('"', r)
  | '\\' :: r => some ('\\', r)
  | 'u' :: r => (hexNumber? 4 r).bind fun (n, r) => (scalar? n).map (·, r)
  | 'U' :: r => (hexNumber? 8 r).bind fun (n, r) => (scalar? n).map (·, r)
  | _ => none

/-- A string of one line behind its quote. Escapes are read if `escapes` says so. -/
def readLine (escapes : Bool) (quote : Char) (s : List Char) : Option (Taken (List Char) s) :=
  match _hs : s with
  | [] => none
  | c :: r =>
    if c = quote then some ⟨[], r, Nat.lt_succ_self _⟩
    else if escapes && c == '\\' then
      match escape? r with
      | none => none
      | some (e, rest) =>
        if h : rest.length ≤ r.length then
          (readLine escapes quote rest).map fun t =>
            (t.map (e :: ·)).widen (Nat.le_succ_of_le h)
        else none
    else if isLineChar c then
      (readLine escapes quote r).map fun t => (t.map (c :: ·)).widen (Nat.le_succ _)
    else none
termination_by s.length
decreasing_by
  · subst _hs; exact Nat.lt_succ_of_le h
  · subst _hs; exact Nat.lt_succ_self _

/-- White space and line breaks. -/
def skipBlankLines (s : List Char) : List Char :=
  match s with
  | [] => []
  | c :: r =>
    if Text.isGap c || c == '\n' then skipBlankLines r
    else if c == '\r' && r.head? == some '\n' then skipBlankLines r
    else c :: r

/-- What follows a backslash that ends its line: the next character that is not
white space. -/
def afterFold? (s : List Char) : Option (List Char) :=
  (afterBreak? (skipSpace s)).map skipBlankLines

/-- A string of several lines behind its three quotes. -/
def readLines (escapes : Bool) (quote : Char) (s : List Char) : Option (Taken (List Char) s) :=
  match hs : s with
  | [] => none
  | c :: r =>
    let go (before rest : List Char) : Option (Taken (List Char) (c :: r)) :=
      if h : rest.length ≤ r.length then
        (readLines escapes quote rest).map fun t =>
          (t.map (before ++ ·)).widen (Nat.le_succ_of_le h)
      else none
    if c = quote then
      let count := (s.takeWhile (· == quote)).length
      if count < 3 then go [c] r
      else
        let inside := min (count - 3) 2
        if h : inside + 3 ≤ (c :: r).length then
          some ⟨List.replicate inside quote, (c :: r).drop (inside + 3), by
            simp only [List.length_drop, List.length_cons] at *; omega⟩
        else none
    else if escapes && c == '\\' then
      match afterFold? r with
      | some rest => go [] rest
      | none => (escape? r).bind fun (e, rest) => go [e] rest
    else
      match afterBreak? (c :: r) with
      | some rest => go ['\n'] rest
      | none => if isLineChar c then go [c] r else none
termination_by s.length
decreasing_by subst hs; simp only [List.length_cons]; omega

/-- The string of several lines without a line break right behind its quotes. -/
def readBlock (escapes : Bool) (quote : Char) (s : List Char) : Option (Taken (List Char) s) :=
  match h : afterBreak? s with
  | some r => (readLines escapes quote r).map (·.widen (Nat.le_of_lt (afterBreak?_length h)))
  | none => readLines escapes quote s

/-- A string of any kind. -/
def readString : Reader String := fun s =>
  let result : Option (Taken (List Char) s) :=
    match s with
    | '"' :: '"' :: '"' :: r => (readBlock true '"' r).map (·.widen (by simp; omega))
    | '"' :: r => (readLine true '"' r).map (·.widen (by simp))
    | '\'' :: '\'' :: '\'' :: r => (readBlock false '\'' r).map (·.widen (by simp; omega))
    | '\'' :: r => (readLine false '\'' r).map (·.widen (by simp))
    | _ => none
  result.map (·.map String.ofList)

/-- A string that may be a key: one of a single line. -/
def readKeyString : Reader String := fun s =>
  let result : Option (Taken (List Char) s) :=
    match s with
    | '"' :: r => (readLine true '"' r).map (·.widen (by simp))
    | '\'' :: r => (readLine false '\'' r).map (·.widen (by simp))
    | _ => none
  result.map (·.map String.ofList)

end Failover.Toml
