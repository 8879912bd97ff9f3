import Failover.Text.Blank

/-!
# The characters of TOML

What separates tokens, what ends a line, and what a comment may hold. Every reader
here takes what it can from the front of a text and returns what is left; `Taken`
says in its type that something was taken, so that readers can be repeated.
-/

namespace Failover.Toml

/-- What was read from the front of a text, and what is left. -/
structure Taken (α : Type) (s : List Char) where
  value : α
  rest : List Char
  shorter : rest.length < s.length

/-- What takes at least one character from the front of a text, or fails. -/
abbrev Reader (α : Type) : Type := (s : List Char) → Option (Taken α s)

namespace Taken

variable {α β : Type} {s : List Char}

def map (f : α → β) (t : Taken α s) : Taken β s := ⟨f t.value, t.rest, t.shorter⟩

/-- The same, seen from a longer text. -/
def widen {r : List Char} (t : Taken α r) (h : r.length ≤ s.length) : Taken α s :=
  ⟨t.value, t.rest, Nat.lt_of_lt_of_le t.shorter h⟩

/-- What a scanner returned, if it took something. -/
def of? : Option (α × List Char) → Option (Taken α s)
  | some (value, rest) =>
    if h : rest.length < s.length then some ⟨value, rest, h⟩ else none
  | none => none

end Taken

/-- Without the spaces and tabs in front. -/
def skipSpace (s : List Char) : List Char := s.dropWhile Text.isGap

theorem skipSpace_length (s : List Char) : (skipSpace s).length ≤ s.length :=
  List.Sublist.length_le (List.dropWhile_sublist _)

/-- Behind spaces and a character less is left than before them. -/
theorem length_of_skipSpace {s : List Char} {c : Char} {r : List Char}
    (h : skipSpace s = c :: r) : r.length < s.length := by
  have := skipSpace_length s
  rw [h, List.length_cons] at this
  exact this

/-- The character may stand in a line: a tab, or anything but a control. -/
def isLineChar (c : Char) : Bool := c == '\t' || (0x20 ≤ c.toNat && c.toNat != 0x7F)

/-- What follows a line break. -/
def afterBreak? : List Char → Option (List Char)
  | '\n' :: r => some r
  | '\r' :: '\n' :: r => some r
  | _ => none

theorem afterBreak?_length {s r : List Char} (h : afterBreak? s = some r) :
    r.length < s.length := by
  unfold afterBreak? at h
  split at h
  · cases h
    exact Nat.lt_succ_self _
  · cases h
    simp only [List.length_cons]
    omega
  · exact absurd h (by simp)

/-- What follows a comment, if there is one. -/
def skipComment : List Char → List Char
  | '#' :: r => r.dropWhile isLineChar
  | s => s

theorem skipComment_length (s : List Char) : (skipComment s).length ≤ s.length := by
  unfold skipComment
  split
  · exact Nat.le_succ_of_le (List.Sublist.length_le (List.dropWhile_sublist _))
  · exact Nat.le_refl _

/-- What follows the end of a line, at which only spaces and a comment may stand.
The text may end instead. -/
def afterLine? (s : List Char) : Option (List Char) :=
  match skipComment (skipSpace s) with
  | [] => some []
  | r => afterBreak? r

/-- Without spaces, line breaks and comments in front. A comment that no line
break ends is left. -/
def skipLines (s : List Char) : List Char :=
  match _h : afterBreak? (skipComment (skipSpace s)) with
  | some r => skipLines r
  | none => skipSpace s
termination_by s.length
decreasing_by
  have := afterBreak?_length _h
  have := skipComment_length (skipSpace s)
  have := skipSpace_length s
  omega

theorem skipLines_length (s : List Char) : (skipLines s).length ≤ s.length := by
  fun_induction skipLines s with
  | case1 s r h ih =>
    have := afterBreak?_length h
    have := skipComment_length (skipSpace s)
    have := skipSpace_length s
    omega
  | case2 s => exact skipSpace_length s

/-- Behind such lines and a character less is left than before them. -/
theorem length_of_skipLines {s : List Char} {c : Char} {r : List Char}
    (h : skipLines s = c :: r) : r.length < s.length := by
  have := skipLines_length s
  rw [h, List.length_cons] at this
  exact this

end Failover.Toml
