import Failover.Json.Fault

/-!
# Moving through a JSON text

A cursor is the text that is left and the number of bytes behind it. Every reader
that succeeds leaves a shorter text, and says so in its type, so that lists and
objects can be read by repeating a reader without a bound on the number of items.

The place of a fault is either where the cursor stands or, when the fault is the
character that comes next, one byte further.
-/

namespace Failover.Json

/-- A place in a text, as what is left of it. -/
structure Cursor where
  rest : List Char
  offset : Nat

/-- A fault at a number of bytes from the beginning. -/
structure SyntaxError where
  fault : Fault
  offset : Nat

namespace Cursor

def ofText (text : List Char) : Cursor := ⟨text, 0⟩

/-- A fault where the cursor stands. -/
def fail {α : Type} (c : Cursor) (fault : Fault) : Except SyntaxError α :=
  .error ⟨fault, c.offset⟩

/-- A fault in the next character. -/
def failNext {α : Type} (c : Cursor) (fault : Fault) : Except SyntaxError α :=
  .error ⟨fault, if c.rest.isEmpty then c.offset else c.offset + 1⟩

/-- The cursor behind a character. -/
def step (c : Cursor) (ch : Char) (rest : List Char) : Cursor :=
  ⟨rest, c.offset + ch.utf8Size⟩

/-- The white space of JSON. -/
def isSpace (ch : Char) : Bool :=
  ch == ' ' || ch == '\n' || ch == '\t' || ch == '\r'

/-- The cursor behind any white space. -/
def skipSpace (c : Cursor) : Cursor :=
  ⟨c.rest.dropWhile isSpace, c.offset + (c.rest.takeWhile isSpace).length⟩

theorem skipSpace_length (c : Cursor) : c.skipSpace.rest.length ≤ c.rest.length :=
  List.Sublist.length_le (List.dropWhile_sublist _)

/-- Behind a character less is left than before it. -/
theorem length_of_rest {c : Cursor} {ch : Char} {r : List Char} (h : c.rest = ch :: r) :
    r.length < c.rest.length := by
  simp [h]

/-- Behind white space and a character less is left than before them. -/
theorem length_of_skipSpace {c : Cursor} {ch : Char} {r : List Char}
    (h : c.skipSpace.rest = ch :: r) : r.length < c.rest.length :=
  Nat.lt_of_lt_of_le (length_of_rest h) c.skipSpace_length

end Cursor

/-- What was read at a cursor, and the cursor behind it. -/
structure Read (α : Type) (c : Cursor) where
  value : α
  next : Cursor
  shorter : next.rest.length < c.rest.length

/-- What reads a value, taking at least one character. -/
abbrev Reader (α : Type) : Type := (c : Cursor) → Except SyntaxError (Read α c)

namespace Read

/-- The same reading, seen from a cursor before it. -/
def widen {α : Type} {c d : Cursor} (r : Read α d) (h : d.rest.length ≤ c.rest.length) :
    Read α c :=
  ⟨r.value, r.next, Nat.lt_of_lt_of_le r.shorter h⟩

/-- What is left behind it is less than at a cursor before it. -/
theorem next_lt {α : Type} {c d : Cursor} (r : Read α d) (h : d.rest.length ≤ c.rest.length) :
    r.next.rest.length < c.rest.length :=
  Nat.lt_of_lt_of_le r.shorter h

/-- The same reading, seen from the character in front of it. -/
def behind {α : Type} {c : Cursor} {ch : Char} {rest : List Char} {offset : Nat}
    (hc : c.rest = ch :: rest) (r : Read α ⟨rest, offset⟩) : Read α c :=
  r.widen (Nat.le_of_lt (Cursor.length_of_rest hc))

/-- The same reading, seen from the white space and the character in front of it. -/
def behindSpace {α : Type} {c : Cursor} {ch : Char} {rest : List Char} {offset : Nat}
    (hc : c.skipSpace.rest = ch :: rest) (r : Read α ⟨rest, offset⟩) : Read α c :=
  r.widen (Nat.le_of_lt (Cursor.length_of_skipSpace hc))

def map {α β : Type} {c : Cursor} (f : α → β) (r : Read α c) : Read β c :=
  ⟨f r.value, r.next, r.shorter⟩

end Read

end Failover.Json
