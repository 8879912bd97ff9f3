import Failover.Text.Blank

/-!
# Places in a YAML text

The layout of a text is part of its meaning, so a place is more than the text that
is left: it has a line, a column and a number of characters behind it. Line breaks
are those of Unicode; all but two of them are read as a plain line feed.
-/

namespace Failover.Yaml

def isBreak (c : Char) : Bool :=
  c == '\n' || c == '\r' || c == '\u0085' || c == '\u2028' || c == '\u2029'

/-- A blank, a line break or the end of the text comes next. -/
def endsWord : List Char → Bool
  | [] => true
  | c :: _ => Text.isGap c || isBreak c

/-- A line break or the end of the text comes next. -/
def endsLine : List Char → Bool
  | [] => true
  | c :: _ => isBreak c

/-- The character may stand in a text. Controls may not, but for tabs and breaks. -/
def isAllowed (c : Char) : Bool :=
  let n := c.toNat
  n == 0x09 || n == 0x0A || n == 0x0D || (0x20 ≤ n && n ≤ 0x7E) || n == 0x85 ||
  (0xA0 ≤ n && n ≤ 0xFFFD) || 0x10000 ≤ n

/-- A letter, digit, hyphen or underscore of ASCII. -/
def isWordChar (c : Char) : Bool := c.isAlphanum || c == '-' || c == '_'

/-- What a line break is read as. -/
def readBreak (c : Char) : Char :=
  if c == '\u2028' || c == '\u2029' then c else '\n'

/-- A place in a text. -/
structure Place where
  rest : List Char
  index : Nat := 0
  line : Nat := 0
  column : Nat := 0

namespace Place

def head? (p : Place) : Option Char := p.rest.head?

/-- The character comes next. -/
def at_ (p : Place) (c : Char) : Bool := p.rest.head? == some c

/-- The place so many characters further in the line. -/
def skip (p : Place) (count : Nat) : Place :=
  { p with rest := p.rest.drop count, index := p.index + count, column := p.column + count }

/-- The characters of the line that satisfy a condition, and the place behind. -/
def span (p : Place) (f : Char → Bool) : List Char × Place :=
  let taken := p.rest.takeWhile f
  (taken, p.skip taken.length)

/-- The place behind the characters of the line that satisfy a condition. -/
def skipWhile (p : Place) (f : Char → Bool) : Place := (p.span f).2

/-- The line break that comes next, if one does, and the place behind it. -/
def lineBreak? (p : Place) : Option (Char × Place) :=
  match p.rest with
  | '\r' :: '\n' :: r => some ('\n', { rest := r, index := p.index + 2, line := p.line + 1 })
  | c :: r =>
    if isBreak c then some (readBreak c, { rest := r, index := p.index + 1, line := p.line + 1 })
    else none
  | [] => none

/-- The place behind the comment that comes next, if one does. -/
def skipComment (p : Place) : Place :=
  if p.at_ '#' then p.skipWhile (!isBreak ·) else p

/-- A mark of three characters that separates documents stands here. -/
def atDocumentMark (p : Place) : Bool :=
  p.column == 0 && ("---".toList.isPrefixOf p.rest || "...".toList.isPrefixOf p.rest) &&
    endsWord (p.rest.drop 3)

end Place

/-! ## Gaps -/

/-- The white space between two words of a scalar. -/
structure Gap where
  /-- The blanks before the first line break. -/
  blanks : List Char
  /-- The line breaks. -/
  breaks : List Char
  /-- A tab stands where a line is indented. -/
  isTabbed : Bool
  /-- The place behind the gap. -/
  place : Place

/-- The gap at a place. Lines have to be indented as far as `indent`; `broken` says
that a line break came before. -/
def readGap (indent : Nat) (broken : Bool) (index line column : Nat) : List Char → Gap
  | [] => ⟨[], [], false, ⟨[], index, line, column⟩⟩
  | '\r' :: '\n' :: r =>
    let g := readGap indent true (index + 2) (line + 1) 0 r
    { g with blanks := [], breaks := '\n' :: g.breaks }
  | c :: r =>
    if Text.isGap c then
      let g := readGap indent broken (index + 1) line (column + 1) r
      if broken then { g with isTabbed := g.isTabbed || (c == '\t' && column < indent) }
      else if g.breaks.isEmpty then { g with blanks := c :: g.blanks }
      else g
    else if isBreak c then
      let g := readGap indent true (index + 1) (line + 1) 0 r
      { g with blanks := [], breaks := readBreak c :: g.breaks }
    else ⟨[], [], false, ⟨c :: r, index, line, column⟩⟩

/-- The gap at a place. -/
def Place.gap (p : Place) (indent : Nat) (broken : Bool) : Gap :=
  readGap indent broken p.index p.line p.column p.rest

/-- What a gap is read as: blanks as they are, a single line break as a space, and
of several line breaks all but the first. -/
def Gap.fold (g : Gap) : List Char :=
  match g.breaks with
  | [] => g.blanks
  | '\n' :: [] => [' ']
  | '\n' :: more => more
  | breaks => breaks

end Failover.Yaml
