import Failover.Text.Numeral
import Failover.Yaml.Place

/-!
# Scalars

A scalar is written plainly, between quotes, or as a block of indented lines. Line
breaks inside the first two are folded into spaces, in blocks they are kept or
folded as the block says.
-/

namespace Failover.Yaml

/-- How a scalar was written, as far as it matters for what it means. -/
inductive Style where
  | plain
  | literal
  | other
  deriving DecidableEq, Repr

/-! ## Between quotes -/

/-- The character that an escape of one letter stands for. -/
def shortEscape? : Char → Option Char
  | '0' => some '\x00'
  | 'a' => some '\x07'
  | 'b' => some '\x08'
  | 't' => some '\t'
  | '\t' => some '\t'
  | 'n' => some '\n'
  | 'v' => some '\x0b'
  | 'f' => some '\x0c'
  | 'r' => some '\r'
  | 'e' => some '\x1b'
  | ' ' => some ' '
  | '"' => some '"'
  | '/' => some '/'
  | '\\' => some '\\'
  | 'N' => some '\u0085'
  | '_' => some '\u00a0'
  | 'L' => some '\u2028'
  | 'P' => some '\u2029'
  | _ => none

/-- How many digits follow the letter of an escape by code point. -/
def escapeDigits? : Char → Option Nat
  | 'x' => some 2
  | 'u' => some 4
  | 'U' => some 8
  | _ => none

/-- The character of an escape behind its backslash, and how many characters the
escape has. -/
def escape? : List Char → Option (Char × Nat)
  | c :: r =>
    match shortEscape? c with
    | some e => some (e, 1)
    | none => do
      let count ← escapeDigits? c
      let digits := r.take count
      let n ← Text.numeral? 16 digits
      if digits.length = count ∧ n.isValidChar then some (Char.ofNat n, count + 1) else none
  | [] => none

/-- How a word between quotes ends. -/
inductive WordEnd where
  | quote
  | gap
  /-- A backslash in front of a line break. -/
  | escapedBreak
  deriving DecidableEq

/-- A word between quotes, up to the quote, a gap or an escaped line break. -/
def readQuotedWord (isSingle : Bool) : (length : Nat) → Place → Option (List Char × WordEnd × Place)
  | 0, p => some ([], .gap, p)
  | length + 1, p =>
    match p.rest with
    | [] => some ([], .gap, p)
    | c :: r =>
      let more (cs : List Char) (count : Nat) :=
        (readQuotedWord isSingle length (p.skip count)).map fun (word, stop, p) =>
          (cs ++ word, stop, p)
      if Text.isGap c || isBreak c then some ([], .gap, p)
      else if isSingle && c == '\'' then
        if r.head? == some '\'' then more [c] 2 else some ([], .quote, p)
      else if !isSingle && c == '"' then some ([], .quote, p)
      else if !isSingle && c == '\\' then
        match (p.skip 1).lineBreak? with
        | some (_, p) => some ([], .escapedBreak, p)
        | none => (escape? r).bind fun (e, count) => more [e] (count + 1)
      else more [c] 1

/-- The words and gaps between quotes, and the place behind the closing one. -/
def readQuotedWords (isSingle : Bool) : (words : Nat) → Place → Option (List Char × Place)
  | 0, _ => none
  | words + 1, p =>
    if p.atDocumentMark || p.rest.isEmpty then none
    else
      (readQuotedWord isSingle p.rest.length p).bind fun (word, stop, p) =>
        let closing := if isSingle then '\'' else '"'
        if stop = .quote ∨ p.at_ closing then some (word, p.skip 1)
        else
          let broken := stop == .escapedBreak
          let g := p.gap 0 broken
          let between := if broken then g.breaks else g.fold
          (readQuotedWords isSingle words g.place).map fun (more, p) => (word ++ between ++ more, p)

/-- A scalar between quotes, from the opening one on. -/
def readQuoted? (isSingle : Bool) (p : Place) : Option (List Char × Place) :=
  readQuotedWords isSingle p.rest.length (p.skip 1)

/-! ## Plain -/

/-- The characters that have a meaning of their own inside brackets. -/
def isFlowMark (c : Char) : Bool := [',', '[', ']', '\x7b', '\x7d'].contains c

/-- A word of a plain scalar and what is left; `none` for a colon that is in the
way. A colon ends the word if it ends a word, and inside brackets commas and
brackets do. -/
def readPlainWord (inFlow : Bool) : List Char → Option (List Char × List Char)
  | [] => some ([], [])
  | c :: r =>
    if Text.isGap c || isBreak c then some ([], c :: r)
    else if inFlow && c == ':' && r.head?.any (fun d => isFlowMark d || d == '?') then none
    else if c == ':' && endsWord r then some ([], c :: r)
    else if inFlow && isFlowMark c then some ([], c :: r)
    else (readPlainWord inFlow r).map fun (word, rest) => (c :: word, rest)

/-- The words and gaps of a plain scalar, and the place behind the gap that follows
it, with whether there is a line break in that gap. -/
def readPlainWords (inFlow : Bool) (indent : Nat) (gap : List Char) (broken : Bool) :
    (words : Nat) → Place → Option (List Char × Bool × Place)
  | 0, p => some ([], broken, p)
  | words + 1, p =>
    if p.atDocumentMark || p.at_ '#' then some ([], broken, p)
    else
      (readPlainWord inFlow p.rest).bind fun (word, rest) =>
        let p := p.skip word.length
        let text := if word.isEmpty then [] else gap ++ word
        let unbroken := if word.isEmpty then broken else false
        if rest.isEmpty || !endsWord rest then some (text, unbroken, p)
        else
          let g := p.gap indent unbroken
          let broken := unbroken || !g.breaks.isEmpty
          if g.isTabbed then none
          else if !inFlow && g.place.column < indent then some (text, broken, g.place)
          else
            (readPlainWords inFlow indent g.fold broken words g.place).map
              fun (more, broken, p) => (text ++ more, broken, p)

/-- A plain scalar, the place behind it, and whether a line break follows it. -/
def readPlain? (inFlow : Bool) (indent : Nat) (p : Place) : Option (List Char × Bool × Place) :=
  readPlainWords inFlow indent [] false (p.rest.length + 1) p

/-! ## Blocks -/

/-- What happens to the line breaks at the end of a block. -/
inductive Chomping where
  | strip
  | clip
  | keep
  deriving DecidableEq

def chomping? : Option Char → Option Chomping
  | some '+' => some .keep
  | some '-' => some .strip
  | _ => none

/-- What the head of a block says: how its end is treated, and how many columns it
is indented further. -/
structure BlockHead where
  chomping : Chomping := .clip
  indent : Option Nat := none

/-- The digit that says how far a block is indented, if there is one. -/
def readIndent? (h : BlockHead) (p : Place) : Option (BlockHead × Place) :=
  match p.head? with
  | some c =>
    if c.isDigit then
      if c == '0' then none
      else some ({ h with indent := some (c.toNat - '0'.toNat) }, p.skip 1)
    else some (h, p)
  | none => some (h, p)

/-- The head of a block behind its mark, in either order. -/
def readBlockHead? (p : Place) : Option (BlockHead × Place) :=
  match chomping? p.head? with
  | some chomping => readIndent? { chomping } (p.skip 1)
  | none =>
    (readIndent? {} p).map fun (h, p) =>
      match h.indent.isSome, chomping? p.head? with
      | true, some chomping => ({ h with chomping }, p.skip 1)
      | _, _ => (h, p)

/-- The empty lines at a place: their breaks, the largest indentation that was
seen, and the place of the first line with something in it. A tab must not stand
where a line is indented. Without a known indentation all spaces count to it. -/
def readEmptyLines (indent : Option Nat) : (lines : Nat) → Place → Option (List Char × Nat × Place)
  | 0, p => some ([], p.column, p)
  | lines + 1, p =>
    let spaces := (p.rest.takeWhile (· == ' ')).length
    let count := match indent with
      | some n => min spaces (n - p.column)
      | none => spaces
    let p := p.skip count
    if p.at_ '\t' && indent.all (p.column < ·) then none
    else
      match p.lineBreak? with
      | none => some ([], p.column, p)
      | some (b, next) =>
        (readEmptyLines indent lines next).map fun (breaks, widest, place) =>
          (b :: breaks, max p.column widest, place)

/-- Whether a line begins with a blank. -/
def beginsBlank (p : Place) : Bool := p.head?.any Text.isGap

/-- The lines of a block. `lead` is the break behind the line before, `blanks` the
breaks of the empty lines after it, and `wasBlank` says that it began with a blank.
What is left of them at the end is returned beside the text. -/
def readBlockLines (isLiteral : Bool) (indent : Nat) (lead blanks : List Char) (wasBlank : Bool) :
    (lines : Nat) → Place → Option (List Char × List Char × List Char × Place)
  | 0, p => some ([], lead, blanks, p)
  | lines + 1, p =>
    if p.column ≠ indent ∨ p.rest.isEmpty then some ([], lead, blanks, p)
    else
      let isBlankLine := beginsBlank p
      let folds := !isLiteral && lead == ['\n'] && !wasBlank && !isBlankLine
      let before := if folds then (if blanks.isEmpty then [' '] else []) else lead
      let (text, p) := p.span (!isBreak ·)
      let (lead', p) := match p.lineBreak? with
        | some (b, p) => ([b], p)
        | none => ([], p)
      (readEmptyLines (some indent) (p.rest.length + 1) p).bind fun (blanks', _, p) =>
        (readBlockLines isLiteral indent lead' blanks' isBlankLine lines p).map
          fun (more, rest) => (before ++ blanks ++ text ++ more, rest)

/-- A block from its mark on; `parent` is the indentation of what it stands in. -/
def readBlock? (isLiteral : Bool) (parent : Int) (p : Place) : Option (List Char × Place) := do
  let (head, p) ← readBlockHead? (p.skip 1)
  let p := (p.skipWhile Text.isGap).skipComment
  if !endsLine p.rest then none
  let p := (p.lineBreak?.map (·.2)).getD p
  let given := head.indent.map fun n => if 0 ≤ parent then parent.toNat + n else n
  let (blanks, widest, p) ← readEmptyLines given (p.rest.length + 1) p
  let indent := given.getD (max (max widest (parent + 1).toNat) 1)
  let (text, lead, blanks, p) ←
    readBlockLines isLiteral indent [] blanks false (p.rest.length + 1) p
  let tail := match head.chomping with
    | .strip => []
    | .clip => lead
    | .keep => lead ++ blanks
  return (text ++ tail, p)

end Failover.Yaml
