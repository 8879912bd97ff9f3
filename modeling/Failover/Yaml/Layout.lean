import Failover.Yaml.Token

/-!
# Layout

Reading tokens means keeping account of the layout. Outside of brackets the columns
in which the open blocks stand are kept, so that a line that is indented less closes
the deeper ones. And since a key is known by the colon behind it, the last token
that could be one is kept too, for each pair of brackets: the mark that it is a key
is put in front of it when the colon is found, on the same line and not too far.
-/

namespace Failover.Yaml

/-- A token that is a key if a colon follows. -/
structure KeyMark where
  /-- It must be a key, by the column in which it stands. -/
  isRequired : Bool
  /-- How many tokens stand before it. -/
  number : Nat
  index : Nat
  line : Nat
  column : Nat

/-- Key and colon are no further apart than this. -/
def keyReach : Nat := 1024

/-- How far a text has been read. -/
structure Layout where
  place : Place
  /-- The tokens so far, the last one first. -/
  tokens : List Token := []
  /-- How many tokens there are so far. -/
  count : Nat := 0
  /-- The columns of the open blocks, the innermost first. -/
  blocks : List Nat := []
  /-- A key may stand here. -/
  allowsKey : Bool := true
  /-- What could be a key, inside the innermost brackets. -/
  key : Option KeyMark := none
  /-- What could be a key, inside the brackets around. -/
  outerKeys : List (Option KeyMark) := []

namespace Layout

def inFlow (s : Layout) : Bool := !s.outerKeys.isEmpty

/-- The column of the innermost block, one to the left of all if there is none. -/
def indent (s : Layout) : Int :=
  match s.blocks with
  | [] => -1
  | n :: _ => n

def emit (s : Layout) (t : Token) : Layout :=
  { s with tokens := t :: s.tokens, count := s.count + 1 }

/-- Puts a token in front of all but the first `number` ones. -/
def insertAt (s : Layout) (number : Nat) (t : Token) : Layout :=
  let behind := s.count - number
  { s with tokens := s.tokens.take behind ++ t :: s.tokens.drop behind, count := s.count + 1 }

/-- Goes on so many characters. -/
def skip (s : Layout) (count : Nat) : Layout := { s with place := s.place.skip count }

/-- A token that is written with so many characters. -/
def take (s : Layout) (t : Token) (count : Nat) : Layout := (s.emit t).skip count

/-! ## Blocks -/

/-- Closes the blocks that stand in columns from `column` on. -/
def closeBlocks (s : Layout) (column : Nat) : Layout :=
  if s.inFlow then s
  else
    let deeper := s.blocks.takeWhile (column ≤ ·)
    let s := deeper.foldl (fun s _ => s.emit .blockEnd) s
    { s with blocks := s.blocks.drop deeper.length }

/-- Opens a block in a column if no open one stands as far to the right. It starts
behind the first `number` tokens. -/
def openBlock (s : Layout) (column number : Nat) (t : Token) : Layout :=
  if s.inFlow ∨ column ≤ s.indent then s
  else { s.insertAt number t with blocks := column :: s.blocks }

/-- Opens a block where the text is. -/
def openBlockHere (s : Layout) (t : Token) : Layout :=
  s.openBlock s.place.column s.count t

/-! ## Keys -/

/-- Gives up that a token is a key; fails if it must be one. -/
def dropMark : Option KeyMark → Option (Option KeyMark)
  | some k => if k.isRequired then none else some none
  | none => some none

def dropKey (s : Layout) : Option Layout :=
  (dropMark s.key).map fun key => { s with key }

/-- The colon can no longer follow. -/
def isStale (s : Layout) (k : KeyMark) : Bool :=
  k.line < s.place.line || k.index + keyReach < s.place.index

def dropStaleMark (s : Layout) (k : Option KeyMark) : Option (Option KeyMark) :=
  if k.any s.isStale then dropMark k else some k

/-- Gives up all keys that the colon can no longer follow. -/
def dropStale (s : Layout) : Option Layout := do
  let outerKeys ← s.outerKeys.mapM s.dropStaleMark
  let key ← s.dropStaleMark s.key
  return { s with key, outerKeys }

/-- The next token could be a key. -/
def markKey (s : Layout) : Option Layout :=
  if s.allowsKey then
    s.dropKey.map fun s =>
      { s with key := some {
          isRequired := !s.inFlow && s.indent == s.place.column
          number := s.count, index := s.place.index, line := s.place.line
          column := s.place.column } }
  else some s

/-- A key may, or may not, stand behind. -/
def allow (s : Layout) (allowsKey : Bool) : Layout := { s with allowsKey }

/-! ## Tokens -/

/-- A token that could be a key, or the beginning of one. -/
def word (s : Layout) (read : Place → Option (Token × Place)) : Option Layout := do
  let s ← s.markKey
  let (t, place) ← read s.place
  return { s.emit t with place, allowsKey := false }

def openBracket (s : Layout) (t : Token) : Option Layout :=
  s.markKey.map fun s =>
    { s.take t 1 with key := none, outerKeys := s.key :: s.outerKeys, allowsKey := true }

def closeBracket (s : Layout) (t : Token) : Option Layout :=
  s.dropKey.map fun s =>
    let s := (s.take t 1).allow false
    match s.outerKeys with
    | [] => s
    | key :: outerKeys => { s with key, outerKeys }

def separator (s : Layout) : Option Layout :=
  s.dropKey.map fun s => (s.take .separator 1).allow true

/-- Makes room for a mark that may stand only where a key may, and opens its block. -/
def blockMark (s : Layout) (block : Token) : Option Layout :=
  if s.inFlow then some s
  else if s.allowsKey then some (s.openBlockHere block)
  else none

def entry (s : Layout) : Option Layout := do
  let s ← (← s.blockMark .blockSequence).dropKey
  return (s.take .entry 1).allow true

def explicitKey (s : Layout) : Option Layout := do
  let s ← (← s.blockMark .blockMapping).dropKey
  return (s.take .key 1).allow (!s.inFlow)

/-- A colon: it makes a key of what could be one, and else stands for itself. -/
def value (s : Layout) : Option Layout :=
  match s.key with
  | some k =>
    let s := (s.insertAt k.number .key).openBlock k.column k.number .blockMapping
    some { (s.take .value 1) with key := none, allowsKey := false }
  | none => (s.blockMark .blockMapping).map fun s => (s.take .value 1).allow (!s.inFlow)

/-- A mark that stands between documents, or at the head of one. -/
def documentMark (s : Layout) (read : Place → Option (Token × Place)) : Option Layout := do
  let s ← (s.closeBlocks 0).dropKey
  let (t, place) ← read s.place
  return { s.emit t with place, allowsKey := false }

def plain (s : Layout) : Option Layout := do
  let s ← s.markKey
  let (text, broken, place) ← readPlain? s.inFlow (s.indent + 1).toNat s.place
  return { s.emit (.scalar .plain text) with place, allowsKey := broken }

def block (s : Layout) (isLiteral : Bool) : Option Layout := do
  let s ← s.dropKey
  let (text, place) ← readBlock? isLiteral s.indent s.place
  let style := if isLiteral then .literal else .other
  return { s.emit (.scalar style text) with place, allowsKey := true }

/-- A plain scalar can begin here. -/
def beginsPlain (s : Layout) : Bool :=
  match s.place.rest with
  | [] => false
  | c :: r =>
    if c == '-' then !r.head?.any Text.isGap
    else if c == '?' || c == ':' then !s.inFlow && !endsWord r
    else !(Text.isGap c || isBreak c || isFlowMark c || "#&*!|>'\"%@`".toList.contains c)

/-- Reads the token that begins with a character. -/
def tokenOf (s : Layout) (c : Char) : Option Layout :=
  let marks := s.inFlow || endsWord (s.place.rest.drop 1)
  let named (token : String → Token) (p : Place) :=
    (readName? p).map fun (name, p) => (token name, p)
  let quoted (isSingle : Bool) (p : Place) :=
    (readQuoted? isSingle p).map fun (text, p) => (Token.scalar .other text, p)
  match c with
  | '[' => s.openBracket .flowSequence
  | '\x7b' => s.openBracket .flowMapping
  | ']' => s.closeBracket .flowSequenceEnd
  | '\x7d' => s.closeBracket .flowMappingEnd
  | ',' => s.separator
  | '*' => s.word (named .reference)
  | '&' => s.word (named .anchor)
  | '!' =>
    s.word fun p =>
      (readShortTag? s.inFlow p).map fun (handle, ending, p) => (.tag handle ending, p)
  | '\'' => s.word (quoted true)
  | '"' => s.word (quoted false)
  | _ =>
    if c == '-' && endsWord (s.place.rest.drop 1) then s.entry
    else if c == '?' && marks then s.explicitKey
    else if c == ':' && marks then s.value
    else if (c == '|' || c == '>') && !s.inFlow then s.block (c == '|')
    else if s.beginsPlain then s.plain
    else none

/-- Reads the token that stands where the text is. -/
def next (s : Layout) (c : Char) : Option Layout :=
  if s.place.column == 0 && c == '%' then s.documentMark readDirective?
  else if s.place.atDocumentMark then
    s.documentMark fun p =>
      some (if c == '-' then .documentStart else .documentEnd, p.skip 3)
  else s.tokenOf c

/-- The place of the next token, and whether a key may stand there. Tabs count as
blanks only where no key may stand; a new line outside of brackets allows one. -/
def gap (inFlow : Bool) : (lines : Nat) → (allowsKey : Bool) → Place → Bool × Place
  | 0, allowsKey, p => (allowsKey, p)
  | lines + 1, allowsKey, p =>
    let p := (p.skipWhile fun c => c == ' ' || (c == '\t' && (inFlow || !allowsKey))).skipComment
    match p.lineBreak? with
    | none => (allowsKey, p)
    | some (_, p) => gap inFlow lines (allowsKey || !inFlow) p

/-- Goes on to the next token, closing what ends before it. -/
def advance (s : Layout) (lines : Nat) : Option Layout := do
  let (allowsKey, place) := gap s.inFlow lines s.allowsKey s.place
  let s ← { s with allowsKey, place }.dropStale
  return s.closeBlocks (s.place.column + 1)

/-- The tokens of a text. Each is written with at least one character, so their number
is bounded. -/
def run : (bound : Nat) → Layout → Option (List Token)
  | 0, _ => none
  | bound + 1, s => do
    let s ← s.advance (bound + 1)
    match s.place.head? with
    | none => (s.closeBlocks 0).dropKey.map fun s => s.tokens.reverse
    | some c => run bound (← s.next c)

end Layout

/-- The tokens of a text. A mark of the byte order may stand at its head. -/
def tokens? (cs : List Char) : Option (List Token) :=
  if cs.all isAllowed then
    let place : Place := { rest := cs }
    let place := if place.at_ '\uFEFF' then place.skip 1 else place
    Layout.run (cs.length + 2) { place }
  else none

end Failover.Yaml
