import Failover.Dict
import Failover.Yaml.Layout
import Failover.Yaml.Node

/-!
# Documents from tokens

A text holds one document at most. Names of anchors are given numbers as they are
met: as many names as are known by then.
-/

namespace Failover.Yaml

/-- The tokens that are left, the anchors so far and what handles stand for. -/
structure Reading where
  tokens : List Token
  anchors : Dict Nat := []
  handles : Handles := []

/-- Reads a part of a document, or fails. -/
abbrev Reader := StateT Reading Option

namespace Reader

/-- The next token. -/
def head? : Reader (Option Token) := return (← get).tokens.head?

/-- Leaves the next token behind. -/
def advance : Reader Unit := modify fun r => { r with tokens := r.tokens.tail }

/-- The token comes next; it is left behind. -/
def expect (t : Token) : Reader Unit := do
  if (← head?) = some t then advance else failure

/-- Leaves the next token behind if it is the one. -/
def accept (t : Token) : Reader Bool := do
  if (← head?) = some t then advance; return true
  else return false

/-- One of the tokens comes next. -/
def isAt (ts : List Token) : Reader Bool :=
  return (← head?).any (ts.contains ·)

/-! ## Labels -/

/-- The anchor that comes next, if one does. -/
def anchor? : Reader (Option Nat) := do
  match ← head? with
  | some (.anchor name) =>
    advance
    let r ← get
    let number := r.anchors.length
    set { r with anchors := r.anchors.insert name number }
    return some number
  | _ => return none

/-- The tag that comes next, if one does. -/
def tag? : Reader (Option Tag) := do
  match ← head? with
  | some (.tag handle ending) =>
    advance
    let tag ← (← get).handles.resolve? handle ending
    return some tag
  | _ => return none

/-- The anchor and the tag of a node, in either order. -/
def label : Reader Label := do
  match ← anchor? with
  | some number => return { number := some number, tag := ← tag? }
  | none =>
    let tag ← tag?
    return { number := ← anchor?, tag }

/-! ## Nodes -/

/-- A lone exclamation mark in front of a scalar says nothing. -/
def dropLoneMark (l : Label) : Label :=
  if l.tag = some (Tag.ofString "!") then { l with tag := none } else l

/-- What ends an item of a block sequence before it began. -/
def itemStops : List Token := [.entry, .key, .value, .blockEnd]

/-- What ends a key or a value of a block mapping before it began. -/
def partStops : List Token := [.key, .value, .blockEnd]

mutual

/-- A node. `inBlock` says that it may be a block, `bare` that it may be a sequence
that is not indented further. -/
def node (inBlock bare : Bool) : (size : Nat) → Reader Node
  | 0 => failure
  | size + 1 => do
    match ← head? with
    | some (.reference name) =>
      advance
      return .reference (← (← get).anchors.get? name)
    | _ =>
      let l ← label
      match ← head? with
      | some (.scalar style text) =>
        advance
        return .scalar (dropLoneMark l) style (String.ofList text)
      | some .flowSequence =>
        advance
        return .sequence l (← flowItems true size)
      | some .flowMapping =>
        advance
        return .mapping l (← flowEntries true size)
      | t =>
        if bare && t == some .entry then return .sequence l (← bareItems size)
        else if inBlock && t == some .blockSequence then
          advance
          return .sequence l (← blockItems size)
        else if inBlock && t == some .blockMapping then
          advance
          return .mapping l (← blockEntries size)
        else if l.number.isSome || l.tag.isSome then return .scalar l .plain ""
        else failure

/-- An item of a block sequence, or nothing if the block goes on or ends at once. -/
def blockItem : (size : Nat) → Reader Node
  | 0 => failure
  | size + 1 => do
    if ← isAt itemStops then return .empty else node true false size

/-- A key or a value of a block mapping, or nothing. -/
def blockPart : (size : Nat) → Reader Node
  | 0 => failure
  | size + 1 => do
    if ← isAt partStops then return .empty else node true true size

/-- The items of a block sequence, to its end. -/
def blockItems : (size : Nat) → Reader (List Node)
  | 0 => failure
  | size + 1 => do
    if ← accept .entry then
      let item ← blockItem size
      return item :: (← blockItems size)
    else
      expect .blockEnd
      return []

/-- The items of a sequence that is not indented further. -/
def bareItems : (size : Nat) → Reader (List Node)
  | 0 => failure
  | size + 1 => do
    if ← accept .entry then
      let item ← blockItem size
      return item :: (← bareItems size)
    else return []

/-- The entries of a block mapping, to its end. -/
def blockEntries : (size : Nat) → Reader (List (Node × Node))
  | 0 => failure
  | size + 1 => do
    if ← accept .key then
      let k ← blockPart size
      let v ← if ← accept .value then blockPart size else pure .empty
      return (k, v) :: (← blockEntries size)
    else
      expect .blockEnd
      return []

/-- A node inside brackets, or nothing if one of the tokens comes at once. -/
def flowPart (stops : List Token) : (size : Nat) → Reader Node
  | 0 => failure
  | size + 1 => do
    if ← isAt stops then return .empty else node false false size

/-- The value of an entry inside brackets, if it has one. -/
def flowValue (stops : List Token) : (size : Nat) → Reader Node
  | 0 => failure
  | size + 1 => do
    if ← accept .value then flowPart stops size else return .empty

/-- The items of a sequence in brackets, to its end. An item may be a mapping with
one entry; if that has no key, the token in its place is passed over. -/
def flowItems (isFirst : Bool) : (size : Nat) → Reader (List Node)
  | 0 => failure
  | size + 1 => do
    if ← accept .flowSequenceEnd then return []
    else
      if !isFirst then expect .separator
      if ← accept .flowSequenceEnd then return []
      else if ← accept .key then
        -- Without a key the next token is lost, even one that ends the brackets.
        let isEmpty ← isAt [.value, .separator, .flowSequenceEnd]
        let k ← if isEmpty then do advance; pure .empty else node false false size
        let v ← flowValue [.separator, .flowSequenceEnd] size
        return .mapping {} [(k, v)] :: (← flowItems false size)
      else
        let item ← node false false size
        return item :: (← flowItems false size)

/-- The entries of a mapping in brackets, to its end. What is not marked as a key has
no value. -/
def flowEntries (isFirst : Bool) : (size : Nat) → Reader (List (Node × Node))
  | 0 => failure
  | size + 1 => do
    if ← accept .flowMappingEnd then return []
    else
      if !isFirst then expect .separator
      if ← accept .flowMappingEnd then return []
      else if ← accept .key then
        let k ← flowPart [.value, .separator, .flowMappingEnd] size
        let v ← flowValue [.separator, .flowMappingEnd] size
        return (k, v) :: (← flowEntries false size)
      else
        let k ← node false false size
        return (k, .empty) :: (← flowEntries false size)

end

/-! ## Documents -/

/-- The directives at the head of a document. -/
def directives (hasVersion : Bool) : (size : Nat) → Reader Unit
  | 0 => failure
  | size + 1 => do
    match ← head? with
    | some (.version major minor) =>
      if hasVersion || major != 1 || !(minor == 1 || minor == 2) then failure
      advance
      directives true size
    | some (.handle name tag) =>
      let r ← get
      if (r.handles.lookup name).isSome then failure
      set { r with handles := (name, tag) :: r.handles }
      advance
      directives hasVersion size
    | _ => return ()

/-- Another part of the text comes next, or its end. -/
def atDocumentEnd : Reader Bool := do
  match ← head? with
  | none | some (.version ..) | some (.handle ..) => return true
  | some t => return t == .documentStart || t == .documentEnd

/-- The root of a document, with its mark and directives if it has any. -/
def root (size : Nat) : Reader Node := do
  if ← isAt [.documentEnd] then failure
  if ← atDocumentEnd then
    directives false size
    expect .documentStart
    if ← atDocumentEnd then return .empty
  node true false size

/-- All there is in a text. -/
def document (size : Nat) : Reader (Option Node) := do
  if (← head?).isNone then return none
  let n ← root size
  modify fun r => { r with tokens := r.tokens.dropWhile (· == .documentEnd) }
  if (← head?).isSome then failure
  return some n

end Reader

/-- The only document of a text. A token is met at most four times on the way to the
next one. -/
def Document.parse? (text : String) : Option Document := do
  let tokens ← tokens? text.toList
  let (root, _) ← Reader.document (4 * tokens.length + 4) |>.run { tokens }
  return .ofRoot root

end Failover.Yaml
