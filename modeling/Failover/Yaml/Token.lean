import Failover.Yaml.Tag

/-!
# Tokens of YAML

The words of a text with its layout spelled out: where lines are indented further a
sequence or a mapping starts, where they are indented less it ends, and what turns
out to be a key is marked as one.
-/

namespace Failover.Yaml

inductive Token where
  /-- The version that a document is written for. -/
  | version (major minor : Nat)
  /-- What a handle stands for in a document. -/
  | handle (name : String) (tag : Tag)
  | documentStart
  | documentEnd
  | blockSequence
  | blockMapping
  | blockEnd
  | flowSequence
  | flowSequenceEnd
  | flowMapping
  | flowMappingEnd
  /-- An item of a block sequence comes. -/
  | entry
  /-- An item of what stands in brackets comes. -/
  | separator
  | key
  | value
  | reference (name : String)
  | anchor (name : String)
  | tag (handle : String) (ending : Tag)
  | scalar (style : Style) (text : List Char)
  deriving DecidableEq

/-! ## Directives -/

/-- A number of a version. -/
def readVersionNumber? (p : Place) : Option (Nat × Place) :=
  let (digits, p) := p.span Char.isDigit
  if digits.isEmpty ∨ 9 < digits.length then none
  else (Text.numeral? 10 digits).map (·, p)

/-- What a directive says, behind its name. -/
def readDirectiveText? (name : String) (p : Place) : Option (Token × Place) := do
  let p := p.skipWhile Text.isGap
  match name with
  | "YAML" =>
    let (major, p) ← readVersionNumber? p
    if !p.at_ '.' then none
    let (minor, p) ← readVersionNumber? (p.skip 1)
    return (.version major minor, p)
  | "TAG" =>
    if !p.at_ '!' then none
    let (handle, p) := readHandle p
    if !(handle.endsWith "!" && p.head?.any Text.isGap) then none
    let (tag, p) ← readTag? true (p.skipWhile Text.isGap)
    if tag.isEmpty ∨ !endsWord p.rest then none
    return (.handle handle tag, p)
  | _ => none

/-- A directive, from its mark on to the end of its line. -/
def readDirective? (p : Place) : Option (Token × Place) := do
  let (name, p) := (p.skip 1).span isWordChar
  if !endsWord p.rest then none
  let (token, p) ← readDirectiveText? (String.ofList name) p
  let p := (p.skipWhile Text.isGap).skipComment
  if !endsLine p.rest then none
  return (token, (p.lineBreak?.map (·.2)).getD p)

/-! ## Names of nodes -/

/-- The name behind the mark of an alias or an anchor. -/
def readName? (p : Place) : Option (String × Place) :=
  let (name, p) := (p.skip 1).span isWordChar
  let ends := endsWord p.rest ||
    p.head?.any fun c => ['?', ':', ',', ']', '\x7d', '%', '@', '`'].contains c
  if name.isEmpty || !ends then none else some (String.ofList name, p)

end Failover.Yaml
