import Failover.Config.Reading
import Failover.Yaml.Grammar

/-!
# Configurations in YAML

A scalar has no type of its own: where a string is expected it is one, and where a
number is expected a plain scalar is read as one. An alias is read as the node that
it stands for.
-/

namespace Failover.Config

namespace FromYaml

open Text
open Yaml (Node Document Style Tag)

/-- The node that a node stands for. -/
def deref (d : Document) (n : Node) : Except Unit Node :=
  match d.deref? n with
  | some n => .ok n
  | none => .error ()

/-- The node stands where nothing is written. -/
def isUnwritten : Node → Bool
  | .scalar _ .plain "" => true
  | _ => false

def isNull (text : String) : Bool := ["null", "Null", "NULL", "~"].contains text

def text (d : Document) (n : Node) : Except Unit String := do
  match ← deref d n with
  | .scalar _ _ text => return text
  | _ => .error ()

/-- The entries of a mapping, or of nothing. Names are texts. -/
def entries (d : Document) (n : Node) : Except Unit (List (String × Node)) := do
  match ← deref d n with
  | .mapping _ entries => entries.mapM fun (name, n) => (text d name).map (·, n)
  | n => if isUnwritten n then return [] else .error ()

/-- The members of a record, each once; what else there is does not matter. -/
def members (d : Document) (names : List String) (n : Node) :
    Except Unit (List (String × Node)) := do
  let given := (← entries d n).filter (names.contains ·.1)
  if (given.map (·.1)).Nodup then return given else .error ()

def items (d : Document) (n : Node) : Except Unit (List Node) := do
  match ← deref d n with
  | .sequence _ items => return items
  | n => if isUnwritten n then return [] else .error ()

/-- The text of a scalar that may be a value with this type: it is plain, or a literal
block that says so. -/
def valueText (d : Document) (type : String) (n : Node) : Except Unit String := do
  match ← deref d n with
  | .scalar _ .plain text => return text
  | .scalar label .literal text =>
    if label.tag = some (Tag.ofString type) then return text else .error ()
  | _ => .error ()

/-- The base of a number with a letter behind its first zero. -/
def base? : Char → Option Nat
  | 'x' => some 16
  | 'o' => some 8
  | 'b' => some 2
  | _ => none

/-- A number in base ten. It begins with a zero only if it is one. -/
def decimal? : List Char → Option Nat
  | '0' :: c :: r => if (c :: r).all Char.isDigit then none else numeral? 10 ('0' :: c :: r)
  | cs => numeral? 10 cs

/-- A number that is not negative; a plus may stand in front of it. -/
def natural? (cs : List Char) : Option Nat :=
  match if cs.head? == some '+' then cs.tail else cs with
  | '0' :: c :: r => ((base? c).bind (numeral? · r)).or (decimal? ('0' :: c :: r))
  | cs => decimal? cs

def natural (d : Document) (bits : Nat) (n : Node) : Except Unit Nat := do
  match natural? (← valueText d "tag:yaml.org,2002:int" n).toList with
  | some n => if n < Nat.pow 2 bits then return n else .error ()
  | none => .error ()

def boolean (d : Document) (n : Node) : Except Unit Bool := do
  let text ← valueText d "tag:yaml.org,2002:bool" n
  if ["true", "True", "TRUE"].contains text then return true
  else if ["false", "False", "FALSE"].contains text then return false
  else .error ()

/-- Whether nothing is said: a plain scalar that says so, or an empty one without a
tag. What is tagged as nothing must be nothing. -/
def isNothing (d : Document) (n : Node) : Except Unit Bool := do
  match ← deref d n with
  | .scalar { tag := none, .. } .plain text => return text.isEmpty || isNull text
  | .scalar { tag := some tag, .. } .plain text =>
    if tag = Tag.ofString "tag:yaml.org,2002:null" then
      if isNull text then return true else .error ()
    else return false
  | _ => return false

/-- The name that a tag of the caller's own is. -/
def ownName? : Option Tag → Option String
  | some (mark :: name) =>
    if mark = '!'.toNat.toUInt8 then
      (Text.Utf8.decode? name).map String.ofList
    else none
  | _ => none

def knownKind (name : String) : Except Unit FailureKind :=
  match FailureKind.ofName? name with
  | some kind => .ok kind
  | none => .error ()

/-- A kind by its name, or by a tag in front of nothing. -/
def kind (d : Document) (n : Node) : Except Unit FailureKind := do
  match ← deref d n with
  | .scalar label style text =>
    match ownName? label.tag with
    | some name =>
      if style = .plain ∧ (text.isEmpty ∨ isNull text) then knownKind name else .error ()
    | none => knownKind text
  | _ => .error ()

def reading (d : Document) : Reading Node Unit :=
  { members := fun _ => members d, surplus := fun _ _ => .ok (), items := items d
    entries := entries d, text := text d, natural := natural d, boolean := boolean d
    isNothing := isNothing d, kind := kind d }

end FromYaml

/-- The configuration that a text in YAML writes, usable or not. An empty text leaves
everything at its default. -/
def readYaml? (text : String) : Option Config :=
  (Yaml.Document.parse? text).bind fun d =>
    ((FromYaml.reading d).config (d.root.getD .empty)).toOption

/-- Reads a configuration from a text in YAML and checks it. -/
def ofYaml (text : String) : Except ClientError Config :=
  match readYaml? text with
  | none => .error .yaml
  | some c => c.checked

end Failover.Config
