import Failover.Yaml.Token

/-!
# Nodes of YAML

What a document consists of. A node may be given a number, under which it can stand
in other places of the document as well.
-/

namespace Failover.Yaml

/-- What is said about a node in front of it. -/
structure Label where
  number : Option Nat := none
  tag : Option Tag := none

inductive Node where
  /-- The node with this number. -/
  | reference (number : Nat)
  | scalar (label : Label) (style : Style) (text : String)
  | sequence (label : Label) (items : List Node)
  | mapping (label : Label) (entries : List (Node × Node))

namespace Node

/-- What stands where nothing is written. -/
def empty : Node := .scalar {} .plain ""

/-- A node beside its number, if it has one. -/
def listed (label : Label) (n : Node) : List (Nat × Node) :=
  match label.number with
  | some k => [(k, n)]
  | none => []

/-- The nodes that have numbers, in the order in which they begin. -/
def numbered : Node → List (Nat × Node)
  | reference _ => []
  | scalar label style text => listed label (scalar label style text)
  | sequence label items =>
    listed label (sequence label items) ++ items.attach.flatMap fun n => n.val.numbered
  | mapping label entries =>
    listed label (mapping label entries) ++
      entries.attach.flatMap fun e => e.val.1.numbered ++ e.val.2.numbered
termination_by n => sizeOf n
decreasing_by
  · have := List.sizeOf_lt_of_mem n.property; simp; omega
  · have := List.sizeOf_lt_of_mem e.property
    have : sizeOf e.val = 1 + sizeOf e.val.1 + sizeOf e.val.2 := rfl
    simp; omega
  · have := List.sizeOf_lt_of_mem e.property
    have : sizeOf e.val = 1 + sizeOf e.val.1 + sizeOf e.val.2 := rfl
    simp; omega

end Node

/-- A document, and its nodes that have numbers; there is none in an empty text. -/
structure Document where
  root : Option Node
  numbered : List (Nat × Node)

namespace Document

def ofRoot (root : Option Node) : Document :=
  { root, numbered := (root.map (·.numbered)).getD [] }

/-- The node with a number. Of several the one that begins last has it. -/
def node? (d : Document) (number : Nat) : Option Node :=
  (d.numbered.reverse.find? (·.1 == number)).map (·.2)

/-- The node that a node stands for. -/
def deref? (d : Document) : Node → Option Node
  | .reference number => d.node? number
  | n => some n

end Document

end Failover.Yaml
