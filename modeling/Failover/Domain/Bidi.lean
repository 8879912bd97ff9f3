import Failover.Text.Normal
import Failover.Domain.BidiTable

/-!
# Writing direction in domain names

A name that holds any right-to-left character has to be readable in both
directions without its labels seeming to change places. Every label of such a
name starts in one direction, keeps to the characters that may stand in it, and
ends in a letter or number of that direction; and a right-to-left label does not
mix the two kinds of digits.
-/

namespace Failover.Domain

open Failover.Text

/-- The bidirectional classes that the rule tells apart. `barred` stands for the
separators, spaces and directional controls, which no label may hold. -/
inductive BidiClass where
  | left
  | right
  | arabicLetter
  | arabicNumber
  | europeanNumber
  | europeanSeparator
  | commonSeparator
  | europeanTerminator
  | neutral
  | boundary
  | nonspacing
  | barred
  deriving DecidableEq

def BidiClass.ofCode : Nat → BidiClass
  | 1 => .right
  | 2 => .arabicLetter
  | 3 => .arabicNumber
  | 4 => .europeanNumber
  | 5 => .europeanSeparator
  | 6 => .commonSeparator
  | 7 => .europeanTerminator
  | 8 => .neutral
  | 9 => .boundary
  | 10 => .nonspacing
  | 11 => .barred
  | _ => .left

def bidiTable : CodeTable := .ofText bidiText

def bidiClass (c : Char) : BidiClass :=
  .ofCode (bidiTable.classOf c.toNat)

namespace BidiClass

/-- The classes that make a name one of two directions. -/
def isRightToLeft : BidiClass → Bool
  | right | arabicLetter | arabicNumber => true
  | _ => false

/-- What may stand anywhere, whatever the direction. -/
def isCommon : BidiClass → Bool
  | europeanNumber | europeanSeparator | commonSeparator | europeanTerminator
  | neutral | boundary | nonspacing => true
  | _ => false

end BidiClass

/-- A label that starts to the right: nothing that runs to the left, an end that
is a letter or a number, and one kind of number. -/
def isRightLabel (classes : List BidiClass) : Bool :=
  classes.all (fun k => k.isCommon || k.isRightToLeft) &&
  (match classes.reverse.dropWhile (· == .nonspacing) with
    | [] => false
    | k :: _ => k.isRightToLeft || k == .europeanNumber) &&
  !(classes.contains .europeanNumber && classes.contains .arabicNumber)

/-- A label that starts to the left. -/
def isLeftLabel (classes : List BidiClass) : Bool :=
  classes.all (fun k => k.isCommon || k == .left) &&
  match classes.reverse.dropWhile (· == .nonspacing) with
    | [] => false
    | k :: _ => k == .left || k == .europeanNumber

/-- The rule for one label; an empty one has nothing to break. -/
def isDirected (label : List Char) : Bool :=
  match label.map bidiClass with
  | [] => true
  | k :: ks =>
    match k with
    | .left => isLeftLabel (k :: ks)
    | .right | .arabicLetter => isRightLabel (k :: ks)
    | _ => false

/-- A character that is written from right to left. Below Hebrew there is none, and no
ideograph is one. -/
def isRightToLeft (c : Char) : Bool :=
  0x590 ≤ c.toNat && !isIdeograph c && (bidiClass c).isRightToLeft

/-- The rule for a name: it concerns only names with a right-to-left character. -/
def areDirected (labels : List (List Char)) : Bool :=
  labels.all (·.all fun c => !isRightToLeft c) || labels.all isDirected

end Failover.Domain
