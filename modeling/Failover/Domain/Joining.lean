import Failover.Text.Normal
import Failover.Domain.JoiningTable

/-!
# Joiners in domain names

The two zero-width joiners are invisible and are allowed only where they change
how the characters around them are drawn: after a virama, or, for the
non-joiner, between two letters that a cursive script would connect.
-/

namespace Failover.Domain

open Failover.Text

/-- How a character joins its neighbours in cursive writing. -/
inductive JoiningType where
  | none
  | dual
  | left
  | right
  | transparent
  deriving DecidableEq

def JoiningType.ofCode : Nat → JoiningType
  | 1 => .dual
  | 2 => .left
  | 3 => .right
  | 4 => .transparent
  | _ => .none

def joiningTable : CodeTable := .ofText joiningText

def joiningType (c : Char) : JoiningType :=
  .ofCode (joiningTable.classOf c.toNat)

/-- The nearest character that takes part in joining satisfies `p`. -/
def joins (p : JoiningType → Bool) (cs : List Char) : Bool :=
  match (cs.map joiningType).dropWhile (· == .transparent) with
  | [] => false
  | k :: _ => p k

/-- The characters before a place, nearest first, end in a virama. -/
def followsVirama : List Char → Bool
  | [] => false
  | c :: _ => combiningClass c == 9

/-- Every joiner stands where it may; `before` is reversed. -/
def joinersFit (before : List Char) : List Char → Bool
  | [] => true
  | c :: after =>
    (if c == '\u200d' then followsVirama before
     else if c == '\u200c' then
      followsVirama before ||
        (joins (fun k => k == .left || k == .dual) before &&
         joins (fun k => k == .right || k == .dual) after)
     else true) && joinersFit (c :: before) after

end Failover.Domain
