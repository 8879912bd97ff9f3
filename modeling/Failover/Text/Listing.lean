import Failover.Text.Quoted

/-!
# Listings

How values of a program are listed in its log: records with their fields by name,
lists in brackets, values that may be missing, and times in the unit that suits them.
-/

namespace Failover.Text.Listing

/-- A record, by its title and its fields. -/
def record (title : String) (fields : List (String × String)) : String :=
  title ++ " \x7b " ++
    ", ".intercalate (fields.map fun (name, text) => name ++ ": " ++ text) ++ " \x7d"

/-- A value that may be missing. -/
def optional : Option String → String
  | some text => "Some(" ++ text ++ ")"
  | none => "None"

def list (items : List String) : String := "[" ++ ", ".intercalate items ++ "]"

def pair (first second : String) : String := "(" ++ first ++ ", " ++ second ++ ")"

/-- Thousandths behind a point, without zeros at the end. -/
def thousandths (n : Nat) : String :=
  let digits := (Nat.toDigits 10 (1000 + n)).tail
  let digits := (digits.reverse.dropWhile (· == '0')).reverse
  if digits.isEmpty then "" else String.ofList ('.' :: digits)

/-- A time of so many milliseconds: in seconds if it has any. -/
def time (ms : Nat) : String :=
  if ms = 0 then "0ns"
  else if ms < 1000 then toString ms ++ "ms"
  else toString (ms / 1000) ++ thousandths (ms % 1000) ++ "s"

end Failover.Text.Listing
