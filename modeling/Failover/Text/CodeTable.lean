import Failover.Text.Numeral
import Failover.Text.Split

/-!
# Tables of code points

Properties of characters are data of a standard, long lists of ranges. They are
written as text, so that a table can be read and compared, and unpacked once
into a sorted array that is searched by halving.

An entry is a range in hexadecimal, `300-314`, or a single code point, `9BC`.
`/2` behind it takes every second code point from the first on. Behind a colon
stands the value, hexadecimal numbers joined by dots: a class, or the code
points that replace the one looked up. `Entry.shifted` is the reading of a
replacement for a whole range, where the replacement moves along.
-/

namespace Failover.Text

/-- A range of code points, all of them or every second one, with a value. -/
structure Entry where
  first : Nat
  last : Nat
  step : Nat
  value : List Nat

namespace Entry

/-- The entry speaks about the code point. -/
def covers (e : Entry) (n : Nat) : Bool :=
  e.first ≤ n && n ≤ e.last && (n - e.first) % e.step == 0

/-- The value at a code point of the range, moved by its distance from the first. -/
def shifted (e : Entry) (n : Nat) : List Nat :=
  match e.value with
  | [v] => [v + (n - e.first)]
  | vs => vs

/-- The number of a hexadecimal numeral; a blank place counts as zero. -/
def hexNumber (cs : List Char) : Nat := (numeral? 16 cs).getD 0

/-- Reads one entry: range, step, value. -/
def ofText (cs : List Char) : Entry :=
  let (range, value) := (cs.takeWhile (· != ':'), (cs.dropWhile (· != ':')).drop 1)
  let (ends, step) := (range.takeWhile (· != '/'), (range.dropWhile (· != '/')).drop 1)
  let first := hexNumber (ends.takeWhile (· != '-'))
  let last := (ends.dropWhile (· != '-')).drop 1
  { first
    last := if last.isEmpty then first else hexNumber last
    step := if step.isEmpty then 1 else hexNumber step
    value := if value.isEmpty then [] else (splitOn (· == '.') value).map hexNumber }

end Entry

/-- Entries in ascending order, no code point in two of them. -/
structure CodeTable where
  entries : Array Entry

namespace CodeTable

/-- Unpacks a table from its text. -/
def ofText (text : String) : CodeTable :=
  let pieces := splitOn (fun c => c == ' ' || c == '\n') text.toList
  ⟨((pieces.filter (!·.isEmpty)).map Entry.ofText).toArray⟩

/-- The last entry between `lo` and `hi` (exclusive) that starts at `n` or before. -/
def search (t : CodeTable) (n lo hi : Nat) : Option Entry :=
  if hi ≤ lo then none
  else
    let mid := (lo + hi) / 2
    match t.entries[mid]? with
    | none => none
    | some e =>
      if n < e.first then search t n lo mid
      else if e.last < n then search t n (mid + 1) hi
      else if e.covers n then some e else none
termination_by hi - lo

/-- The entry about a code point, if the table has one. -/
def find? (t : CodeTable) (n : Nat) : Option Entry :=
  t.search n 0 t.entries.size

def contains (t : CodeTable) (n : Nat) : Bool :=
  (t.find? n).isSome

/-- What is found is an entry of the table that speaks about the code point. -/
theorem mem_of_search {t : CodeTable} {n lo hi : Nat} {e : Entry}
    (h : t.search n lo hi = some e) : e ∈ t.entries.toList ∧ e.covers n = true := by
  fun_induction search t n lo hi with
  | case1 => cases h
  | case2 => cases h
  | case3 _ _ _ _ _ _ _ ih => exact ih h
  | case4 _ _ _ _ _ _ _ _ ih => exact ih h
  | case5 _ _ _ _ _ hentry _ _ hcovers =>
    cases h
    exact ⟨Array.mem_toList_iff.2 (Array.mem_of_getElem? hentry), hcovers⟩
  | case6 => cases h

/-- The first number of the value at a code point, `0` where the table is silent. -/
def classOf (t : CodeTable) (n : Nat) : Nat :=
  match t.find? n with
  | some e => e.value.headD 0
  | none => 0

end CodeTable

end Failover.Text
