/-!
# TOML values

The values of the format. Points in time are kept as they are written, with their
parts in order: the configuration has no use for one, but a document may hold one
anywhere.
-/

namespace Failover.Toml

/-- A day of the calendar. -/
structure Date where
  year : Nat
  month : Nat
  day : Nat
  deriving DecidableEq, Repr

/-- A time of the day, to the nanosecond. -/
structure Time where
  hour : Nat
  minute : Nat
  second : Nat
  nanosecond : Nat
  deriving DecidableEq, Repr

/-- The distance from universal time. -/
inductive Offset where
  | zulu
  | minutes (n : Int)
  deriving DecidableEq, Repr

/-- A day, a time of day, or both, perhaps with an offset. -/
structure DateTime where
  date : Option Date := none
  time : Option Time := none
  offset : Option Offset := none
  deriving DecidableEq, Repr

/-- A value. The entries of a table are in the order in which they came. -/
inductive Value where
  | string (s : String)
  | integer (n : Int)
  | float
  | boolean (b : Bool)
  | dateTime (t : DateTime)
  | array (items : List Value)
  | table (entries : List (String × Value))

/-- A number with so many digits at least. -/
def padded (width n : Nat) : String :=
  let ds := Nat.toDigits 10 n
  String.ofList (List.replicate (width - ds.length) '0' ++ ds)

def Date.write (d : Date) : String :=
  padded 4 d.year ++ "-" ++ padded 2 d.month ++ "-" ++ padded 2 d.day

/-- The part of a second behind its point, without zeros at the end. -/
def writeFraction (nanosecond : Nat) : String :=
  if nanosecond = 0 then ""
  else
    let ds := (padded 9 nanosecond).toList.reverse.dropWhile (· == '0')
    "." ++ String.ofList ds.reverse

def Time.write (t : Time) : String :=
  padded 2 t.hour ++ ":" ++ padded 2 t.minute ++ ":" ++ padded 2 t.second ++
    writeFraction t.nanosecond

def Offset.write : Offset → String
  | zulu => "Z"
  | minutes n =>
    (if n < 0 then "-" else "+") ++ padded 2 (n.natAbs / 60) ++ ":" ++ padded 2 (n.natAbs % 60)

/-- The written form of a point in time. -/
def DateTime.write (t : DateTime) : String :=
  let date := (t.date.map Date.write).getD ""
  let time := (t.time.map Time.write).getD ""
  let mark := if t.date.isSome && t.time.isSome then "T" else ""
  date ++ mark ++ time ++ (t.offset.map Offset.write).getD ""

end Failover.Toml
