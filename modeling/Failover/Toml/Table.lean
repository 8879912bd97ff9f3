import Failover.Toml.Value

/-!
# Tables as they are put together

A table may be named by a header, or come to be as part of a longer header or of a
dotted key. Which of these it was decides what may still be added to it: a table
can be named by a header once only, and dotted keys add to tables of dotted keys
only. `update` walks along a path of keys, making the tables that are not there,
and changes the table at its end.
-/

namespace Failover.Toml

/-- How a table came to be. -/
inductive Origin where
  /-- By a header of its own. -/
  | named
  /-- As part of a longer header. -/
  | implied
  /-- As part of a dotted key. -/
  | dotted
  deriving DecidableEq, Repr

/-- What a key stands for while a document is read: a finished value, a table, or
tables in a row. -/
inductive Item where
  | value (v : Value)
  | table (origin : Origin) (entries : List (String × Item))
  | tables (elements : List (List (String × Item)))

/-- The entries of a table, in the order in which they came. -/
abbrev Entries := List (String × Item)

/-- What is changed at the end of a path: from the origin of a table and its
entries the new entries. -/
abbrev Change := Origin → Entries → Option Entries

/-- Puts an item in the place of the one under the key. -/
def Entries.set (entries : Entries) (key : String) (item : Item) : Entries :=
  match entries with
  | [] => [(key, item)]
  | (k, i) :: r => if k = key then (k, item) :: r else (k, i) :: Entries.set r key item

/-- Changes the last of some tables. -/
def changeLast (f : Entries → Option Entries) : List Entries → Option (List Entries)
  | [] => none
  | [es] => (f es).map fun es => [es]
  | es :: more => (changeLast f more).map (es :: ·)

/-- Changes the table at the end of a path; `origin` is that of the table with the
entries, and `made` that of tables that are made on the way. -/
def update (made : Origin) (path : List String) (origin : Origin) (entries : Entries)
    (change : Change) : Option Entries :=
  match path with
  | [] => change origin entries
  | key :: path =>
    match entries.lookup key with
    | none =>
      (update made path made [] change).map fun es => entries ++ [(key, .table made es)]
    | some (.value _) => none
    | some (.tables elements) =>
      (changeLast (fun es => update made path .named es change) elements).map fun elements =>
        Entries.set entries key (.tables elements)
    | some (.table origin es) =>
      if made = .dotted ∧ origin = .named then none
      else
        (update made path origin es change).map fun es =>
          Entries.set entries key (.table origin es)

/-- Adds a value under a key. If the key is the end of a dotted one, the table must
be one of dotted keys; if not, it must not. -/
def addValue (isDotted : Bool) (key : String) (v : Value) : Change := fun origin entries =>
  if decide (origin = .dotted) != isDotted ∨ (entries.lookup key).isSome then none
  else some (entries ++ [(key, .value v)])

/-- Adds a value under the keys of a dotted key, the last of them given apart. -/
def addDotted (path : List String) (key : String) (v : Value) : Change := fun origin entries =>
  update .dotted path origin entries (addValue (!path.isEmpty) key v)

/-- Makes the table that a header names. -/
def nameTable (key : String) : Change := fun _ entries =>
  match entries.lookup key with
  | none => some (entries ++ [(key, .table .named [])])
  | some (.table .implied es) => some (Entries.set entries key (.table .named es))
  | _ => none

/-- Adds an element to the tables that a header in double brackets names. -/
def nameElement (key : String) : Change := fun _ entries =>
  match entries.lookup key with
  | none => some (entries ++ [(key, .tables [[]])])
  | some (.tables elements) => some (Entries.set entries key (.tables (elements ++ [[]])))
  | _ => none

mutual

/-- The finished value of an item. -/
def Item.finish : Item → Value
  | .value v => v
  | .table _ entries => .table (finishEntries entries)
  | .tables elements => .array (finishElements elements)

def finishEntries : List (String × Item) → List (String × Value)
  | [] => []
  | (key, item) :: r => (key, item.finish) :: finishEntries r

def finishElements : List (List (String × Item)) → List Value
  | [] => []
  | es :: r => .table (finishEntries es) :: finishElements r

end

end Failover.Toml
