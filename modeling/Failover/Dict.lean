/-!
# Dictionaries with names in order

Headers, fields and labels are kept in ascending order of their names, each name
once. The order of strings by code points is the order of their UTF-8, the one in
which they are sent and written. `insert` keeps the order and decides what a name
means that is given twice: the later value takes the place of the earlier one.
-/

namespace Failover

/-- Values with names, in ascending order of the names. -/
abbrev Dict (α : Type) := List (String × α)

namespace Dict

variable {α : Type}

/-- Gives a name a value, in the place of the one it had. -/
def insert (d : Dict α) (name : String) (v : α) : Dict α :=
  match d with
  | [] => [(name, v)]
  | (k, w) :: r =>
    if name < k then (name, v) :: (k, w) :: r
    else if name = k then (name, v) :: r
    else (k, w) :: insert r name v

/-- Gives the names of all pairs their values, one pair after the other. -/
def insertAll (d : Dict α) (pairs : List (String × α)) : Dict α :=
  pairs.foldl (fun d p => d.insert p.1 p.2) d

/-- A dictionary of pairs in any order. -/
def ofList (pairs : List (String × α)) : Dict α :=
  insertAll [] pairs

/-- The value of a name. -/
def get? : Dict α → String → Option α
  | [], _ => none
  | (k, v) :: r, name => if name = k then some v else get? r name

/-- The name has a value. -/
def contains (d : Dict α) (name : String) : Bool :=
  (d.get? name).isSome

/-- Gives a name a value if it has none. -/
def insertNew (d : Dict α) (name : String) (v : α) : Dict α :=
  if d.contains name then d else d.insert name v

/-- The names, in order. -/
def names (d : Dict α) : List String :=
  d.map (·.1)

/-- A name that was given a value has it, the others keep theirs. -/
theorem get?_insert (d : Dict α) (name other : String) (v : α) :
    (d.insert name v).get? other = if other = name then some v else d.get? other := by
  induction d with
  | nil => simp [insert, get?]
  | cons p r ih =>
    obtain ⟨k, w⟩ := p
    rw [insert]
    split
    · simp [get?]
    · split
      · rename_i h
        subst h
        by_cases ho : other = name <;> simp [get?, ho]
      · rename_i hne
        by_cases hk : other = k
        · simp [get?, hk, Ne.symm hne]
        · simp [get?, hk, ih]

end Dict

end Failover
