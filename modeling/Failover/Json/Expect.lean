import Failover.Json.Skip

/-!
# Reading what is expected

Where a text must hold a certain shape (a string, one of some names, a list of
such, a record) the shape is read from the text itself, without a value in
between. A value of another shape is described in the error: a scalar is read to
its end first and the fault lies behind it; a list or an object is not entered.
-/

namespace Failover.Json

/-- A shape that does not fit, at a cursor. -/
def Cursor.mismatch {α : Type} (c : Cursor) (m : Mismatch) : Except SyntaxError α :=
  c.fail (.shape m)

/-- Not what was expected; the cursor stands before the value that was found. -/
def Cursor.unexpected {α : Type} (c : Cursor) (expected : String) : Except SyntaxError α :=
  match hc : c.rest with
  | [] => c.fail .endInValue
  | ch :: r =>
    if ch = '[' then c.mismatch (.type .sequence expected)
    else if ch = '\x7b' then c.mismatch (.type .map expected)
    else
      match readScalar c ch r hc with
      | .error e => .error e
      | .ok v => v.next.mismatch (.type v.value.found expected)

/-- A string. -/
def readText (expected : String) : Reader String := fun c =>
  match hc : c.skipSpace.rest with
  | '"' :: r =>
    (readString ⟨r, c.skipSpace.offset + 1⟩).map (·.behindSpace hc)
  | _ => c.skipSpace.unexpected expected

/-- The word `null`. -/
def readNull (expected : String) : Reader Unit := fun c =>
  match hc : c.skipSpace.rest with
  | 'n' :: r =>
    readWord "ull".toList ⟨r, c.skipSpace.offset + 1⟩ (c.length_of_skipSpace hc)
  | _ => c.skipSpace.unexpected expected

/-- Either `null` or what the reader reads. -/
def readOptional {α : Type} (item : Reader α) : Reader (Option α) := fun c =>
  match c.skipSpace.rest.head? with
  | some 'n' => (readNull "null" c).map (·.map fun _ => none)
  | _ => (item c).map (·.map some)

/-- One of some names: as a string, or as the only field of an object, with
`null` for its value. -/
def readNameOf (known : List String) : Reader String := fun c =>
  have hs := c.skipSpace_length
  let named (name : Read String c) : Except SyntaxError (Read String c) :=
    if name.value ∈ known then .ok name
    else name.next.mismatch (.variant name.value known)
  match hc : c.skipSpace.rest with
  | [] => c.skipSpace.fail .endInValue
  | '"' :: r =>
    (readString ⟨r, c.skipSpace.offset + 1⟩).map (·.behindSpace hc) >>= named
  | '\x7b' :: r =>
    let d : Cursor := ⟨r, c.skipSpace.offset + 1⟩
    match (readText "variant identifier" d).map (·.behindSpace hc) >>= named with
    | .error e => .error e
    | .ok name =>
      have hn := name.shorter
      have hcolon := name.next.skipSpace_length
      match hk : name.next.skipSpace.rest with
      | [] => name.next.skipSpace.fail .endInObject
      | ':' :: r' =>
        match readNull "unit" ⟨r', name.next.skipSpace.offset + 1⟩ with
        | .error e => .error e
        | .ok unit =>
          have hu := unit.shorter
          have hend := unit.next.skipSpace_length
          match he : unit.next.skipSpace.rest with
          | [] => unit.next.skipSpace.fail .endInObject
          | '\x7d' :: r'' => .ok ⟨name.value, ⟨r'', unit.next.skipSpace.offset + 1⟩, by
              simp only [he, hk, List.length_cons] at *; omega⟩
          | _ => unit.next.skipSpace.fail .noValue
      | _ => name.next.skipSpace.failNext .noColon
  | _ => c.skipSpace.failNext .noValue

/-- A list. -/
def readList {α : Type} (item : Reader α) : Reader (List α) := fun c =>
  match hc : c.skipSpace.rest with
  | '[' :: r =>
    (readItems item true ⟨r, c.skipSpace.offset + 1⟩).map (·.behindSpace hc)
  | _ => c.skipSpace.unexpected "a sequence"

/-! ## Records -/

/-- A record: its title, and its members in order, each with its reader and with
what it is when it is not given, `none` for those that must be. -/
structure Record (α : Type) where
  title : String
  members : List (String × Reader α × Option α)

namespace Record

variable {α : Type}

/-- The record as the shape that was expected. -/
def expected (r : Record α) : String := s!"struct {r.title}"

/-- The closing bracket after the last member. -/
def closeList {c : Cursor} (v : List α) (d : Cursor) (h : d.rest.length < c.rest.length) :
    Except SyntaxError (Read (List α) c) :=
  match hd : d.skipSpace.rest with
  | [] => d.skipSpace.fail .endInList
  | ']' :: r => .ok ⟨v, ⟨r, d.skipSpace.offset + 1⟩, Nat.lt_trans (d.length_of_skipSpace hd) h⟩
  | ',' :: r =>
    let behind := Cursor.skipSpace ⟨r, d.skipSpace.offset + 1⟩
    behind.failNext (if behind.rest.head? = some ']' then .trailingComma else .trailing)
  | _ => d.skipSpace.failNext .trailing

/-- The members of a record in a list, one after the other; `values` are those
before the cursor, last first. -/
def readInOrder (r : Record α) (values : List α) :
    List (String × Reader α × Option α) → (c d : Cursor) →
      d.rest.length < c.rest.length → Except SyntaxError (Read (List α) c)
  | [], _, d, h => closeList values.reverse d h
  | (_, item, _) :: more, c, d, h =>
    have hs := d.skipSpace_length
    match hd : d.skipSpace.rest with
    | [] => d.skipSpace.fail .endInList
    | ']' :: _ =>
      .error ⟨.shape (.length values.length s!"{r.expected} with {r.members.length} elements"),
        d.skipSpace.offset + 1⟩
    | ch :: rest =>
      if values.isEmpty then
        match item d.skipSpace with
        | .error e => .error e
        | .ok v => readInOrder r (v.value :: values) more c v.next (by have := v.shorter; omega)
      else if ch = ',' then
        let e := Cursor.skipSpace ⟨rest, d.skipSpace.offset + 1⟩
        have he : e.rest.length < c.rest.length := by
          have := Cursor.skipSpace_length ⟨rest, d.skipSpace.offset + 1⟩
          simp only [hd, List.length_cons] at hs; simp only [e] at *; omega
        if e.rest.isEmpty then e.fail .endInValue
        else if e.rest.head? = some ']' then e.failNext .trailingComma
        else
          match item e with
          | .error err => .error err
          | .ok v => readInOrder r (v.value :: values) more c v.next (by have := v.shorter; omega)
      else d.skipSpace.failNext .noListEnd

/-- Puts the members that were named in order. -/
def arrange (given : List (String × α)) (members : List (String × Reader α × Option α)) :
    Except Mismatch (List α) :=
  members.mapM fun (name, _, default) =>
    match given.lookup name, default with
    | some v, _ => .ok v
    | none, some v => .ok v
    | none, none => .error (.missing name)

/-- A member's name and the colon behind it; the members in `given` have been named
before. -/
def readMemberName (given : List (String × α)) : Reader String := fun c =>
  match hc : c.skipSpace.rest with
  | [] => c.skipSpace.fail .endInValue
  | '"' :: rest =>
    match readString ⟨rest, c.skipSpace.offset + 1⟩ with
    | .error e => .error e
    | .ok name =>
      have hn : name.next.rest.length < c.rest.length :=
        name.next_lt (Nat.le_of_lt (c.length_of_skipSpace hc))
      let stop := name.next.skipSpace
      -- A name twice is a fault of the record; it lies where the object could have ended.
      if (given.lookup name.value).isSome then
        .error ⟨.shape (.duplicate name.value),
          if stop.rest.head? = some '\x7d' then stop.offset + 1 else stop.offset⟩
      else
        match hk : name.next.skipSpace.rest with
        | [] => stop.fail .endInObject
        | ':' :: rest =>
          .ok ⟨name.value, ⟨rest, stop.offset + 1⟩,
            Nat.lt_trans (name.next.length_of_skipSpace hk) hn⟩
        | _ => stop.failNext .noColon
  | '\x7d' :: _ => c.skipSpace.failNext .trailingComma
  | _ => c.skipSpace.failNext .keyNoString

/-- The value behind a name, beside those before it. The value of a name that no
member has is passed over. -/
def readMember (r : Record α) (given : List (String × α)) (name : String) :
    Reader (List (String × α)) := fun c =>
  match r.members.lookup name with
  | some (item, _) => (item c).map (·.map fun v => given ++ [(name, v)])
  | none => (skipValue c).map (·.map fun _ => given)

/-- The fields of an object as members; `given` are those before the cursor. A
fault in the record as a whole lies where the object could have ended. -/
def readNamed (r : Record α) (given : List (String × α)) (before : Before) :
    Reader (List α) := fun c =>
  match hc : c.skipSpace.rest with
  | [] => c.skipSpace.fail .endInObject
  | ch :: rest =>
    let d : Cursor := ⟨rest, c.skipSpace.offset + 1⟩
    if ch = '\x7d' then
      match arrange given r.members with
      | .ok values => .ok ⟨values, d, c.length_of_skipSpace hc⟩
      | .error m => d.mismatch m
    else if before = .item ∧ ch ≠ ',' then c.skipSpace.failNext .noObjectEnd
    else
      match readMemberName given (itemStart before c rest) with
      | .error e => .error e
      | .ok name =>
        have hn : name.next.rest.length < c.rest.length := name.next_lt (itemStart_length before hc)
        match readMember r given name.value name.next with
        | .error e => .error e
        | .ok v =>
          have hv : v.next.rest.length < c.rest.length := Nat.lt_trans v.shorter hn
          (readNamed r v.value .item v.next).map (·.widen (Nat.le_of_lt hv))
termination_by c => c.rest.length

/-- The members of a record, from an object by name or from a list by place. -/
def read (r : Record α) : Reader (List α) := fun c =>
  match hc : c.skipSpace.rest with
  | '[' :: rest =>
    readInOrder r [] r.members c ⟨rest, c.skipSpace.offset + 1⟩ (c.length_of_skipSpace hc)
  | '\x7b' :: rest =>
    (readNamed r [] .bracket ⟨rest, c.skipSpace.offset + 1⟩).map (·.behindSpace hc)
  | _ => c.skipSpace.unexpected r.expected

end Record

/-- What a whole text holds, when it holds what the reader reads and nothing else. -/
def Reader.run {α : Type} (r : Reader α) (text : String) : Except Error α :=
  let result : Except SyntaxError α := do
    let v ← r (.ofText text.toList)
    v.next.finish
    return v.value
  result.mapError (·.locate text.toList)

end Failover.Json
