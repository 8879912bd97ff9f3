import Failover.Toml.Number
import Failover.Toml.Quoted
import Failover.Toml.Table

/-!
# TOML documents

A document is a sequence of lines: headers, which say which table the keys after
them belong to, and keys with values. Arrays may stretch over lines and end with a
comma, tables in braces may not. Values lie in each other at most 79 deep, and a
dotted key has at most 79 parts.
-/

namespace Failover.Toml

/-! ## Keys -/

/-- The character may stand in a key without quotes. -/
def isKeyChar (c : Char) : Bool := c.isAlphanum || c == '-' || c == '_'

/-- One part of a key. -/
def readKeyPart : Reader String := fun s =>
  if s.head? = some '"' ∨ s.head? = some '\'' then readKeyString s
  else Taken.of? (some (String.ofList (s.takeWhile isKeyChar), s.dropWhile isKeyChar))

/-- A key: parts between dots, with spaces around them. -/
def readKey (s : List Char) : Option (Taken (List String) s) :=
  match readKeyPart (skipSpace s) with
  | none => none
  | some part =>
    have hp : part.rest.length < s.length :=
      Nat.lt_of_lt_of_le part.shorter (skipSpace_length s)
    match h : skipSpace part.rest with
    | '.' :: r =>
      have hr : r.length < s.length := Nat.lt_trans (length_of_skipSpace h) hp
      (readKey r).map fun more => (more.map (part.value :: ·)).widen (Nat.le_of_lt hr)
    | _ =>
      some ⟨[part.value], skipSpace part.rest,
        Nat.lt_of_le_of_lt (skipSpace_length part.rest) hp⟩
termination_by s.length

/-- How deep values may lie in each other, and how many parts a key may have. -/
def maxDepth : Nat := 79

/-- A key as the path to its table and its last part. -/
def splitKey? (parts : List String) : Option (List String × String) :=
  if maxDepth < parts.length then none
  else parts.getLast?.map fun key => (parts.dropLast, key)

/-! ## Values -/

/-- The items of an array behind its bracket or behind a comma, with the closing
bracket. -/
def readItems (item : Reader Value) (s : List Char) : Option (Taken (List Value) s) :=
  match h : skipLines s with
  | ']' :: r => some ⟨[], r, length_of_skipLines h⟩
  | _ =>
    match item (skipLines s) with
    | none => none
    | some v =>
      have hv : v.rest.length < s.length := Nat.lt_of_lt_of_le v.shorter (skipLines_length s)
      match hc : skipLines v.rest with
      | ',' :: r =>
        have hr : r.length < s.length := Nat.lt_trans (length_of_skipLines hc) hv
        (readItems item r).map fun more => (more.map (v.value :: ·)).widen (Nat.le_of_lt hr)
      | ']' :: r => some ⟨[v.value], r, Nat.lt_trans (length_of_skipLines hc) hv⟩
      | _ => none
termination_by s.length

/-- A key, an equals sign and a value. -/
def readPair (item : Reader Value) : Reader (List String × Value) := fun s =>
  match readKey s with
  | none => none
  | some key =>
    match h : key.rest with
    | '=' :: r =>
      (item (skipSpace r)).map fun v =>
        (v.map (key.value, ·)).widen (by
          have := key.shorter
          have := skipSpace_length r
          rw [h] at *; simp only [List.length_cons] at *; omega)
    | _ => none

/-- The pairs of a table in braces behind its brace or behind a comma, with the
closing brace; `first` says that none was read yet. -/
def readPairs (item : Reader Value) (first : Bool) (s : List Char) :
    Option (Taken (List (List String × Value)) s) :=
  match h : skipSpace s with
  | '\x7d' :: r => if first then some ⟨[], r, length_of_skipSpace h⟩ else none
  | _ =>
    match readPair item (skipSpace s) with
    | none => none
    | some p =>
      have hp : p.rest.length < s.length := Nat.lt_of_lt_of_le p.shorter (skipSpace_length s)
      match hc : skipSpace p.rest with
      | ',' :: r =>
        have hr : r.length < s.length := Nat.lt_trans (length_of_skipSpace hc) hp
        (readPairs item false r).map fun more => (more.map (p.value :: ·)).widen (Nat.le_of_lt hr)
      | '\x7d' :: r => some ⟨[p.value], r, Nat.lt_trans (length_of_skipSpace hc) hp⟩
      | _ => none
termination_by s.length

/-- The table of pairs in braces. -/
def tableOfPairs? (pairs : List (List String × Value)) : Option Value :=
  (pairs.foldlM (fun entries (parts, v) =>
    (splitKey? parts).bind fun (path, key) => addDotted path key v .named entries)
    ([] : Entries)).map fun entries => .table (finishEntries entries)

/-- The word at the front of a text. -/
def readWord (word : String) (v : Value) : Reader Value := fun s =>
  if word.toList.isPrefixOf s then Taken.of? (some (v, s.drop word.toList.length)) else none

/-- A value that is no array and no table. -/
def readScalar : Reader Value := fun s =>
  if s.head? = some '"' ∨ s.head? = some '\'' then (readString s).map (·.map Value.string)
  else if s.head? = some 't' then readWord "true" (.boolean true) s
  else if s.head? = some 'f' then readWord "false" (.boolean false) s
  else Taken.of? (numeric? s)

/-- A value with arrays and tables at most `depth` deep. -/
def readValue : (depth : Nat) → Reader Value
  | 0 => fun s =>
    if s.head? = some '[' ∨ s.head? = some '\x7b' then none else readScalar s
  | depth + 1 => fun s =>
    match s with
    | '[' :: r => (readItems (readValue depth) r).map fun items =>
        (items.map Value.array).widen (by simp)
    | '\x7b' :: r =>
      (readPairs (readValue depth) true r).bind fun pairs =>
        (tableOfPairs? pairs.value).map fun table => (pairs.map fun _ => table).widen (by simp)
    | t => readScalar t

/-! ## Lines -/

/-- What is read so far: the entries of the document, and the header that the next
keys belong to. -/
structure Draft where
  entries : Entries := []
  header : List String := []

namespace Draft

/-- Changes the table of a path of headers. -/
def change? (d : Draft) (path : List String) (change : Change) : Option Draft :=
  (update .implied path .named d.entries change).map fun entries => { d with entries }

/-- Takes a header. -/
def withHeader? (d : Draft) (parts : List String) (name : String → Change) : Option Draft :=
  (splitKey? parts).bind fun (path, key) =>
    (d.change? path (name key)).map fun d => { d with header := parts }

/-- Takes a key with its value. -/
def withPair? (d : Draft) (parts : List String) (v : Value) : Option Draft :=
  (splitKey? parts).bind fun (path, key) => d.change? d.header (addDotted path key v)

end Draft

/-- What follows the name of a header. -/
def afterHeader? (closing : String) (s : List Char) : Option (List Char) :=
  if closing.toList.isPrefixOf s then afterLine? (s.drop closing.toList.length) else none

/-- A header: the draft with it, and what follows its line. -/
def readHeader? (d : Draft) (s : List Char) : Option (Draft × List Char) :=
  let read (r : List Char) (closing : String) (name : String → Change) :
      Option (Draft × List Char) :=
    (readKey r).bind fun key =>
      (afterHeader? closing key.rest).bind fun rest =>
        (d.withHeader? key.value name).map (·, rest)
  match s with
  | '[' :: '[' :: r => read r "]]" nameElement
  | '[' :: r => read r "]" nameTable
  | _ => none

/-- One line: the draft with it, and what follows. -/
def readLine? (d : Draft) (s : List Char) : Option (Draft × List Char) :=
  match s with
  | '[' :: _ => readHeader? d s
  | _ =>
    (readPair (readValue maxDepth) s).bind fun pair =>
      (afterLine? pair.rest).bind fun rest =>
        (d.withPair? pair.value.1 pair.value.2).map (·, rest)

/-- The lines of a document from here on. -/
def readDocument? (d : Draft) (s : List Char) : Option Draft :=
  match skipSpace s with
  | [] => some d
  | c :: r =>
    let next := if c = '#' ∨ c = '\n' ∨ c = '\r' then (afterLine? (c :: r)).map (d, ·)
      else readLine? d (c :: r)
    match next with
    | none => none
    | some (d, rest) => if _h : rest.length < s.length then readDocument? d rest else none
termination_by s.length

/-- The table that a document is. A mark of the byte order in front is left out. -/
def Value.parse? (text : String) : Option Value :=
  let s := match text.toList with
    | '\ufeff' :: r => r
    | s => s
  (readDocument? {} s).map fun d => .table (finishEntries d.entries)

end Failover.Toml
