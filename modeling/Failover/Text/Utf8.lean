/-!
# Reading bytes as text

A response body is bytes; the client reads it as text and puts U+FFFD in the
place of what is no UTF-8, one for each maximal piece that could have begun a
character. `decodeLossy` is that reading, `decode?` the strict one, for which a
single bad byte spoils the whole.
-/

namespace Failover.Text.Utf8

/-- The bytes of a text. -/
def encode (cs : List Char) : List UInt8 :=
  cs.flatMap String.utf8EncodeChar

/-- What stands at the head of a byte string: a character, or bytes that are
none. Either way `rest` is what comes after. -/
inductive Head where
  | char (c : Char) (rest : List UInt8)
  | broken (rest : List UInt8)

/-- The bytes after the first that may follow it: how many, and the bounds of the
next one. The bounds exclude overlong forms, surrogates and what lies beyond
U+10FFFF. -/
def tail? (b : UInt8) : Option (Nat × UInt8 × UInt8) :=
  if 0xC2 ≤ b ∧ b ≤ 0xDF then some (1, 0x80, 0xBF)
  else if b = 0xE0 then some (2, 0xA0, 0xBF)
  else if b = 0xED then some (2, 0x80, 0x9F)
  else if 0xE1 ≤ b ∧ b ≤ 0xEF then some (2, 0x80, 0xBF)
  else if b = 0xF0 then some (3, 0x90, 0xBF)
  else if 0xF1 ≤ b ∧ b ≤ 0xF3 then some (3, 0x80, 0xBF)
  else if b = 0xF4 then some (3, 0x80, 0x8F)
  else none

/-- Takes `n` further bytes onto the code point so far; the first of them lies
between `lo` and `hi`, the others are any continuation bytes. -/
def continuation : Nat → UInt8 → UInt8 → Nat → List UInt8 → Head
  | 0, _, _, code, rest => .char (Char.ofNat code) rest
  | _ + 1, _, _, _, [] => .broken []
  | n + 1, lo, hi, code, b :: rest =>
    if lo ≤ b ∧ b ≤ hi then continuation n 0x80 0xBF (code * 64 + (b.toNat - 0x80)) rest
    else .broken (b :: rest)

/-- The bits of a first byte that belong to the code point, by the number of
bytes that follow. -/
def leadBits (n : Nat) (b : UInt8) : Nat :=
  b.toNat - match n with
    | 1 => 0xC0
    | 2 => 0xE0
    | _ => 0xF0

/-- The character at the head of a byte string that is not empty. -/
def head (b : UInt8) (rest : List UInt8) : Head :=
  if b < 0x80 then .char (Char.ofNat b.toNat) rest
  else
    match tail? b with
    | none => .broken rest
    | some (n, lo, hi) => continuation n lo hi (leadBits n b) rest

/-- What is left after the head. -/
def Head.rest : Head → List UInt8
  | .char _ rest => rest
  | .broken rest => rest

theorem continuation_rest_length (n : Nat) (lo hi : UInt8) (code : Nat) (bs : List UInt8) :
    (continuation n lo hi code bs).rest.length ≤ bs.length := by
  induction n generalizing lo hi code bs with
  | zero => simp [continuation, Head.rest]
  | succ n ih =>
    cases bs with
    | nil => simp [continuation, Head.rest]
    | cons b r =>
      rw [continuation]
      split
      · exact Nat.le_succ_of_le (ih ..)
      · simp [Head.rest]

/-- Reading a head takes at least its first byte. -/
theorem head_rest_length (b : UInt8) (rest : List UInt8) :
    (head b rest).rest.length ≤ rest.length := by
  rw [head]
  split
  · simp [Head.rest]
  · split
    · simp [Head.rest]
    · exact continuation_rest_length ..

/-- The text of a byte string, with U+FFFD for each piece that is no character. -/
def decodeLossy : List UInt8 → List Char
  | [] => []
  | b :: rest =>
    match _h : head b rest with
    | .char c r => c :: decodeLossy r
    | .broken r => '\ufffd' :: decodeLossy r
termination_by bs => bs.length
decreasing_by
  all_goals
    have := head_rest_length b rest
    rw [_h] at this
    simp only [Head.rest] at this
    simp only [List.length_cons]
    omega

/-- The text of a byte string that is UTF-8. -/
def decode? : List UInt8 → Option (List Char)
  | [] => some []
  | b :: rest =>
    match _h : head b rest with
    | .char c r => (decode? r).map (c :: ·)
    | .broken _ => none
termination_by bs => bs.length
decreasing_by
  have := head_rest_length b rest
  rw [_h] at this
  simp only [Head.rest] at this
  simp only [List.length_cons]
  omega

end Failover.Text.Utf8
