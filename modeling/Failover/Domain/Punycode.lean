/-!
# Labels in ASCII

The domain name system carries letters, digits and hyphens. A label with other
characters travels as its ASCII characters, a hyphen, and the rest of its
characters written as a run of differences in base 36, each digit's weight
adapting to the differences before it. `encode` and `decode?` are the two
directions.

The differences count positions and code points at once: with `k` characters in
place, a difference of `d` moves the next code point up by `d / (k + 1)` and puts
it at position `d % (k + 1)`. Nothing here consults a table of characters.
-/

namespace Failover.Domain.Punycode

/-- The character of a digit: `a` to `z`, then `0` to `9`. -/
def digitChar (d : Nat) : Char :=
  if d < 26 then Char.ofNat ('a'.toNat + d) else Char.ofNat ('0'.toNat + (d - 26))

/-- The digit that a character stands for. -/
def digit? (c : Char) : Option Nat :=
  if 'a' ≤ c ∧ c ≤ 'z' then some (c.toNat - 'a'.toNat)
  else if '0' ≤ c ∧ c ≤ '9' then some (c.toNat - '0'.toNat + 26)
  else none

theorem digit?_digitChar {d : Nat} (h : d < 36) : digit? (digitChar d) = some d := by
  have all : ∀ e ∈ List.range 36, digit? (digitChar e) = some e := by decide
  exact all d (List.mem_range.2 h)

/-- Where the digit at place `k` (36, 72, …) ends the number: below this value. -/
def threshold (k bias : Nat) : Nat :=
  if k ≤ bias + 1 then 1 else if bias + 26 ≤ k then 26 else k - bias

theorem threshold_pos (k bias : Nat) : 1 ≤ threshold k bias := by
  rw [threshold]; repeat' split
  all_goals omega

theorem threshold_le (k bias : Nat) : threshold k bias ≤ 26 := by
  rw [threshold]; repeat' split
  all_goals omega

/-- Divides by 35 down to at most 455, counting 36 for each division. -/
def scaleDown (delta k : Nat) : Nat × Nat :=
  if 455 < delta then scaleDown (delta / 35) (k + 36) else (delta, k)
termination_by delta

/-- The bias after a difference, for `points` characters in place. The first
difference is damped strongly, since it carries the whole way from ASCII. -/
def adapt (delta points : Nat) (first : Bool) : Nat :=
  let halved := if first then delta / 700 else delta / 2
  let (d, k) := scaleDown (halved + halved / points) 0
  k + 36 * d / (d + 38)

/-- A number as digits, lowest place first, ending below its threshold. -/
def encodeNumber (bias k q : Nat) : List Char :=
  let t := threshold k bias
  if q < t then [digitChar q]
  else digitChar (t + (q - t) % (36 - t)) :: encodeNumber bias (k + 36) ((q - t) / (36 - t))
termination_by q
decreasing_by
  have := threshold_pos k bias
  exact Nat.lt_of_le_of_lt (Nat.div_le_self _ _) (by omega)

/-- What encoding has behind it: the digits, the code point in work, the
difference so far, the bias, and how many characters are in place. -/
structure Encoding where
  out : List Char
  point : Nat
  delta : Nat
  bias : Nat
  placed : Nat

namespace Encoding

/-- Passes one character of the label while `point` is in work. -/
def pass (basic : Nat) (s : Encoding) (c : Char) : Encoding :=
  if c.toNat < s.point then { s with delta := s.delta + 1 }
  else if c.toNat = s.point then
    { s with
      out := s.out ++ encodeNumber s.bias 36 s.delta
      delta := 0
      bias := adapt s.delta (s.placed + 1) (s.placed == basic)
      placed := s.placed + 1 }
  else s

/-- Brings the next code point into work, passes the label, and moves on. -/
def place (label : List Char) (basic : Nat) (s : Encoding) (point : Nat) : Encoding :=
  let s := label.foldl (pass basic)
    { s with delta := s.delta + (point - s.point) * (s.placed + 1), point := point }
  { s with delta := s.delta + 1, point := point + 1 }

end Encoding

/-- Puts a number into an ascending list, unless it is there. -/
def insertNew (n : Nat) : List Nat → List Nat
  | [] => [n]
  | m :: r => if n < m then n :: m :: r else if n = m then m :: r else m :: insertNew n r

/-- A label in ASCII, without the mark that says so. -/
def encode (label : List Char) : List Char :=
  let basic := label.filter (·.toNat < 0x80)
  let points := (label.filter (0x80 ≤ ·.toNat)).foldr (fun c ns => insertNew c.toNat ns) []
  let start : Encoding := ⟨[], 0x80, 0, 72, basic.length⟩
  basic ++ (if basic.isEmpty then [] else ['-']) ++
    (points.foldl (Encoding.place label basic.length) start).out

/-- Reads one number: the value added to `sum`, and what is left of the digits. -/
def decodeNumber (bias : Nat) : Nat → Nat → Nat → List Char → Option (Nat × List Char)
  | _, _, _, [] => none
  | k, weight, sum, c :: r =>
    match digit? c with
    | none => none
    | some d =>
      let t := threshold k bias
      let sum := sum + d * weight
      if d < t then some (sum, r) else decodeNumber bias (k + 36) (weight * (36 - t)) sum r

theorem decodeNumber_length {bias k weight sum : Nat} {cs r : List Char} {n : Nat}
    (h : decodeNumber bias k weight sum cs = some (n, r)) : r.length < cs.length := by
  induction cs generalizing k weight sum with
  | nil => simp [decodeNumber] at h
  | cons c cs ih =>
    rw [decodeNumber] at h
    split at h
    · simp at h
    · dsimp only at h
      split at h
      · cases h; simp
      · exact Nat.lt_succ_of_lt (ih h)

/-- A code point that is a character outside ASCII. -/
def isPoint (n : Nat) : Bool :=
  (0x80 ≤ n && n < 0xD800) || (0xE000 ≤ n && n < 0x110000)

/-- Reads differences and puts their characters in place. -/
def decodeLoop (point pos bias : Nat) (first : Bool) (label : List Char) :
    List Char → Option (List Char)
  | [] => some label
  | c :: cs =>
    match _h : decodeNumber bias 36 1 pos (c :: cs) with
    | none => none
    | some (i, rest) =>
      let size := label.length + 1
      let next := point + i / size
      if isPoint next then
        let at' := i % size
        decodeLoop next (at' + 1) (adapt (i - pos) size first) false
          (label.take at' ++ Char.ofNat next :: label.drop at') rest
      else none
termination_by cs => cs.length
decreasing_by exact decodeNumber_length _h

/-- The label that an ASCII form stands for. -/
def decode? (cs : List Char) : Option (List Char) :=
  let fromEnd := cs.reverse
  let tail := (fromEnd.takeWhile (· != '-')).reverse
  let basic := ((fromEnd.dropWhile (· != '-')).drop 1).reverse
  if basic.isEmpty then decodeLoop 0x80 0 72 true [] cs
  else if basic.all (·.toNat < 0x80) then decodeLoop 0x80 0 72 true basic tail
  else none

end Failover.Domain.Punycode
