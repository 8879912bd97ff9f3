/-!
# Base 64

Bytes written with 64 characters, six bits to a character. Three bytes make four
characters; what is missing in the last group is marked by `=`.
-/

namespace Failover.Text.Base64

def alphabet : List Char :=
  "ABCDEFGHIJKLMNOPQRSTUVWXYZabcdefghijklmnopqrstuvwxyz0123456789+/".toList

/-- The character for six bits. -/
def digit (n : Nat) : Char := alphabet.getD (n % 64) 'A'

/-- The characters of a group of up to three bytes. -/
def group (a b c : UInt8) : List Char :=
  let n := a.toNat * 65536 + b.toNat * 256 + c.toNat
  [digit (n / 262144), digit (n / 4096), digit (n / 64), digit n]

def encode : List UInt8 → List Char
  | a :: b :: c :: r => group a b c ++ encode r
  | [a, b] => (group a b 0).take 3 ++ ['=']
  | [a] => (group a 0 0).take 2 ++ ['=', '=']
  | [] => []

end Failover.Text.Base64
