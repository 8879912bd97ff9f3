import Mathlib.Data.Int.CardIntervalMod
import Failover.Proofs.Pool

/-!
# Going round

The members of a pool stand in a ring, and `Pool.ahead?` goes along it from the one whose
turn it is. No member is in it twice, so the places of a member are one residue class
modulo their number (`ahead?_eq_some_iff`). What follows is all that a rotation promises:
in one round everybody has a turn (`exists_ahead?_of_mem`) and nobody has two
(`ahead?_inj`), and after any number of turns no member is more than one ahead of another
(`countP_ahead?_le`).
-/

namespace Failover.Pool

variable {p : Pool} {s : Server} {i j : Nat}

theorem mem_of_ahead? (h : p.ahead? i = some s) : s ∈ p.members :=
  List.mem_of_getElem? h

theorem length_pos_of_ahead? (h : p.ahead? i = some s) : 0 < p.members.length :=
  List.length_pos_of_mem (mem_of_ahead? h)

/-- A member comes round again after as many places as there are members. -/
theorem ahead?_eq_some_iff (hd : p.members.Nodup) (h : p.ahead? i = some s) :
    p.ahead? j = some s ↔ j ≡ i [MOD p.members.length] := by
  have hlt := Nat.mod_lt (p.cursor.toNat + j) (length_pos_of_ahead? h)
  constructor
  · intro hj
    have hsame : (p.cursor.toNat + j) % p.members.length =
        (p.cursor.toNat + i) % p.members.length :=
      (List.getElem?_inj hlt hd).1 (hj.trans h.symm)
    exact Nat.ModEq.add_left_cancel' p.cursor.toNat hsame
  · intro hji
    have hsame : (p.cursor.toNat + j) % p.members.length =
        (p.cursor.toNat + i) % p.members.length := Nat.ModEq.add_left p.cursor.toNat hji
    unfold ahead? at h ⊢
    rw [hsame, h]

/-- In one round nobody has two turns. -/
theorem ahead?_inj (hd : p.members.Nodup) (hi : i < p.members.length)
    (hj : j < p.members.length) (h : p.ahead? i = some s) (h' : p.ahead? j = some s) : i = j :=
  (Nat.ModEq.eq_of_lt_of_lt ((ahead?_eq_some_iff hd h).1 h') hj hi).symm

/-- In one round everybody has a turn. -/
theorem exists_ahead?_of_mem (h : s ∈ p.members) :
    ∃ i < p.members.length, p.ahead? i = some s := by
  obtain ⟨k, hk, hs⟩ := List.getElem_of_mem h
  let n := p.members.length
  let c := p.cursor.toNat
  have hpos : 0 < n := Nat.lt_of_le_of_lt (Nat.zero_le _) hk
  -- From the turn to the end of the list, and from its beginning to the member.
  refine ⟨(k + (n - c % n)) % n, Nat.mod_lt _ hpos, ?_⟩
  have hplace : (c + (k + (n - c % n)) % n) % n = k := by
    have hround : c + (k + (n - c % n)) = k + n * (c / n + 1) := by
      have hc := Nat.div_add_mod c n
      have hlt := Nat.mod_lt c hpos
      rw [Nat.mul_add, Nat.mul_one]
      omega
    rw [Nat.add_mod_mod, hround, Nat.add_mul_mod_self_left, Nat.mod_eq_of_lt hk]
  show p.members[(c + (k + (n - c % n)) % n) % n]? = some s
  rw [hplace, List.getElem?_eq_getElem hk, hs]

/-- The first `k` turns, counted for a member: as many as there are full rounds, and
perhaps one more. -/
theorem countP_ahead? (hd : p.members.Nodup) (h : s ∈ p.members) (k : Nat) :
    (List.range k).countP (fun j => p.ahead? j = some s) = k / p.members.length ∨
      (List.range k).countP (fun j => p.ahead? j = some s) = k / p.members.length + 1 := by
  obtain ⟨i, hi, hs⟩ := exists_ahead?_of_mem h
  have hpos : 0 < p.members.length := Nat.lt_of_le_of_lt (Nat.zero_le _) hi
  have hcount : (List.range k).countP (fun j => p.ahead? j = some s) =
      k.count (· ≡ i [MOD p.members.length]) := by
    rw [Nat.count_eq_card_filter_range, List.countP_eq_length_filter]
    simp only [ahead?_eq_some_iff hd hs]
    rfl
  rw [hcount, Nat.count_modEq_card k hpos i]
  split
  · exact Or.inr rfl
  · exact Or.inl rfl

/-- **Nobody is passed over.** After any number of turns two members have had equally many,
or one of them one more than the other. -/
theorem countP_ahead?_le (hd : p.members.Nodup) {s' : Server} (h : s ∈ p.members)
    (h' : s' ∈ p.members) (k : Nat) :
    (List.range k).countP (fun j => p.ahead? j = some s) ≤
      (List.range k).countP (fun j => p.ahead? j = some s') + 1 := by
  rcases countP_ahead? hd h k with hs | hs <;> rcases countP_ahead? hd h' k with hs' | hs' <;>
    omega

end Failover.Pool
