/-!
# Numerals

Numbers written with the digits `0` to `9` and the letters `a` to `f` of either
case, in a base up to sixteen, the most significant digit first. A numeral has at
least one digit, and nothing else in it.
-/

namespace Failover.Text

/-- The value of a digit in base sixteen. -/
def hexValue? (c : Char) : Option Nat :=
  if c.isDigit then some (c.toNat - '0'.toNat)
  else if 'a' ≤ c ∧ c ≤ 'f' then some (c.toNat - 'a'.toNat + 10)
  else if 'A' ≤ c ∧ c ≤ 'F' then some (c.toNat - 'A'.toNat + 10)
  else none

/-- The value of a digit in a base. -/
def digitValue? (base : Nat) (c : Char) : Option Nat :=
  (hexValue? c).filter (· < base)

/-- The number that digits write. -/
def ofDigits (base : Nat) (ds : List Nat) : Nat :=
  ds.foldl (fun n d => base * n + d) 0

/-- The number that the digits in a text write, perhaps none. -/
def digitsNumber? (base : Nat) (cs : List Char) : Option Nat :=
  (cs.mapM (digitValue? base)).map (ofDigits base)

/-- The number that a numeral writes. -/
def numeral? (base : Nat) (cs : List Char) : Option Nat :=
  if cs.isEmpty then none else digitsNumber? base cs

/-- One of the sixteen digits, in small letters. -/
def hexDigit (n : Nat) : Char := Nat.digitChar n

theorem digitValue?_lt {base : Nat} {c : Char} {d : Nat} (h : digitValue? base c = some d) :
    d < base := by
  simp only [digitValue?, Option.filter_eq_some_iff, decide_eq_true_eq] at h
  exact h.2

theorem hexValue?_hexDigit : ∀ n < 16, hexValue? (hexDigit n) = some n := by decide

/-! ## Readings of every item -/

section

variable {α β : Type} {f : α → Option β} {xs : List α} {ys : List β}

/-- The items are read one by one. -/
theorem mapM_eq_some : xs.mapM f = some ys ↔ xs.map f = ys.map some := by
  induction xs generalizing ys with
  | nil =>
    cases ys with
    | nil => exact ⟨fun _ => rfl, fun _ => rfl⟩
    | cons y ys => simp
  | cons x r ih =>
    rw [List.mapM_cons, List.map_cons]
    cases ys with
    | nil => cases f x <;> cases r.mapM f <;> simp
    | cons y ys =>
      rw [List.map_cons, List.cons.injEq, ← ih]
      cases f x <;> cases r.mapM f <;> simp

/-- An item that cannot be read spoils the whole. -/
theorem mapM_eq_none {x : α} (hx : x ∈ xs) (h : f x = none) : xs.mapM f = none := by
  cases hall : xs.mapM f with
  | none => rfl
  | some ys =>
    have hmem : f x ∈ ys.map some := mapM_eq_some.1 hall ▸ List.mem_map_of_mem hx
    rw [h] at hmem
    simp at hmem

end

/-! ## The digits of a number -/

/-- One more digit at the end. -/
theorem digitsNumber?_concat (base : Nat) (cs : List Char) (c : Char) :
    digitsNumber? base (cs ++ [c]) =
      (digitsNumber? base cs).bind fun n => (digitValue? base c).map fun d => base * n + d := by
  unfold digitsNumber?
  rw [List.mapM_append]
  cases cs.mapM (digitValue? base) with
  | none => rfl
  | some ds =>
    cases hc : digitValue? base c with
    | none => simp [hc]
    | some d => simp [hc, ofDigits]

theorem digitValue?_hexDigit {base d : Nat} (hbase : base ≤ 16) (hd : d < base) :
    digitValue? base (hexDigit d) = some d := by
  rw [digitValue?, hexValue?_hexDigit d (by omega), Option.filter_some]
  simp [hd]

/-- The digits of a number write it. -/
theorem digitsNumber?_toDigits {base : Nat} (hlo : 1 < base) (hhi : base ≤ 16) (n : Nat) :
    digitsNumber? base (Nat.toDigits base n) = some n := by
  induction n using Nat.strongRecOn with
  | ind n ih =>
    by_cases h : n < base
    · have hd := digitValue?_hexDigit hhi h
      rw [hexDigit] at hd
      rw [Nat.toDigits_of_lt_base h, digitsNumber?]
      simp [hd, ofDigits]
    · have hmod := digitValue?_hexDigit hhi (Nat.mod_lt n (by omega))
      rw [hexDigit] at hmod
      rw [Nat.toDigits_of_base_le hlo (by omega), digitsNumber?_concat,
        ih (n / base) (Nat.div_lt_self (by omega) hlo), hmod]
      simp [Nat.div_add_mod]

/-- The digits of a number are digits below the base. -/
theorem exists_hexDigit_of_mem_toDigits {base n : Nat} {c : Char} (hbase : 1 < base)
    (h : c ∈ Nat.toDigits base n) : ∃ d < base, c = hexDigit d := by
  induction n using Nat.strongRecOn with
  | ind n ih =>
    by_cases hlt : n < base
    · rw [Nat.toDigits_of_lt_base hlt, List.mem_singleton] at h
      exact ⟨n, hlt, h⟩
    · rw [Nat.toDigits_of_base_le hbase (by omega), List.mem_append, List.mem_singleton] at h
      rcases h with h | h
      · exact ih (n / base) (Nat.div_lt_self (by omega) hbase) h
      · exact ⟨n % base, Nat.mod_lt n (by omega), h⟩

/-- So many digits write a number below that power of the base. -/
theorem ofDigits_lt {base : Nat} {ds : List Nat} (h : ∀ d ∈ ds, d < base) :
    ofDigits base ds < Nat.pow base ds.length := by
  -- The digits so far are one of the numbers below a bound that grows with every digit.
  have hfold : ∀ (ds : List Nat) (n : Nat), (∀ d ∈ ds, d < base) →
      ds.foldl (fun n d => base * n + d) n < (n + 1) * Nat.pow base ds.length := by
    intro ds
    induction ds with
    | nil => intro n _; simp
    | cons d r ih =>
      intro n h
      have hd := h d List.mem_cons_self
      calc r.foldl (fun n d => base * n + d) (base * n + d)
          < (base * n + d + 1) * Nat.pow base r.length :=
            ih _ fun e he => h e (List.mem_cons_of_mem _ he)
        _ ≤ (base * (n + 1)) * Nat.pow base r.length :=
            Nat.mul_le_mul_right _ (by rw [Nat.mul_succ]; omega)
        _ = (n + 1) * (Nat.pow base r.length * base) := by
            rw [Nat.mul_comm base, Nat.mul_assoc, Nat.mul_comm base]
  simpa [ofDigits] using hfold ds 0 h

theorem digitsNumber?_lt {base n : Nat} {cs : List Char} (h : digitsNumber? base cs = some n) :
    n < Nat.pow base cs.length := by
  obtain ⟨ds, hds, rfl⟩ := Option.map_eq_some_iff.1 h
  rw [mapM_eq_some] at hds
  have hlength : ds.length = cs.length := by simpa using (congrArg List.length hds).symm
  rw [← hlength]
  refine ofDigits_lt fun d hd => ?_
  have hmem : some d ∈ cs.map (digitValue? base) := hds ▸ List.mem_map_of_mem hd
  obtain ⟨c, -, hc⟩ := List.mem_map.1 hmem
  exact digitValue?_lt hc

end Failover.Text
