import Failover.Proofs.Membership
import Failover.Proofs.Rotation

/-!
# The turn of a pool under any use of it

A pool can be asked for the next server, be given other members, lose one of them and go back to
its bootstrap servers, in any order and any number of times. Through all of this its counter
shows how often it was asked since the membership last changed, modulo `2 ^ 64`
(`Roster.cursor_operate`, for every operation), so the whole past of a pool is in one number.

While the counter does not come round the turns go along the ring of members, and in a round
everybody has one turn. When it does come round the ring is entered at its beginning, from
wherever the counter ended. That is the place to go on at if the number of members divides
`2 ^ 64` (`Pool.turn?_of_dvd`), and otherwise some member has two turns in the round that was
broken off (`Pool.exists_turn?_eq`). `Roster.run_rotates` puts both together.
-/

namespace Failover

/-! ## Turns around the end of the counter -/

namespace Pool

variable {p : Pool} {i j : Nat}

/-- The place of a turn: the counter comes round first, and then the ring. -/
theorem turn?_eq (p : Pool) (i : Nat) :
    p.turn? i = p.members[(p.cursor.toNat + i) % 2 ^ 64 % p.members.length]? := by
  unfold turn?
  rw [UInt64.toNat_add, UInt64.toNat_ofNat', Nat.add_mod_mod]

/-- A number of members that divides the numbers of the counter lets both come round together. -/
theorem turn?_of_dvd (h : p.members.length ∣ 2 ^ 64) (i : Nat) : p.turn? i = p.ahead? i := by
  rw [turn?_eq, Nat.mod_mod_of_dvd _ h, ahead?]

/-- A counter modulo `N` that is taken modulo `n` comes to one number twice in `n` steps, if it
comes round in them and `n` is no divisor of `N`. -/
theorem exists_mod_mod_eq {N n c : ℕ} (hc : c < N) (hwraps : N < c + n) (h : ¬ n ∣ N) :
    ∃ i j, i < j ∧ j < n ∧ (c + i) % N % n = (c + j) % N % n := by
  have hpos : 0 < N % n := Nat.pos_of_ne_zero fun hzero => h (Nat.dvd_of_mod_eq_zero hzero)
  have hless : N % n < n := Nat.mod_lt _ (by omega)
  have hround := Nat.div_add_mod N n
  -- The counter has `m` steps left, and `r` are missing to a whole number of rounds.
  obtain ⟨m, rfl⟩ : ∃ m, N = c + m := ⟨N - c, by omega⟩
  obtain ⟨r, hr⟩ : ∃ r, (c + m) % n = r := ⟨_, rfl⟩
  rw [hr] at hpos hless hround
  by_cases hfew : m ≤ r
  · -- The number at the beginning is `r - m`, and so is the one that many steps behind the end.
    refine ⟨0, r, hpos, hless, ?_⟩
    have hfirst : c = n * ((c + m) / n) + (r - m) := by omega
    have hsecond : c + r = (c + m) + (r - m) := by omega
    have hrest : (r - m) % (c + m) = r - m := Nat.mod_eq_of_lt (by omega)
    rw [hsecond, Nat.add_mod_left, hrest, Nat.add_zero, Nat.mod_eq_of_lt hc]
    nth_rewrite 1 [hfirst]
    rw [Nat.mul_add_mod]
  · -- The last whole round begins before the end, and the first one at it.
    refine ⟨m - r, m, by omega, by omega, ?_⟩
    have hfirst : c + (m - r) = n * ((c + m) / n) := by omega
    have hlt : n * ((c + m) / n) < c + m := by omega
    rw [hfirst, Nat.mod_eq_of_lt hlt, Nat.mul_mod_right, Nat.mod_self, Nat.zero_mod]

/-- If both do not, a round in which the counter comes round has two turns at one place. -/
theorem exists_turn?_eq (hwraps : 2 ^ 64 < p.cursor.toNat + p.members.length)
    (h : ¬ p.members.length ∣ 2 ^ 64) :
    ∃ i j, i < j ∧ j < p.members.length ∧ p.turn? i = p.turn? j := by
  obtain ⟨i, j, hij, hj, hsame⟩ := exists_mod_mod_eq p.cursor.toNat_lt hwraps h
  exact ⟨i, j, hij, hj, by rw [turn?_eq, turn?_eq, hsame]⟩

/-! ## One round -/

/-- In a round that goes along the ring everybody has one turn. -/
theorem count_turns (hd : p.members.Nodup) (hring : ∀ i < p.members.length, p.turn? i = p.ahead? i)
    {s : Server} (hs : s ∈ p.members) :
    ((List.range p.members.length).map p.turn?).count (some s) = 1 := by
  have hturns : (List.range p.members.length).map p.turn? =
      (List.range p.members.length).map p.ahead? :=
    List.map_congr_left fun i hi => hring i (List.mem_range.1 hi)
  rw [hturns]
  refine List.count_eq_one_of_mem (List.nodup_range.map_on fun i hi j hj hsame => ?_) ?_
  · rw [List.mem_range] at hi hj
    obtain ⟨x, hx⟩ := exists_turn? (List.ne_nil_of_mem hs) i
    rw [hring i hi] at hx
    exact ahead?_inj hd hi hj hx (hsame ▸ hx)
  · obtain ⟨i, hi, hturn⟩ := exists_ahead?_of_mem hs
    exact List.mem_map.2 ⟨i, List.mem_range.2 hi, hturn⟩

/-- Where everybody has one turn no two turns are alike. -/
theorem turn?_inj_of_count
    (hone : ∀ s ∈ p.members, ((List.range p.members.length).map p.turn?).count (some s) = 1)
    (hi : i < p.members.length) (hj : j < p.members.length) (hsame : p.turn? i = p.turn? j) :
    i = j := by
  have hmembers : p.members ≠ [] := List.ne_nil_of_length_pos (by omega)
  have hnodup : ((List.range p.members.length).map p.turn?).Nodup := by
    rw [List.nodup_iff_count_le_one]
    intro x
    by_cases hx : x ∈ (List.range p.members.length).map p.turn?
    · obtain ⟨k, -, rfl⟩ := List.mem_map.1 hx
      obtain ⟨s, hs⟩ := exists_turn? hmembers k
      rw [hs, hone s (mem_of_turn? hs)]
    · rw [List.count_eq_zero_of_not_mem hx]
      exact Nat.zero_le 1
  exact List.inj_on_of_nodup_map hnodup (List.mem_range.2 hi) (List.mem_range.2 hj) hsame

end Pool

/-! ## Any use of a pool -/

namespace Roster

/-- What can be done with a pool. -/
inductive Operation where
  | next
  | replace (servers : List Server)
  | evict (server : Server)
  | reset
  deriving DecidableEq

/-- What an operation makes of a roster. -/
def operate (r : Roster) : Operation → Roster
  | .next =>
    match r.next with
    | .ok (_, r') => r'
    | .error _ => r
  | .replace servers => r.replace servers
  | .evict server => (r.evict server).2
  | .reset => r.reset

/-- The operation changes the membership. To take out a server that is no member does not. -/
def alters (r : Roster) : Operation → Bool
  | .next => false
  | .evict server => (r.evict server).1
  | .replace _ | .reset => true

/-- Operations one after the other. -/
def run (r : Roster) (operations : List Operation) : Roster :=
  operations.foldl operate r

/-- The servers that are given out in the course of operations. -/
def given (r : Roster) : List Operation → List Server
  | [] => []
  | .next :: rest =>
    match r.next with
    | .ok (server, r') => server :: r'.given rest
    | .error _ => r.given rest
  | operation :: rest => (r.operate operation).given rest

/-- How often the pool was asked for a server since the membership last changed, if it was
asked `n` times before these operations. -/
def askedSince (r : Roster) (n : Nat) : List Operation → Nat
  | [] => n
  | operation :: rest =>
    (r.operate operation).askedSince
      (if r.alters operation then 0 else if operation = .next then n + 1 else n) rest

/-- None of the operations changes the membership. -/
def Undisturbed (r : Roster) : List Operation → Prop
  | [] => True
  | operation :: rest => r.alters operation = false ∧ (r.operate operation).Undisturbed rest

variable {r : Roster} {initial : List Server} {latest : Option (List Server)}

theorem operate_next (h : r.pool.members ≠ []) :
    ∃ s, r.pool.turn? 0 = some s ∧ r.next = .ok (s, { r with pool := r.pool.advance }) ∧
      r.operate .next = { r with pool := r.pool.advance } := by
  obtain ⟨s, hs⟩ := Pool.exists_turn? h 0
  have hnext := next_of_turn? hs
  refine ⟨s, hs, hnext, ?_⟩
  unfold operate
  rw [hnext]

/-- Other operations that change no membership change nothing. -/
theorem operate_of_not_alters {operation : Operation} (hne : operation ≠ .next)
    (h : r.alters operation = false) : r.operate operation = r := by
  cases operation with
  | next => exact absurd rfl hne
  | replace servers => cases h
  | reset => cases h
  | evict server =>
    simp only [alters, operate, evict] at h ⊢
    split at h
    · cases h
    next hnot => rw [if_neg hnot]

/-- A change of the membership begins with the first member. -/
theorem cursor_of_alters {operation : Operation} (h : r.alters operation = true) :
    (r.operate operation).pool.cursor = 0 := by
  cases operation with
  | next => cases h
  | replace servers => rfl
  | reset => rfl
  | evict server =>
    simp only [alters, operate, evict] at h ⊢
    split at h
    next hmem =>
      rw [if_pos hmem]
      rfl
    · cases h

/-- Every operation is one of the changes that keep a roster sound. -/
theorem Sound.operate (h : r.Sound initial latest) (operation : Operation) :
    ∃ latest', (r.operate operation).Sound initial latest' := by
  cases operation with
  | next =>
    obtain ⟨s, -, -, hnext⟩ := operate_next h.stocked.members
    rw [hnext]
    exact ⟨_, r.change_advance.sound h⟩
  | replace servers => exact ⟨_, (r.change_replace servers).sound h⟩
  | evict server => exact ⟨_, (r.change_evict server).sound h⟩
  | reset => exact ⟨_, r.change_reset.sound h⟩

/-- The counter shows how often the pool was asked since the membership last changed. -/
theorem cursor_operate (h : r.Sound initial latest) {n : Nat}
    (hcursor : r.pool.cursor = UInt64.ofNat n) (operation : Operation) :
    (r.operate operation).pool.cursor = UInt64.ofNat
      (if r.alters operation then 0 else if operation = .next then n + 1 else n) := by
  cases haltered : r.alters operation with
  | true =>
    rw [if_pos rfl, cursor_of_alters haltered]
    rfl
  | false =>
    rw [if_neg Bool.false_ne_true]
    by_cases hnext : operation = .next
    · subst hnext
      obtain ⟨s, -, -, hroster⟩ := operate_next h.stocked.members
      rw [if_pos rfl, hroster, Pool.advance, hcursor]
      exact (UInt64.ofNat_add n 1).symm
    · rw [if_neg hnext, operate_of_not_alters hnext haltered, hcursor]

/-- Both hold after any operations. -/
theorem Sound.run (operations : List Operation) :
    ∀ {r : Roster} {latest : Option (List Server)} {n : Nat}, r.Sound initial latest →
      r.pool.cursor = UInt64.ofNat n →
      (∃ latest', (r.run operations).Sound initial latest') ∧
        (r.run operations).pool.cursor = UInt64.ofNat (r.askedSince n operations) := by
  induction operations with
  | nil => exact fun h hcursor => ⟨⟨_, h⟩, hcursor⟩
  | cons operation rest ih =>
    intro r latest n h hcursor
    obtain ⟨latest', hnext⟩ := h.operate operation
    exact ih hnext (cursor_operate h hcursor operation)

/-- Asking for servers changes no membership. -/
theorem undisturbed_replicate (turns : Nat) :
    ∀ r : Roster, r.Undisturbed (List.replicate turns .next) := by
  induction turns with
  | zero => exact fun r => trivial
  | succ turns ih => exact fun r => ⟨rfl, ih _⟩

theorem askedSince_replicate (turns : Nat) :
    ∀ (r : Roster) (n : Nat), r.askedSince n (List.replicate turns .next) = n + turns := by
  induction turns with
  | zero => exact fun r n => rfl
  | succ turns ih =>
    intro r n
    exact (ih _ (n + 1)).trans (by omega)

/-- Operations that do not change the membership leave the members as they are. -/
theorem members_run (operations : List Operation) : ∀ {r : Roster},
    r.Undisturbed operations → (r.run operations).pool.members = r.pool.members := by
  induction operations with
  | nil => exact fun _ => rfl
  | cons operation rest ih =>
    intro r hquiet
    refine (ih hquiet.2).trans ?_
    by_cases hnext : operation = .next
    · subst hnext
      unfold operate next
      cases hturn : r.pool.next? with
      | none => rfl
      | some turn =>
        rw [Pool.next?_eq] at hturn
        obtain ⟨s, -, rfl⟩ := Option.map_eq_some_iff.1 hturn
        rfl
    · rw [operate_of_not_alters hnext hquiet.1]

/-- As long as the membership stays the servers are given out in turn. -/
theorem map_given (operations : List Operation) : ∀ {r : Roster},
    r.pool.members ≠ [] → r.Undisturbed operations →
    (r.given operations).map some =
      (List.range (operations.count .next)).map r.pool.turn? := by
  induction operations with
  | nil => intro r _ _; rfl
  | cons operation rest ih =>
    intro r hmembers hquiet
    by_cases hnext : operation = .next
    · subst hnext
      obtain ⟨s, hturn, hserver, hroster⟩ := operate_next hmembers
      have hrest := hquiet.2
      rw [hroster] at hrest
      have hturns : r.pool.advance.turn? = r.pool.turn? ∘ Nat.succ :=
        funext fun i => r.pool.turn?_advance i
      rw [given, hserver, List.count_cons_self, List.range_succ_eq_map, List.map_cons,
        List.map_cons, List.map_map, hturn, ← hturns]
      exact congrArg (some s :: ·) (ih hmembers hrest)
    · have hsame := operate_of_not_alters hnext hquiet.1
      have hrest := hquiet.2
      have hgiven : r.given (operation :: rest) = (r.operate operation).given rest := by
        cases operation with
        | next => exact absurd rfl hnext
        | _ => rfl
      rw [hsame] at hrest
      rw [hgiven, hsame, List.count_cons_of_ne hnext]
      exact ih hmembers hrest

/-- What a pool is like that has just been made. -/
theorem sound_start {servers : List Server} {p : Pool} (h : Pool.ofServers? servers = .ok p) :
    (start p).Sound servers none ∧ p.cursor = UInt64.ofNat 0 := by
  obtain ⟨hne, rfl⟩ := Pool.ofServers?_eq_ok h
  refine ⟨⟨Server.distinct_eq_eraseDups servers, ⟨hne, hne⟩, Server.distinct_nodup servers,
    .inl (List.Sublist.refl _), rfl⟩, rfl⟩

/-- **The turn of a pool.** Whatever was done with a pool, it gives out the member at the place
that tells how often it was asked since its membership last changed, modulo `2 ^ 64` and then
modulo the number of members. If it is asked as often as it has members while the membership
stays, each of them is given out once unless the counter comes round in between; then each is
given out once exactly if their number divides `2 ^ 64`. -/
theorem run_rotates {servers : List Server} {p : Pool}
    (h : Pool.ofServers? servers = .ok p) (operations : List Operation) :
    let r := (start p).run operations
    let members := r.pool.members
    let asked := (start p).askedSince 0 operations
    (∃ s r', r.next = .ok (s, r') ∧ members[asked % 2 ^ 64 % members.length]? = some s) ∧
    ∀ more, r.Undisturbed more → more.count .next = members.length →
      (asked % 2 ^ 64 + members.length ≤ 2 ^ 64 →
        ∀ s ∈ members, (r.given more).count s = 1) ∧
      (2 ^ 64 < asked % 2 ^ 64 + members.length →
        ((∀ s ∈ members, (r.given more).count s = 1) ↔ members.length ∣ 2 ^ 64)) := by
  intro r members asked
  obtain ⟨hstart, hzero⟩ := sound_start h
  obtain ⟨⟨latest, hsound⟩, hcursor⟩ := Sound.run operations hstart hzero
  have hplace : r.pool.cursor.toNat = asked % 2 ^ 64 := by
    rw [hcursor, UInt64.toNat_ofNat']
  obtain ⟨s, hturn, hserver, -⟩ := operate_next hsound.stocked.members
  refine ⟨⟨s, _, hserver, ?_⟩, fun more hquiet hround => ?_⟩
  · rw [Pool.turn?_eq, Nat.add_zero, Nat.mod_eq_of_lt r.pool.cursor.toNat_lt, hplace] at hturn
    exact hturn
  · have hgiven : ∀ s, (r.given more).count s =
        ((List.range members.length).map r.pool.turn?).count (some s) := by
      intro s
      rw [← hround, ← map_given more hsound.stocked.members hquiet,
        List.count_map_of_injective _ _ (Option.some_injective _)]
    simp only [hgiven]
    rw [← hplace]
    refine ⟨fun hroom s hs => ?_, fun hwraps => ⟨fun hone => ?_, fun hdvd s hs => ?_⟩⟩
    · refine Pool.count_turns hsound.members_nodup (fun i hi => Pool.turn?_eq_ahead? ?_) hs
      exact Nat.lt_of_lt_of_le (Nat.add_lt_add_left hi _) hroom
    · by_contra hdvd
      obtain ⟨i, j, hij, hj, hsame⟩ := Pool.exists_turn?_eq hwraps hdvd
      exact absurd (Pool.turn?_inj_of_count hone (by omega) hj hsame) (by omega)
    · exact Pool.count_turns hsound.members_nodup (fun i _ => Pool.turn?_of_dvd hdvd i) hs

/-- A pool of three after `2 ^ 64 - 1` turns: the counter comes round in the next three. -/
theorem run_rotates_three :
    let servers : List Server := [⟨"http://a"⟩, ⟨"http://b"⟩, ⟨"http://c"⟩]
    let p : Pool := ⟨servers, servers, 0⟩
    Pool.ofServers? servers = .ok p ∧
      (∃ r', ((start p).run [.next, .evict ⟨"http://b"⟩, .next, .evict ⟨"http://x"⟩]).next =
        .ok (⟨"http://c"⟩, r')) ∧
      ¬ ∀ s ∈ servers,
        (((start p).run (List.replicate (2 ^ 64 - 1) .next)).given
          (List.replicate 3 .next)).count s = 1 := by
  intro servers p
  have hpool : Pool.ofServers? servers = .ok p := rfl
  refine ⟨hpool, ?_, ?_⟩
  · obtain ⟨⟨s, r', hserver, hplace⟩, -⟩ := run_rotates hpool
      [.next, .evict ⟨"http://b"⟩, .next, .evict ⟨"http://x"⟩]
    obtain rfl : ⟨"http://c"⟩ = s := Option.some.inj hplace
    exact ⟨r', hserver⟩
  · obtain ⟨turns, hturns⟩ : ∃ turns, turns = 2 ^ 64 - 1 := ⟨_, rfl⟩
    rw [← hturns]
    have hmembers := members_run (List.replicate turns .next)
      (undisturbed_replicate turns (start p))
    have hcount : (List.replicate 3 Operation.next).count .next =
        ((start p).run (List.replicate turns .next)).pool.members.length := by
      rw [hmembers, List.count_replicate_self]
      rfl
    obtain ⟨-, hrounds⟩ := run_rotates hpool (List.replicate turns .next)
    obtain ⟨-, hround⟩ := hrounds _ (undisturbed_replicate 3 _) hcount
    have hlast : turns % 2 ^ 64 = 2 ^ 64 - 1 := by omega
    rw [askedSince_replicate, hmembers, Nat.zero_add, hlast] at hround
    exact fun hone => absurd ((hround (by decide)).1 hone) (by decide)

end Roster

end Failover
