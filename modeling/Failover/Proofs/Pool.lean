import Failover.Pool

/-!
# Laws of the pool

What the other proofs have to know about the pool, so that none of them opens it.

A list of servers is brought to one copy of each by `Server.distinct`, which keeps the
first ones (`distinct_eq_eraseDups`). A list without duplicates is left alone, and that
is why a pool never drops a server from a list that was already deduplicated.

Whose turn it is some calls ahead is `Pool.turn?`. A pool with members always has
someone (`exists_turn?`), and asking for the next server moves the turn by one
(`turn?_advance`), so a whole rotation can be spoken of without its cursor.
-/

namespace Failover

/-! ## Each server once -/

namespace Server

/-- What `distinct` does with each server. -/
private def keep (seen : List Server) (s : Server) : List Server :=
  if s ∈ seen then seen else seen ++ [s]

private theorem foldl_keep_nodup (servers : List Server) :
    ∀ seen : List Server, seen.Nodup → (servers.foldl keep seen).Nodup := by
  induction servers with
  | nil => intro seen h; exact h
  | cons s r ih =>
    intro seen h
    rw [List.foldl_cons]
    apply ih
    unfold keep
    split
    · exact h
    next hs =>
      rw [List.nodup_append]
      refine ⟨h, by simp, ?_⟩
      intro a ha b hb he
      rw [List.mem_singleton] at hb
      exact hs (hb ▸ he ▸ ha)

private theorem foldl_keep_of_nodup (servers : List Server) :
    ∀ seen : List Server, (seen ++ servers).Nodup → servers.foldl keep seen = seen ++ servers := by
  induction servers with
  | nil => intro seen _; simp
  | cons s r ih =>
    intro seen h
    have hs : s ∉ seen := by
      intro hm
      exact (List.nodup_append.1 h).2.2 s hm s (List.mem_cons_self ..) rfl
    have hk : keep seen s = seen ++ [s] := by rw [keep, if_neg hs]
    rw [List.foldl_cons, hk, ih (seen ++ [s]) (by simpa using h)]
    simp

private theorem foldl_keep_eq (servers : List Server) :
    ∀ seen : List Server,
      servers.foldl keep seen = seen ++ (servers.filter (· ∉ seen)).eraseDups := by
  induction servers with
  | nil => intro seen; simp
  | cons s r ih =>
    intro seen
    rw [List.foldl_cons, ih]
    by_cases hs : s ∈ seen
    · simp [keep, hs]
    · have hf : (r.filter (· ∉ seen)).filter (fun b => !b == s) = r.filter (· ∉ seen ++ [s]) := by
        rw [List.filter_filter]
        apply List.filter_congr
        intro b _
        by_cases hb : b = s <;> simp [hb]
      rw [keep, if_neg hs, List.filter_cons_of_pos (by simpa using hs), List.eraseDups_cons, hf]
      simp

theorem distinct_nodup (servers : List Server) : (distinct servers).Nodup :=
  foldl_keep_nodup servers [] (by simp)

/-- A list without duplicates stays as it is. -/
theorem distinct_eq_self {servers : List Server} (h : servers.Nodup) :
    distinct servers = servers :=
  foldl_keep_of_nodup servers [] h

/-- Of equal servers the first is kept. -/
theorem distinct_eq_eraseDups (servers : List Server) :
    distinct servers = servers.eraseDups := by
  show servers.foldl keep [] = servers.eraseDups
  have hf : servers.filter (· ∉ ([] : List Server)) = servers :=
    List.filter_eq_self.2 fun _ _ => by simp
  rw [foldl_keep_eq, hf, List.nil_append]

@[simp] theorem distinct_distinct (servers : List Server) :
    distinct (distinct servers) = distinct servers :=
  distinct_eq_self (distinct_nodup servers)

@[simp] theorem mem_distinct {s : Server} {servers : List Server} :
    s ∈ distinct servers ↔ s ∈ servers := by
  rw [distinct_eq_eraseDups, List.mem_eraseDups]

@[simp] theorem distinct_eq_nil {servers : List Server} :
    distinct servers = [] ↔ servers = [] := by
  simp only [List.eq_nil_iff_forall_not_mem, mem_distinct]

/-- A list of addresses is read in order, and each server kept once. -/
theorem parseAll_eq_ok {addresses : List String} {servers : List Server}
    (h : parseAll addresses = .ok servers) :
    ∃ named, addresses.mapM parse = .ok named ∧ servers = distinct named := by
  unfold parseAll at h
  cases hm : addresses.mapM parse with
  | error e => rw [hm] at h; cases h
  | ok named =>
    rw [hm] at h
    cases h
    exact ⟨named, rfl, rfl⟩

end Server

/-! ## The turn -/

namespace Pool

/-- The server whose turn it is when `i` others have had theirs. -/
def turn? (p : Pool) (i : Nat) : Option Server :=
  p.members[(p.cursor + UInt64.ofNat i).toNat % p.members.length]?

/-- The pool after the turn of one server. -/
def advance (p : Pool) : Pool := { p with cursor := p.cursor + 1 }

theorem next?_eq (p : Pool) : p.next? = (p.turn? 0).map fun s => (s, p.advance) := by
  have h0 : p.cursor + UInt64.ofNat 0 = p.cursor := by simp
  unfold next? turn?
  rw [h0]
  rfl

theorem turn?_advance (p : Pool) (i : Nat) : p.advance.turn? i = p.turn? (i + 1) := by
  have hc : p.cursor + 1 + UInt64.ofNat i = p.cursor + UInt64.ofNat (i + 1) := by
    rw [UInt64.ofNat_add, UInt64.add_assoc, UInt64.add_comm 1]
    rfl
  unfold turn? advance
  rw [hc]

/-- Where there are members, one of them always has the turn. -/
theorem exists_turn? {p : Pool} (h : p.members ≠ []) (i : Nat) : ∃ s, p.turn? i = some s := by
  have hlt : (p.cursor + UInt64.ofNat i).toNat % p.members.length < p.members.length :=
    Nat.mod_lt _ (List.length_pos_iff.2 h)
  exact ⟨_, List.getElem?_eq_getElem hlt⟩

/-- The member that stands `i` places behind the one whose turn it is, the list being
closed to a ring. -/
def ahead? (p : Pool) (i : Nat) : Option Server :=
  p.members[(p.cursor.toNat + i) % p.members.length]?

/-- Until the counter comes round the turns go along the ring. -/
theorem turn?_eq_ahead? {p : Pool} {i : Nat} (h : p.cursor.toNat + i < UInt64.size) :
    p.turn? i = p.ahead? i := by
  have hn : (p.cursor + UInt64.ofNat i).toNat = p.cursor.toNat + i := by
    rw [UInt64.toNat_add, UInt64.toNat_ofNat', Nat.add_mod_mod]
    exact Nat.mod_eq_of_lt h
  unfold turn? ahead?
  rw [hn]

/-- The first turns after a change of the membership go through the members in
order. -/
theorem turn?_of_cursor_eq_zero {p : Pool} (hc : p.cursor = 0)
    (hsize : p.members.length ≤ UInt64.size) {i : Nat} (hi : i < p.members.length) :
    p.turn? i = p.members[i]? := by
  have hzero : p.cursor.toNat = 0 := by rw [hc, UInt64.toNat_zero]
  have hlt : p.cursor.toNat + i < UInt64.size := by
    rw [hzero, Nat.zero_add]
    exact Nat.lt_of_lt_of_le hi hsize
  rw [turn?_eq_ahead? hlt, ahead?, hzero, Nat.zero_add, Nat.mod_eq_of_lt hi]

theorem mem_of_turn? {p : Pool} {i : Nat} {s : Server} (h : p.turn? i = some s) :
    s ∈ p.members :=
  List.mem_of_getElem? h

end Pool

/-! ## Other members -/

namespace Pool

@[simp] theorem replace_bootstrap (p : Pool) (servers : List Server) :
    (p.replace servers).bootstrap = p.bootstrap := rfl

@[simp] theorem reset_bootstrap (p : Pool) : p.reset.bootstrap = p.bootstrap := rfl

@[simp] theorem evict_bootstrap (p : Pool) (server : Server) :
    (p.evict server).bootstrap = p.bootstrap := rfl

@[simp] theorem replace_distinct (p : Pool) (servers : List Server) :
    p.replace (Server.distinct servers) = p.replace servers := by
  unfold replace
  rw [Server.distinct_distinct]

theorem replace_members {servers : List Server} (h : servers ≠ []) (p : Pool) :
    (p.replace servers).members = servers.eraseDups := by
  have hd : Server.distinct servers ≠ [] := mt Server.distinct_eq_nil.1 h
  show (if (Server.distinct servers).isEmpty then p.bootstrap else Server.distinct servers) = _
  rw [if_neg (by simpa using hd), Server.distinct_eq_eraseDups]

theorem replace_members_cases (p : Pool) (servers : List Server) :
    (p.replace servers).members = p.bootstrap ∨
      (p.replace servers).members = servers.eraseDups := by
  by_cases h : servers = []
  · subst h
    exact Or.inl rfl
  · exact Or.inr (replace_members h p)

/-- Other servers that are all different become the members as they are. -/
theorem replace_of_nodup {servers : List Server} (hd : servers.Nodup) (h : servers ≠ [])
    (p : Pool) : p.replace servers = { p with members := servers, cursor := 0 } := by
  unfold replace
  rw [Server.distinct_eq_self hd]
  show p.withMembers (if servers.isEmpty then p.bootstrap else servers) = _
  rw [if_neg (by simpa using h)]
  rfl

theorem evict_eq (p : Pool) (server : Server) :
    p.evict server =
      { p with
        members :=
          if p.members.filter (· ≠ server) = [] then p.bootstrap
          else p.members.filter (· ≠ server)
        cursor := 0 } := by
  simp only [evict, withMembers, List.isEmpty_iff]

theorem evict_of_filter_eq_nil {p : Pool} {server : Server}
    (h : p.members.filter (· ≠ server) = []) : p.evict server = p.reset := by
  rw [evict_eq, if_pos h]
  rfl

theorem evict_members {p : Pool} {server : Server} (h : p.members.filter (· ≠ server) ≠ []) :
    (p.evict server).members = p.members.filter (· ≠ server) := by
  rw [evict_eq, if_neg h]

theorem evict_members_cases (p : Pool) (server : Server) :
    (p.evict server).members = p.bootstrap ∨
      (p.evict server).members.Sublist p.members := by
  by_cases h : p.members.filter (· ≠ server) = []
  · rw [evict_of_filter_eq_nil h]
    exact Or.inl rfl
  · rw [evict_members h]
    exact Or.inr List.filter_sublist

/-- There is a server to offer, and one to fall back to. -/
structure Stocked (p : Pool) : Prop where
  members : p.members ≠ []
  bootstrap : p.bootstrap ≠ []

theorem Stocked.reset {p : Pool} (h : p.Stocked) : p.reset.Stocked := ⟨h.bootstrap, h.bootstrap⟩

theorem Stocked.replace {p : Pool} (h : p.Stocked) (servers : List Server) :
    (p.replace servers).Stocked := by
  by_cases hs : servers = []
  · subst hs
    exact h.reset
  · refine ⟨?_, h.bootstrap⟩
    rw [replace_members hs, ← Server.distinct_eq_eraseDups]
    exact mt Server.distinct_eq_nil.1 hs

theorem Stocked.evict {p : Pool} (h : p.Stocked) (server : Server) :
    (p.evict server).Stocked := by
  by_cases hs : p.members.filter (· ≠ server) = []
  · rw [evict_of_filter_eq_nil hs]
    exact h.reset
  · refine ⟨?_, h.bootstrap⟩
    rw [evict_members hs]
    exact hs

end Pool

namespace Roster

theorem next_of_turn? {r : Roster} {s : Server} (h : r.pool.turn? 0 = some s) :
    r.next = .ok (s, { r with pool := r.pool.advance }) := by
  unfold next
  rw [Pool.next?_eq, h]
  rfl

theorem next_of_members {r : Roster} (h : r.pool.members ≠ []) :
    ∃ s, r.next = .ok (s, { r with pool := r.pool.advance }) := by
  obtain ⟨s, hs⟩ := Pool.exists_turn? h 0
  exact ⟨s, next_of_turn? hs⟩

end Roster

end Failover
