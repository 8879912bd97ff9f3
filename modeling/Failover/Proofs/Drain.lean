import Failover.Proofs.Iteration

/-!
# A dead cluster is drained

When no server can be reached, every iteration of discovery takes one out of the pool: the one
that the last of its attempts went to. Which one that is depends on the policy and on where the
turn stands, but it is always a member (`Client.drive_refused`), and so a pool of `n` members is
empty after `n` iterations, and the bootstrap servers are back. The members go one at a time, none
of them twice, and those that are left stay in their order (`Discovery.exists_drains`).

The induction is on the number of members. An eviction starts the turn anew, so nothing about the
cursor is carried along.
-/

namespace Failover

variable {σ : Type} {send : Transport σ} {c : Client}

/-- No connection is ever made. -/
def Transport.Refuses (send : Transport σ) : Prop :=
  ∀ state request, ∃ failure,
    (send state request).1 = .error failure ∧ failure.kind = .connectRefused

namespace Client

/-- From one client to the other turns were taken and events were counted, and nothing else
was done. -/
structure Kept (c c' : Client) : Prop where
  settings : c'.settings = c.settings
  closed : c'.closed = c.closed
  members : c'.roster.pool.members = c.roster.pool.members
  bootstrap : c'.roster.pool.bootstrap = c.roster.pool.bootstrap

theorem Kept.trans {c₁ c₂ c₃ : Client} (h : c₁.Kept c₂) (h' : c₂.Kept c₃) : c₁.Kept c₃ :=
  ⟨h'.settings.trans h.settings, h'.closed.trans h.closed, h'.members.trans h.members,
    h'.bootstrap.trans h.bootstrap⟩

theorem Stepped.kept {c' : Client} {p : Progress} (h : c.Stepped c' (poolAfter c.roster.pool p)) :
    c.Kept c' := by
  refine ⟨h.settings, h.closed, ?_, ?_⟩ <;> rw [h.pool_eq] <;> cases p <;> rfl

/-- A request under way ends with a server that refused its last attempt, and that server is a
member of the pool. -/
theorem drive_refused (hrefuses : send.Refuses) (state : σ) (c : Client) (f : Flight)
    (hserver : f.server ∈ c.roster.pool.members) :
    ∃ server failure c' state',
      drive send state c (.waiting f) = (.error (.couldNotConnect server failure), c', state') ∧
        server ∈ c.roster.pool.members ∧ c.Kept c' := by
  generalize hp : Progress.waiting f = p
  fun_induction drive send state c p generalizing f with
  | case1 => cases hp
  | case2 state c f' reply next ih =>
    obtain rfl : f = f' := Progress.waiting.inj hp
    have hmembers := List.ne_nil_of_mem hserver
    have hkept : c.Kept next.1 := (resume_stepped hmembers f reply.1).kept
    -- Either the policy ends it here, with this server, or the request goes on to another.
    rcases resume_cases hmembers f reply.1 with
      ⟨-, c', hnext, -⟩ | ⟨-, server, c', hturn, hnext, -⟩
    · have hended : next = (c', .ended (f.outcome reply.1)) := hnext
      obtain ⟨failure, hreply, hkind⟩ := hrefuses state f.request
      have houtcome : f.outcome reply.1 = .error (.couldNotConnect f.server failure) := by
        show f.outcome (send state f.request).1 = _
        rw [hreply, Flight.outcome, failureError, hkind]
        rfl
      rw [hended] at hkept ⊢
      exact ⟨f.server, failure, c', reply.2, by rw [drive_ended, houtcome], hserver, hkept⟩
    · have hwaiting : next = (c', .waiting ⟨f.encoded, f.interpret, server, f.attempts + 1⟩) :=
        hnext
      rw [hwaiting] at hkept ih ⊢
      obtain ⟨last, failure, c'', state', hdrive, hlast, hrest⟩ :=
        ih _ (hkept.members ▸ Pool.mem_of_turn? hturn) rfl
      exact ⟨last, failure, c'', state', hdrive, hkept.members ▸ hlast, hkept.trans hrest⟩

theorem execute_refused (hrefuses : send.Refuses) (state : σ) {a : Action} {o : Options}
    {e : Encoded} (hopen : c.closed = false) (hmembers : c.roster.pool.members ≠ [])
    (he : Encoded.ofAction c.settings a o = .ok e) :
    ∃ server failure c' state',
      c.execute send state a o = (.error (.couldNotConnect server failure), c', state') ∧
        server ∈ c.roster.pool.members ∧ c.Kept c' := by
  obtain ⟨first, hturn⟩ := Pool.exists_turn? hmembers 0
  obtain ⟨c₁, hdispatch, hstepped⟩ := dispatch_of_turn? hturn e a.interpret 0
  have hkept : c.Kept c₁ :=
    ⟨hstepped.settings, hstepped.closed, by rw [hstepped.pool_eq]; rfl,
      by rw [hstepped.pool_eq]; rfl⟩
  have hfirst : first ∈ c₁.roster.pool.members := hkept.members ▸ Pool.mem_of_turn? hturn
  obtain ⟨server, failure, c', state', hdrive, hserver, hrest⟩ :=
    drive_refused hrefuses state c₁ ⟨e, a.interpret, first, 0 + 1⟩ hfirst
  refine ⟨server, failure, c', state', ?_, hkept.members ▸ hserver, hkept.trans hrest⟩
  rw [execute, start_of_ok hopen he, hdispatch, hdrive]

end Client

namespace Discovery

/-- An iteration takes one member out. -/
theorem run_refused (hrefuses : send.Refuses) (state : σ) (filter scheme : String)
    (hopen : c.closed = false) (hmembers : c.roster.pool.members ≠ []) :
    ∃ server c' state', run send state c filter scheme = (.evicted server, c', state') ∧
      server ∈ c.roster.pool.members ∧ c'.closed = false ∧
      c'.roster.pool = c.roster.pool.evict server := by
  obtain ⟨e, he⟩ : ∃ e, Encoded.ofAction c.settings (question filter).action {} = .ok e := ⟨_, rfl⟩
  obtain ⟨server, failure, c₁, state', hexecute, hserver, hkept⟩ :=
    Client.execute_refused hrefuses state hopen hmembers he
  have hserver₁ : server ∈ c₁.roster.pool.members := hkept.members.symm ▸ hserver
  refine ⟨server, (conclude scheme c₁ (.error (.couldNotConnect server failure))).1, state', ?_,
    hserver, hkept.closed.trans hopen, ?_⟩
  · rw [run, hexecute]
    rfl
  · show (c₁.roster.evict server).2.pool = _
    rw [Roster.evict, if_pos hserver₁]
    show c₁.roster.pool.evict server = _
    rw [Pool.evict_eq, Pool.evict_eq, hkept.members, hkept.bootstrap]

/-- So many iterations one after the other, with what they come to. -/
def runs (send : Transport σ) (filter scheme : String) : Nat → σ → Client → List Result × Client × σ
  | 0, state, c => ([], c, state)
  | n + 1, state, c =>
    let (result, c, state) := run send state c filter scheme
    let (results, c, state) := runs send filter scheme n state c
    (result :: results, c, state)

/-- These servers are taken out of the pool in this order, one by each iteration. -/
structure Drains (send : Transport σ) (filter scheme : String) (state : σ) (c : Client)
    (gone : List Server) : Prop where
  /-- They are the members, each of them once. -/
  perm : gone.Perm c.roster.pool.members
  nodup : gone.Nodup
  /-- As long as members are left they are left in their order. -/
  part : ∀ i < gone.length, ∃ c' state',
    runs send filter scheme i state c = ((gone.take i).map .evicted, c', state') ∧
      c'.roster.pool.members = c.roster.pool.members.filter (· ∉ gone.take i) ∧
      c'.roster.pool.bootstrap = c.roster.pool.bootstrap
  /-- When none is left, the bootstrap servers are back. -/
  whole : ∃ c' state',
    runs send filter scheme gone.length state c = (gone.map .evicted, c', state') ∧
      c'.roster.pool =
        { bootstrap := c.roster.pool.bootstrap, members := c.roster.pool.bootstrap, cursor := 0 }

/-- Of servers that are all different one is taken out. -/
theorem filter_ne_eq_erase {servers : List Server} (h : servers.Nodup) (server : Server) :
    servers.filter (· ≠ server) = servers.erase server := by
  rw [h.erase_eq_filter]
  exact List.filter_congr fun s _ => by rw [bne, beq_eq_decide, decide_not]

theorem runs_succ {state₀ state₁ state₂ : σ} {c₀ c₁ c₂ : Client} {result : Result}
    {results : List Result} {n : Nat}
    (hrun : run send state₀ c₀ filter scheme = (result, c₁, state₁))
    (hruns : runs send filter scheme n state₁ c₁ = (results, c₂, state₂)) :
    runs send filter scheme (n + 1) state₀ c₀ = (result :: results, c₂, state₂) := by
  rw [runs, hrun]
  dsimp only
  rw [hruns]

/-- The last member leaves, and the bootstrap servers come back. -/
theorem drains_last {state state' : σ} {c' : Client} {server : Server}
    (hrun : run send state c filter scheme = (.evicted server, c', state'))
    (hpool : c'.roster.pool = c.roster.pool.evict server)
    (hlast : c.roster.pool.members = [server]) : Drains send filter scheme state c [server] := by
  have hnone : c.roster.pool.members.filter (· ≠ server) = [] := by simp [hlast]
  constructor
  case perm => rw [hlast]
  case nodup => exact List.pairwise_singleton _ server
  case part =>
    intro i hi
    obtain rfl : i = 0 := Nat.lt_one_iff.1 hi
    exact ⟨c, state, rfl, by simp, rfl⟩
  case whole =>
    refine ⟨c', state', runs_succ hrun rfl, ?_⟩
    rw [hpool, Pool.evict_of_filter_eq_nil hnone]
    rfl

/-- A member leaves, and others after it. -/
theorem Drains.cons {state state' : σ} {c' : Client} {server : Server} {gone : List Server}
    (h : Drains send filter scheme state' c' gone)
    (hrun : run send state c filter scheme = (.evicted server, c', state'))
    (hserver : server ∈ c.roster.pool.members)
    (hmembers : c'.roster.pool.members = c.roster.pool.members.filter (· ≠ server))
    (hbootstrap : c'.roster.pool.bootstrap = c.roster.pool.bootstrap)
    (hnodup : c.roster.pool.members.Nodup) :
    Drains send filter scheme state c (server :: gone) := by
  constructor
  case perm =>
    have hperm := h.perm
    rw [hmembers, filter_ne_eq_erase hnodup] at hperm
    exact (hperm.cons server).trans (List.perm_cons_erase hserver).symm
  case nodup =>
    refine List.nodup_cons.2 ⟨fun hmem => ?_, h.nodup⟩
    have hleft := h.perm.mem_iff.1 hmem
    rw [hmembers] at hleft
    simp at hleft
  case part =>
    intro i hi
    cases i with
    | zero => exact ⟨c, state, rfl, by simp, rfl⟩
    | succ i =>
      obtain ⟨c'', state'', hruns, hleft, hkept⟩ := h.part i (Nat.lt_of_succ_lt_succ hi)
      refine ⟨c'', state'', runs_succ hrun hruns, ?_, hkept.trans hbootstrap⟩
      -- Those that are neither the first nor among the next ones.
      rw [hleft, hmembers, List.filter_filter]
      exact List.filter_congr fun s _ => by simp [Bool.and_comm]
  case whole =>
    obtain ⟨c'', state'', hruns, hpool⟩ := h.whole
    exact ⟨c'', state'', runs_succ hrun hruns, by rw [hpool, hbootstrap]⟩

/-- **A dead cluster is drained.** Let no server be reachable, and let a pool have members, none
of them twice. Whatever the policy and wherever the turn stands, as many iterations as there are
members take out one each, and then the bootstrap servers are back. -/
theorem exists_drains (hrefuses : send.Refuses) (filter scheme : String) (state : σ)
    (hopen : c.closed = false) (hmembers : c.roster.pool.members ≠ [])
    (hnodup : c.roster.pool.members.Nodup) :
    ∃ gone, Drains send filter scheme state c gone := by
  induction hn : c.roster.pool.members.length generalizing c state with
  | zero => exact absurd (List.length_eq_zero_iff.1 hn) hmembers
  | succ n ih =>
    obtain ⟨server, c', state', hrun, hserver, hstill, hpool⟩ :=
      run_refused hrefuses state filter scheme hopen hmembers
    -- The last member is a case of its own: when it leaves, the bootstrap servers come back.
    by_cases hlast : c.roster.pool.members.filter (· ≠ server) = []
    · rw [filter_ne_eq_erase hnodup, List.erase_eq_nil_iff] at hlast
      exact ⟨[server], drains_last hrun hpool (hlast.resolve_left hmembers)⟩
    · have hleft : c'.roster.pool.members = c.roster.pool.members.filter (· ≠ server) := by
        rw [hpool, Pool.evict_members hlast]
      have hfewer : c'.roster.pool.members.length = n := by
        rw [hleft, filter_ne_eq_erase hnodup, List.length_erase_of_mem hserver, hn,
          Nat.add_sub_cancel]
      obtain ⟨gone, hgone⟩ := ih state' hstill (hleft ▸ hlast) (hleft ▸ hnodup.filter _) hfewer
      exact ⟨server :: gone,
        hgone.cons hrun hserver hleft (by rw [hpool, Pool.evict_bootstrap]) hnodup⟩

/-- Three servers, none of them among the first ones, with two attempts for each iteration: those
of the first iteration go to the last server and to the first. -/
theorem exists_drains_three :
    let servers : List Server := [⟨"http://a"⟩, ⟨"http://b"⟩, ⟨"http://c"⟩]
    let seeds : List Server := [⟨"http://seed"⟩]
    let c : Client :=
      { settings := { retry := Retry.upTo 2 FailureKind.usuallyRecoverable }
        roster := .start ⟨seeds, servers, 2⟩ }
    let send : Transport Nat := fun sent r => (.error ⟨.connectRefused, r.url, "refused"⟩, sent + 1)
    send.Refuses ∧ c.closed = false ∧ servers ≠ [] ∧ servers.Nodup ∧
      ∃ (gone : List Server) (c' : Client) (state' : Nat), gone.Perm servers ∧
        runs send "_all" "http://" 3 0 c = (gone.map .evicted, c', state') ∧
        c'.roster.pool = ⟨seeds, seeds, 0⟩ := by
  intro servers seeds c send
  have hrefuses : send.Refuses := fun _ _ => ⟨_, rfl, rfl⟩
  have hmembers : servers ≠ [] := List.cons_ne_nil _ _
  have hnodup : servers.Nodup := by decide
  refine ⟨hrefuses, rfl, hmembers, hnodup, ?_⟩
  obtain ⟨gone, hdrains⟩ :=
    exists_drains (c := c) hrefuses "_all" "http://" 0 rfl hmembers hnodup
  obtain ⟨c', state', hruns, hpool⟩ := hdrains.whole
  have hthree : gone.length = 3 := hdrains.perm.length_eq
  rw [hthree] at hruns
  exact ⟨gone, c', state', hdrains.perm, hruns, hpool⟩

end Discovery

end Failover
