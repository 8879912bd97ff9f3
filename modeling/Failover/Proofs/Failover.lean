import Failover.Proofs.Attempts
import Failover.Proofs.Rotation

/-!
# A live server is found

Let each server answer in its own way, always the same: some deliver a response, the others
fail. A request that may make as many attempts as there are members goes along the ring
from the server whose turn it is, and stops at the first one that delivers. It can miss
nobody, since one round is enough to come to all of them (`Proofs.Rotation`), and it tries
nobody twice. If nobody delivers it goes on, round after round, up to its ceiling.

Both cases are the loop of attempts with an end known in advance, which is the distance of
the first live server in the one and the ceiling in the other (`execute_answeringAs`).
-/

namespace Failover

/-- A transport by which each server answers in a way of its own. Its state is the list of
requests it was given. -/
def answeringAs (answer : Server → Reply) : Transport (List Request) :=
  fun sent request => (answer request.server, sent ++ [request])

theorem Retry.upTo?_eq_ok {attempts : UInt32} {kinds : List FailureKind} {retry : Retry}
    (h : upTo? attempts kinds = .ok retry) : retry = .upTo attempts kinds := by
  unfold upTo? at h
  split at h
  · cases h
  · split at h <;> cases h
    rfl

namespace Client

variable {c : Client} {a : Action} {o : Options} {e : Encoded} {attempts : UInt32}
  {kinds : List FailureKind} {answer : Server → Reply}

/-- The policy with a ceiling repeats below it, after failures of its kinds. -/
theorem repeats_of_failure (hretry : c.settings.retry = Retry.upTo attempts kinds)
    {n : Nat} (hn : n < attempts.toNat) {failure : Failure} (hkind : failure.kind ∈ kinds)
    (request : Request) :
    c.settings.retry.repeats (UInt32.ofNat n) request (.error failure) = true := by
  rw [hretry]
  exact (Retry.upTo_again (Nat.lt_trans hn attempts.toNat_lt) failure.kind).2 ⟨hn, hkind⟩

/-- It repeats neither after a response nor at the ceiling. -/
theorem not_repeats (hretry : c.settings.retry = Retry.upTo attempts kinds) {n : Nat}
    {reply : Reply} (h : (∃ response, reply = .ok response) ∨ n = attempts.toNat)
    (request : Request) :
    c.settings.retry.repeats (UInt32.ofNat n) request reply = false := by
  rw [hretry]
  rcases h with ⟨response, rfl⟩ | rfl
  · rfl
  · cases reply with
    | ok response => rfl
    | error failure =>
      rw [← Bool.not_eq_true]
      intro hagain
      have hlt := ((Retry.upTo_again attempts.toNat_lt failure.kind).1 hagain).1
      exact Nat.lt_irrefl _ hlt

/-- A request that meets servers which fail, and then one at which it has to end. -/
theorem execute_answeringAs {servers : Nat → Server} {i : Nat} (hopen : c.closed = false)
    (he : Encoded.ofAction c.settings a o = .ok e)
    (hretry : c.settings.retry = Retry.upTo attempts kinds) (hceiling : i < attempts.toNat)
    (hturn : ∀ j ≤ i, c.roster.pool.turn? j = some (servers j))
    (hfail : ∀ j < i, ∃ failure, answer (servers j) = .error failure ∧ failure.kind ∈ kinds)
    (hend : (∃ response, answer (servers i) = .ok response) ∨ i + 1 = attempts.toNat) :
    ∃ c', c.execute (answeringAs answer) [] a o =
      (Flight.outcome ⟨e, a.interpret, servers i, UInt32.ofNat (i + 1)⟩ (answer (servers i)),
        c', (List.range (i + 1)).map fun j => e.bind (servers j)) := by
  have hrep : ∀ j < i, c.settings.retry.repeats (UInt32.ofNat (j + 1)) (e.bind (servers j))
      (answer (servers j)) = true := by
    intro j hj
    obtain ⟨failure, hfailure, hkind⟩ := hfail j hj
    rw [hfailure]
    exact repeats_of_failure hretry (by omega) hkind _
  exact (execute_eq_of_states (fun j => (List.range j).map fun j => e.bind (servers j))
    (fun n => answer (servers (n - 1))) hopen he hturn
    (fun j _ => by simp [answeringAs, Encoded.bind, List.range_succ]) hrep
    (not_repeats hretry hend _)).1

/-- A request came to its end at the first live server, `i` places behind the turn. -/
structure Found (pool : Pool) (answer : Server → Reply) (a : Action) (i : Nat)
    (outcome : Outcome) (sent : List Request) : Prop where
  /-- It is the first that delivers a response. -/
  first : IsLeast {i | ∃ server response, pool.ahead? i = some server ∧
    answer server = .ok response} i
  /-- It stands less than one round away. -/
  near : i < pool.members.length
  /-- The request came to what is read from its response. -/
  outcome_eq : ∀ server response, pool.ahead? i = some server → answer server = .ok response →
    outcome = a.interpret response (server.urlFor a.path)
  /-- That is no failure to be connected or to be answered. -/
  delivered : a.interpret = Answer.ofResponse →
    (∀ server failure, outcome ≠ .error (.couldNotConnect server failure)) ∧
    ∀ failure, outcome ≠ .error (.transport failure)
  /-- One attempt was made for each place on the way, … -/
  attempts : sent.length = i + 1
  /-- … at the server in that place, … -/
  servers : ∀ j ≤ i, sent[j]?.map Request.server = pool.ahead? j
  /-- … and no two of them at the same one. -/
  nodup : (sent.map Request.server).Nodup

/-- A request has made `n` attempts, and the last of them has failed like the others. -/
structure Exhausted (pool : Pool) (answer : Server → Reply) (n : Nat) (outcome : Outcome)
    (sent : List Request) : Prop where
  attempts : sent.length = n
  /-- It came to the failure of the last one. -/
  failed : ∃ request failure, sent.getLast? = some request ∧
    answer request.server = .error failure ∧
    outcome = .error
      (if failure.kind = .connectRefused then .couldNotConnect request.server failure
      else .transport failure)
  /-- That one was sent as far along the ring as there were attempts before it. -/
  last : pool.cursor.toNat + n ≤ 2 ^ 64 →
    pool.members[(pool.cursor.toNat + n - 1) % pool.members.length]? =
      sent.getLast?.map Request.server

theorem exists_found (hopen : c.closed = false) (he : Encoded.ofAction c.settings a o = .ok e)
    (hretry : c.settings.retry = Retry.upTo attempts kinds)
    (hnodup : c.roster.pool.members.Nodup)
    (hceiling : c.roster.pool.members.length ≤ attempts.toNat)
    (hcursor : c.roster.pool.cursor.toNat + c.roster.pool.members.length ≤ 2 ^ 64)
    (hkinds : ∀ server ∈ c.roster.pool.members, ∀ failure,
      answer server = .error failure → failure.kind ∈ kinds)
    (hlive : ∃ server ∈ c.roster.pool.members, ∃ response, answer server = .ok response) :
    ∃ i outcome c' sent, c.execute (answeringAs answer) [] a o = (outcome, c', sent) ∧
      Found c.roster.pool answer a i outcome sent := by
  classical
  obtain ⟨live, hlive, delivery, hdelivery⟩ := hlive
  choose servers hturn using fun j => Pool.exists_turn? (List.ne_nil_of_mem hlive) j
  -- The live server stands less than one round away, so the first one does.
  obtain ⟨k, hk, hplace⟩ := Pool.exists_ahead?_of_mem hlive
  have hex : ∃ i, ∃ server response, c.roster.pool.ahead? i = some server ∧
      answer server = .ok response := ⟨k, live, delivery, hplace, hdelivery⟩
  obtain ⟨i, hfirst⟩ : ∃ i, IsLeast {i | ∃ server response,
      c.roster.pool.ahead? i = some server ∧ answer server = .ok response} i :=
    ⟨_, Nat.isLeast_find hex⟩
  have hnear : i < c.roster.pool.members.length :=
    Nat.lt_of_le_of_lt (hfirst.2 ⟨live, delivery, hplace, hdelivery⟩) hk
  have hahead : ∀ j ≤ i, c.roster.pool.ahead? j = some (servers j) := by
    intro j hj
    rw [← Pool.turn?_eq_ahead? (Nat.lt_of_lt_of_le (by omega) hcursor)]
    exact hturn j
  obtain ⟨server, response, hserver, hresponse⟩ := hfirst.1
  obtain rfl : servers i = server :=
    Option.some.inj ((hahead i (Nat.le_refl _)).symm.trans hserver)
  have hfail : ∀ j < i, ∃ failure, answer (servers j) = .error failure ∧
      failure.kind ∈ kinds := by
    intro j hj
    cases hanswer : answer (servers j) with
    | ok response =>
      have hle := hfirst.2 ⟨servers j, response, hahead j (Nat.le_of_lt hj), hanswer⟩
      omega
    | error failure =>
      exact ⟨failure, rfl, hkinds _ (Pool.mem_of_turn? (hturn j)) failure hanswer⟩
  obtain ⟨c', hexec⟩ := execute_answeringAs hopen he hretry (by omega)
    (fun j _ => hturn j) hfail (Or.inl ⟨response, hresponse⟩)
  have houtcome : Flight.outcome ⟨e, a.interpret, servers i, UInt32.ofNat (i + 1)⟩
      (answer (servers i)) = a.interpret response ((servers i).urlFor a.path) := by
    rw [hresponse, ← Encoded.ofAction_path he]
    rfl
  refine ⟨i, _, c', _, hexec, ?_⟩
  rw [houtcome]
  constructor
  case first => exact hfirst
  case near => exact hnear
  case outcome_eq =>
    intro server' response' hserver' hresponse'
    obtain rfl : servers i = server' := Option.some.inj (hserver.symm.trans hserver')
    obtain rfl : response = response' := Except.ok.inj (hresponse.symm.trans hresponse')
    rfl
  case delivered =>
    intro hread
    rw [hread]
    constructor <;> intros <;> intro herr <;>
      obtain ⟨_, _, hcontra⟩ := Answer.ofResponse_eq_error herr <;> cases hcontra
  case attempts => simp
  case servers =>
    intro j hj
    rw [hahead j hj, List.getElem?_map, List.getElem?_range (by omega)]
    rfl
  case nodup =>
    rw [List.map_map]
    refine List.Nodup.map_on ?_ List.nodup_range
    intro x hx y hy hxy
    have hx := List.mem_range.1 hx
    have hy := List.mem_range.1 hy
    have hsame : servers x = servers y := hxy
    exact Pool.ahead?_inj hnodup (by omega) (by omega) (hahead x (by omega))
      (hsame ▸ hahead y (by omega))

theorem exists_exhausted (hopen : c.closed = false)
    (he : Encoded.ofAction c.settings a o = .ok e)
    (hretry : c.settings.retry = Retry.upTo attempts kinds)
    (hmembers : c.roster.pool.members ≠ []) (hpos : 0 < attempts.toNat)
    (hkinds : ∀ server ∈ c.roster.pool.members, ∀ failure,
      answer server = .error failure → failure.kind ∈ kinds)
    (hdead : ∀ server ∈ c.roster.pool.members, ∃ failure, answer server = .error failure) :
    ∃ outcome c' sent, c.execute (answeringAs answer) [] a o = (outcome, c', sent) ∧
      Exhausted c.roster.pool answer attempts.toNat outcome sent := by
  choose servers hturn using fun j => Pool.exists_turn? hmembers j
  -- What ends the request is the ceiling alone, as nobody delivers.
  obtain ⟨i, hi⟩ : ∃ i, i + 1 = attempts.toNat := ⟨attempts.toNat - 1, by omega⟩
  have hfail : ∀ j < i, ∃ failure, answer (servers j) = .error failure ∧
      failure.kind ∈ kinds := by
    intro j _
    have hserver := Pool.mem_of_turn? (hturn j)
    obtain ⟨failure, hfailure⟩ := hdead _ hserver
    exact ⟨failure, hfailure, hkinds _ hserver failure hfailure⟩
  obtain ⟨failure, hfailure⟩ := hdead _ (Pool.mem_of_turn? (hturn i))
  obtain ⟨c', hexec⟩ := execute_answeringAs hopen he hretry (by omega)
    (fun j _ => hturn j) hfail (Or.inr hi)
  have hlast : ((List.range (i + 1)).map fun j => e.bind (servers j)).getLast? =
      some (e.bind (servers i)) := by
    rw [List.range_succ, List.map_append, List.map_singleton, List.getLast?_concat]
  refine ⟨_, c', _, hexec, ?_⟩
  constructor
  case attempts => simp [hi]
  case failed =>
    refine ⟨e.bind (servers i), failure, hlast, hfailure, ?_⟩
    rw [hfailure]
    simp [Flight.outcome, failureError, FailureKind.isConnectFailure, Encoded.bind]
  case last =>
    intro hcursor
    rw [hlast, ← hi, Nat.add_succ_sub_one, Option.map_some]
    have hplace := Pool.turn?_eq_ahead? (p := c.roster.pool) (i := i)
      (Nat.lt_of_lt_of_le (by omega) hcursor)
    exact hplace.symm.trans (hturn i)

/-- **Failover is complete.** Let a request of an open client have at least as many attempts
as there are members, and let every member that fails do so in a way that is retried. If
some member delivers a response, the request comes to what is read from the response of the
first such member in turn, and it has tried that one and those before it, each of them once.
If no member delivers, it makes all its attempts and fails like the last of them. -/
theorem execute_failover (answer : Server → Reply) {body : Option String} {retry : Retry}
    (hpolicy : Retry.upTo? attempts kinds = .ok retry) (hretry : c.settings.retry = retry)
    (hbody : a.body = .ok body) (hopen : c.closed = false)
    (hmembers : c.roster.pool.members ≠ []) (hnodup : c.roster.pool.members.Nodup)
    (hceiling : c.roster.pool.members.length ≤ attempts.toNat)
    (hcursor : c.roster.pool.cursor.toNat + c.roster.pool.members.length ≤ 2 ^ 64)
    (hkinds : ∀ server ∈ c.roster.pool.members, ∀ failure,
      answer server = .error failure → failure.kind ∈ kinds) :
    ∃ outcome c' sent, c.execute (answeringAs answer) [] a o = (outcome, c', sent) ∧
      ((∃ server ∈ c.roster.pool.members, ∃ response, answer server = .ok response) →
        ∃ i, Found c.roster.pool answer a i outcome sent) ∧
      ((∀ server ∈ c.roster.pool.members, ∃ failure, answer server = .error failure) →
        Exhausted c.roster.pool answer attempts.toNat outcome sent) := by
  obtain rfl := Retry.upTo?_eq_ok hpolicy
  obtain ⟨e, he⟩ : ∃ e, Encoded.ofAction c.settings a o = .ok e := ofAction_of_body hbody o
  by_cases hlive : ∃ server ∈ c.roster.pool.members, ∃ response, answer server = .ok response
  · obtain ⟨i, outcome, c', sent, hexec, hfound⟩ :=
      exists_found hopen he hretry hnodup hceiling hcursor hkinds hlive
    refine ⟨outcome, c', sent, hexec, fun _ => ⟨i, hfound⟩, fun hdead => ?_⟩
    obtain ⟨server, hserver, response, hresponse⟩ := hlive
    obtain ⟨failure, hfailure⟩ := hdead server hserver
    rw [hresponse] at hfailure
    cases hfailure
  · have hpos := List.length_pos_iff.2 hmembers
    have hdead : ∀ server ∈ c.roster.pool.members, ∃ failure,
        answer server = .error failure := by
      intro server hserver
      cases hanswer : answer server with
      | ok response => exact absurd ⟨server, hserver, response, hanswer⟩ hlive
      | error failure => exact ⟨failure, rfl⟩
    obtain ⟨outcome, c', sent, hexec, hexhausted⟩ :=
      exists_exhausted hopen he hretry hmembers (by omega) hkinds hdead
    exact ⟨outcome, c', sent, hexec, fun h => absurd h hlive, fun _ => hexhausted⟩

/-- Three servers, of which the last is next and only the one in the middle is alive. -/
theorem execute_failover_round :
    let servers : List Server := [⟨"http://a"⟩, ⟨"http://b"⟩, ⟨"http://c"⟩]
    let retry : Retry := .upTo 3 FailureKind.usuallyRecoverable
    let c : Client := { settings := { retry }, roster := ⟨⟨servers, servers, 2⟩, []⟩ }
    let answer : Server → Reply := fun server =>
      if server = ⟨"http://b"⟩ then .ok {}
      else .error ⟨.connectRefused, server.base, "refused"⟩
    Retry.upTo? 3 FailureKind.usuallyRecoverable = .ok retry ∧ ping.body = .ok none ∧
      c.closed = false ∧ servers ≠ [] ∧ servers.Nodup ∧
      (∀ server ∈ servers, ∀ failure, answer server = .error failure →
        failure.kind ∈ FailureKind.usuallyRecoverable) ∧
      ∃ outcome c' sent, c.execute (answeringAs answer) [] ping {} = (outcome, c', sent) ∧
        sent.length = 3 := by
  intro servers retry c answer
  have hpolicy : Retry.upTo? 3 FailureKind.usuallyRecoverable = .ok retry := rfl
  have hmembers : servers ≠ [] := by simp [servers]
  have hnodup : servers.Nodup := by decide
  have hkinds : ∀ server ∈ servers, ∀ failure, answer server = .error failure →
      failure.kind ∈ FailureKind.usuallyRecoverable := by
    intro server _ failure hfailure
    by_cases hb : server = ⟨"http://b"⟩
    · simp [answer, hb] at hfailure
    · simp only [answer, if_neg hb, Except.error.injEq] at hfailure
      subst hfailure
      exact List.mem_cons_self
  refine ⟨hpolicy, rfl, rfl, hmembers, hnodup, hkinds, ?_⟩
  obtain ⟨outcome, c', sent, hexec, hfound, -⟩ :=
    execute_failover (c := c) (a := ping) (o := {}) answer hpolicy rfl rfl rfl hmembers hnodup
      (by decide) (by decide) hkinds
  obtain ⟨i, hi⟩ := hfound ⟨⟨"http://b"⟩, by simp [c, servers], {}, rfl⟩
  refine ⟨outcome, c', sent, hexec, hi.attempts.trans ?_⟩
  -- The one that is alive stands two places on.
  obtain ⟨server, response, hplace, hresponse⟩ := hi.first.1
  have hb : server = ⟨"http://b"⟩ := by
    by_contra hne
    simp [answer, hne] at hresponse
  have hbefore : ∀ j < 2, c.roster.pool.ahead? j ≠ some ⟨"http://b"⟩ := by decide
  have hnot : ¬ i < 2 := fun hlt => hbefore i hlt (hb ▸ hplace)
  have hnear : i < 3 := hi.near
  omega

end Client

end Failover
