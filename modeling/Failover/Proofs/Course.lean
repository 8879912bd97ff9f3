import Failover.Proofs.Loop

/-!
# The course of one request

Among others a request sees little of what goes on: the servers that its attempts are
sent to, and the replies that come back. `Client.UnderWay` and `Client.Ended` are all
the courses that it can take then, whichever those servers and replies are. Nothing in
them speaks of the pool.

Such a course is never more than the loop run by itself (`Ended.execute`): on a client
whose members are the servers that were given, in that order, and with the replies that
came. So whoever shows that a request in a crowd takes one of these courses has shown
that the crowd decides on the servers only.

The count of attempts is the number of requests sent and does not wrap around, because
no policy wants an attempt that cannot be counted.
-/

namespace Failover.Client

/-- The client with these servers as its members, the first of them to come. -/
def serving (c : Client) (servers : List Server) : Client :=
  { c with roster := { c.roster with pool := c.roster.pool.withMembers servers } }

variable {c : Client} {a : Action} {o : Options}

/-- After these requests with their replies, all of them failures to be repeated, the
attempt waits for its reply. -/
inductive UnderWay (c : Client) (a : Action) (o : Options) :
    List (Request × Reply) → Flight → Prop where
  | sent {e : Encoded} {server : Server} (isOpen : c.closed = false)
      (encoded : Encoded.ofAction c.settings a o = .ok e) :
      UnderWay c a o [] ⟨e, a.interpret, server, 1⟩
  | repeated {xs : List (Request × Reply)} {f : Flight} {reply : Reply} {server : Server}
      (before : UnderWay c a o xs f)
      (again : c.settings.retry.repeats f.attempts f.request reply = true) :
      UnderWay c a o (xs ++ [(f.request, reply)])
        ⟨f.encoded, f.interpret, server, f.attempts + 1⟩

/-- With these requests and their replies the request has come to an end. -/
inductive Ended (c : Client) (a : Action) (o : Options) :
    List (Request × Reply) → Outcome → Prop where
  | refused (isClosed : c.closed = true) : Ended c a o [] (.error .shutdown)
  | unencodable {err : ClientError} (isOpen : c.closed = false)
      (encoded : Encoded.ofAction c.settings a o = .error err) : Ended c a o [] (.error err)
  | replied {xs : List (Request × Reply)} {f : Flight} {reply : Reply}
      (before : UnderWay c a o xs f)
      (again : c.settings.retry.repeats f.attempts f.request reply = false) :
      Ended c a o (xs ++ [(f.request, reply)]) (f.outcome reply)

/-- The reply after which there is another attempt is a failure, and the count goes
on. -/
theorem repeats_eq_true {p : RetryPolicy} {attempts : UInt32} {request : Request}
    {reply : Reply} (h : p.repeats attempts request reply = true) :
    (∃ failure, reply = .error failure) ∧ (attempts + 1).toNat = attempts.toNat + 1 := by
  cases reply with
  | ok response => cases h
  | error failure => exact ⟨⟨failure, rfl⟩, RetryPolicy.toNat_of_again h⟩

namespace UnderWay

variable {xs : List (Request × Reply)} {f : Flight}

theorem isOpen (h : c.UnderWay a o xs f) : c.closed = false := by
  induction h with
  | sent hopen _ => exact hopen
  | repeated _ _ ih => exact ih

theorem encoded (h : c.UnderWay a o xs f) :
    Encoded.ofAction c.settings a o = .ok f.encoded ∧ f.interpret = a.interpret := by
  induction h with
  | sent _ he => exact ⟨he, rfl⟩
  | repeated _ _ ih => exact ih

theorem attempts (h : c.UnderWay a o xs f) : f.attempts.toNat = xs.length + 1 := by
  induction h with
  | sent _ _ => rfl
  | repeated _ hagain ih =>
    rw [(repeats_eq_true hagain).2, ih, List.length_append, List.length_singleton]

/-- Each reply so far was to be repeated, with the number of its attempt. -/
theorem repeats (h : c.UnderWay a o xs f) :
    ∀ i x, xs[i]? = some x → c.settings.retry.repeats (UInt32.ofNat (i + 1)) x.1 x.2 = true := by
  induction h with
  | sent _ _ => intro i x hx; cases hx
  | @repeated xs f reply server hbefore hagain ih =>
    intro i x hx
    rw [List.getElem?_append] at hx
    split at hx
    · exact ih i x hx
    next hi =>
      -- Only the last reply is left, and its attempt is the one that was waiting.
      obtain ⟨hlt, rfl⟩ := List.getElem?_eq_some_iff.1 hx
      rw [List.length_singleton] at hlt
      have hcount : UInt32.ofNat (i + 1) = f.attempts := by
        have hi' : i + 1 = f.attempts.toNat := by rw [hbefore.attempts]; omega
        rw [hi', UInt32.ofNat_toNat]
      rw [hcount, List.getElem_singleton]
      exact hagain

/-- All requests are the same, but for the server. -/
theorem request_eq (h : c.UnderWay a o xs f) :
    ∀ x ∈ xs, x.1 = f.encoded.bind x.1.server := by
  induction h with
  | sent _ _ => intro x hx; cases hx
  | repeated _ _ ih =>
    intro x hx
    rcases List.mem_append.1 hx with hx | hx
    · exact ih x hx
    · rw [List.mem_singleton.1 hx]
      rfl

/-- Each reply so far was a failure. -/
theorem failed (h : c.UnderWay a o xs f) :
    ∀ (i : Nat) (x : Request × Reply), xs[i]? = some x → ∃ failure, x.2 = .error failure :=
  fun i x hx => (repeats_eq_true (h.repeats i x hx)).1

/-- With the attempt that waits, these are the requests that were sent. -/
theorem requests_eq (h : c.UnderWay a o xs f) (reply : Reply) :
    let members := (xs ++ [(f.request, reply)]).map fun x => x.1.server
    ((List.range (xs.length + 1)).map fun j => f.encoded.bind (members.getD j f.server)) =
      (xs ++ [(f.request, reply)]).map Prod.fst := by
  intro members
  have hmembers : (List.range (xs.length + 1)).map (fun j => members.getD j f.server) =
      members := by
    apply List.ext_getElem
    · simp [members]
    · intro j hj hj'
      rw [List.getElem_map, List.getElem_range, List.getD_eq_getElem?_getD,
        List.getElem?_eq_getElem hj', Option.getD_some]
  have hbind : members.map f.encoded.bind = (xs ++ [(f.request, reply)]).map Prod.fst := by
    rw [List.map_map]
    apply List.map_congr_left
    intro x hx
    rcases List.mem_append.1 hx with hx | hx
    · exact (h.request_eq x hx).symm
    · rw [List.mem_singleton.1 hx]
      rfl
  rw [← hbind, ← hmembers, List.map_map, hmembers]
  rfl

end UnderWay

namespace Ended

variable {xs : List (Request × Reply)} {outcome : Outcome}

/-- Each reply but the last was a failure. -/
theorem failed (h : c.Ended a o xs outcome) :
    ∀ (i : Nat) (x : Request × Reply), i + 1 < xs.length → xs[i]? = some x →
      ∃ failure, x.2 = .error failure := by
  intro i x hi hx
  cases h with
  | refused _ => cases hx
  | unencodable _ _ => cases hx
  | @replied ys f reply hbefore _ =>
    rw [List.length_append, List.length_singleton] at hi
    rw [List.getElem?_append_left (by omega)] at hx
    exact hbefore.failed i x hx

/-- **A course is a run of the loop.** A request that ended with these replies ends the
same way by itself, on a client that has the servers of its attempts as members, and
with the same requests. What would be replied later does not matter. -/
theorem execute (h : c.Ended a o xs outcome) {replies : Nat → Reply}
    (hreplies : ∀ (i : Nat) (x : Request × Reply), xs[i]? = some x → replies (i + 1) = x.2) :
    ∃ c', (c.serving (xs.map fun x => x.1.server)).execute (answering replies) [] a o =
      (outcome, c', xs.map Prod.fst) := by
  cases h with
  | refused hclosed =>
    refine ⟨c.serving [], ?_⟩
    show drive _ _ ((c.serving []).start a o).1 ((c.serving []).start a o).2 = _
    rw [start_of_closed (c := c.serving []) hclosed, drive_ended]
    rfl
  | unencodable hopen he =>
    obtain ⟨c', hstart, -⟩ := start_of_error (c := c.serving []) hopen he
    refine ⟨c', ?_⟩
    show drive _ _ ((c.serving []).start a o).1 ((c.serving []).start a o).2 = _
    rw [hstart, drive_ended]
    rfl
  | @replied ys f reply hbefore hagain =>
    -- The turn starts at the first member, so it goes through the servers as they were
    -- given, and there are too few of them for the counter to come round.
    let members := (ys ++ [(f.request, reply)]).map fun x => x.1.server
    let servers : Nat → Server := fun i => members.getD i f.server
    have hlength : members.length = ys.length + 1 := by simp [members]
    have hlast : servers ys.length = f.server := by
      simp [servers, members, List.getD, Flight.request, Encoded.bind]
    have hcount : f.attempts = UInt32.ofNat (ys.length + 1) := by
      rw [← hbefore.attempts, UInt32.ofNat_toNat]
    have hturn : ∀ j ≤ ys.length,
        (c.serving members).roster.pool.turn? j = some (servers j) := by
      intro j hj
      have hlt : j < members.length := by omega
      have hsize : members.length ≤ UInt64.size := by
        have hsmall : UInt32.size ≤ UInt64.size := by decide
        rw [hlength, ← hbefore.attempts]
        exact Nat.le_trans (Nat.le_of_lt f.attempts.toNat_lt) hsmall
      rw [Pool.turn?_of_cursor_eq_zero rfl hsize hlt]
      show members[j]? = some (members.getD j f.server)
      rw [List.getD_eq_getElem?_getD, List.getElem?_eq_getElem hlt, Option.getD_some]
    have hrep : ∀ j < ys.length,
        c.settings.retry.repeats (UInt32.ofNat (j + 1)) (f.encoded.bind (servers j))
          (replies (j + 1)) = true := by
      intro j hj
      have hx : ys[j]? = some ys[j] := List.getElem?_eq_getElem hj
      have hserver : servers j = ys[j].1.server := by
        simp [servers, members, List.getD, List.getElem?_append_left, hj]
      rw [hreplies j ys[j] (by rw [List.getElem?_append_left hj, hx]), hserver,
        ← hbefore.request_eq ys[j] (List.getElem_mem hj)]
      exact hbefore.repeats j ys[j] hx
    have hreply : replies (ys.length + 1) = reply :=
      hreplies ys.length (f.request, reply) (by simp)
    have hend : c.settings.retry.repeats (UInt32.ofNat (ys.length + 1))
        (f.encoded.bind (servers ys.length)) (replies (ys.length + 1)) = false := by
      rw [hreply, ← hcount, hlast]
      exact hagain
    obtain ⟨⟨c', hexec⟩, -⟩ := execute_eq (c := c.serving members) hbefore.isOpen
      hbefore.encoded.1 hturn hrep hend
    refine ⟨c', ?_⟩
    show (c.serving members).execute _ _ _ _ = _
    rw [hexec, hlast, ← hcount, hreply, ← hbefore.encoded.2, hbefore.requests_eq reply]

end Ended

end Failover.Client
