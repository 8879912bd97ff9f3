import Failover.Client.Execute
import Failover.Proofs.Pool

/-!
# The loop of attempts, unrolled

`Client.drive` goes on until a request has ended. Here it is taken apart into what one
step does (`start_cases`, `resume_cases`), and put together again for a request whose
replies are known in advance: as long as the policy asks for another attempt the loop is
where it was, one attempt further (`dispatch_repeats`), and the first reply after which it
does not is the end of it (`execute_eq`).

Nothing is said about which replies the policy repeats after. A step changes a client
in two places only, the cursor and the ledger, and leaves the size of the pool in the
ledger alone: that is `Client.Stepped`.
-/

namespace Failover

/-- A transport with these replies in turn, beginning with `replies 1`, whatever the
requests are. Its state is the list of requests it was given. -/
def answering (replies : Nat → Reply) : Transport (List Request) :=
  fun sent request => (replies (sent.length + 1), sent ++ [request])

/-- The reply to an attempt is a failure after which the policy wants another one. -/
def RetryPolicy.repeats (p : RetryPolicy) (attempts : UInt32) (request : Request) : Reply → Bool
  | .ok _ => false
  | .error failure => p.again failure attempts request

/-- What an attempt makes of its request if no other follows. -/
def Flight.outcome (f : Flight) : Reply → Outcome
  | .ok response => f.interpret response f.request.url
  | .error failure => .error (Client.failureError f.server failure)

namespace Client

/-- The step of a request led from one client to another: the pool is now `pool`, and
besides it only counters were touched. -/
structure Stepped (c c' : Client) (pool : Pool) : Prop where
  settings : c'.settings = c.settings
  closed : c'.closed = c.closed
  pool_eq : c'.roster.pool = pool
  gauge : c'.roster.ledger.poolSize? = c.roster.ledger.poolSize?

/-! ## What one step does -/

theorem dispatch_of_turn? {c : Client} {server : Server} (h : c.roster.pool.turn? 0 = some server)
    (e : Encoded) (interpret : Response → String → Outcome) (attempts : UInt32) :
    ∃ c', c.dispatch e interpret attempts = (c', .waiting ⟨e, interpret, server, attempts + 1⟩) ∧
      c.Stepped c' c.roster.pool.advance := by
  unfold dispatch
  rw [Roster.next_of_turn? h]
  exact ⟨_, rfl, rfl, rfl, rfl, rfl⟩

theorem start_of_closed {c : Client} (h : c.closed = true) (a : Action) (o : Options) :
    c.start a o = (c, .ended (.error .shutdown)) := by
  unfold start
  rw [if_pos h]

theorem start_of_error {c : Client} {a : Action} {o : Options} {err : ClientError}
    (hopen : c.closed = false) (he : Encoded.ofAction c.settings a o = .error err) :
    ∃ c', c.start a o = (c', .ended (.error err)) ∧ c.Stepped c' c.roster.pool := by
  unfold start
  rw [if_neg (by simp [hopen]), he]
  exact ⟨_, rfl, rfl, rfl, rfl, rfl⟩

theorem start_of_ok {c : Client} {a : Action} {o : Options} {e : Encoded}
    (hopen : c.closed = false) (he : Encoded.ofAction c.settings a o = .ok e) :
    c.start a o = c.dispatch e a.interpret 0 := by
  unfold start
  rw [if_neg (by simp [hopen]), he]

theorem dispatch_settings (c : Client) (e : Encoded) (interpret : Response → String → Outcome)
    (attempts : UInt32) : (c.dispatch e interpret attempts).1.settings = c.settings := by
  unfold dispatch
  split <;> rfl

theorem start_settings (c : Client) (a : Action) (o : Options) :
    (c.start a o).1.settings = c.settings := by
  unfold start
  split
  · rfl
  · split
    · rfl
    · rw [dispatch_settings]

/-- The way a client was set up does not change while a request goes on. -/
theorem resume_settings (c : Client) (f : Flight) (reply : Reply) :
    (c.resume f reply).1.settings = c.settings := by
  unfold resume
  cases reply with
  | ok response => rfl
  | error failure =>
    simp only
    split
    · rw [dispatch_settings]
      rfl
    · rfl

/-- A reply after which the policy wants no other attempt ends the request. -/
theorem resume_of_not_repeats {c : Client} {f : Flight} {reply : Reply}
    (h : c.settings.retry.repeats f.attempts f.request reply = false) :
    ∃ c', c.resume f reply = (c', .ended (f.outcome reply)) ∧ c.Stepped c' c.roster.pool := by
  unfold resume
  cases reply with
  | ok response => exact ⟨_, rfl, rfl, rfl, rfl, rfl⟩
  | error failure =>
    have hr : (c.record (.attemptFailure failure.kind.name f.server.base)).settings.retry.again
        failure f.attempts f.request = false := h
    simp only [hr, Bool.false_eq_true, if_false]
    exact ⟨_, rfl, rfl, rfl, rfl, rfl⟩

/-- After any other reply the request is sent to the server whose turn it is, if there
is one. -/
theorem resume_of_repeats {c : Client} {f : Flight} {reply : Reply}
    (h : c.settings.retry.repeats f.attempts f.request reply = true) :
    ∃ c₁, c.resume f reply = c₁.dispatch f.encoded f.interpret f.attempts ∧
      c.Stepped c₁ c.roster.pool := by
  unfold resume
  cases reply with
  | ok response => cases h
  | error failure =>
    have hr : (c.record (.attemptFailure failure.kind.name f.server.base)).settings.retry.again
        failure f.attempts f.request = true := h
    simp only [hr, if_true]
    exact ⟨_, rfl, rfl, rfl, rfl, rfl⟩

theorem resume_of_turn? {c : Client} {f : Flight} {reply : Reply} {server : Server}
    (h : c.settings.retry.repeats f.attempts f.request reply = true)
    (hturn : c.roster.pool.turn? 0 = some server) :
    ∃ c', c.resume f reply =
        (c', .waiting ⟨f.encoded, f.interpret, server, f.attempts + 1⟩) ∧
      c.Stepped c' c.roster.pool.advance := by
  obtain ⟨c₁, hres, h₁⟩ := resume_of_repeats h
  obtain ⟨c', hdis, h'⟩ := dispatch_of_turn? (h₁.pool_eq ▸ hturn) f.encoded f.interpret f.attempts
  refine ⟨c', hres.trans hdis, h'.settings.trans h₁.settings, h'.closed.trans h₁.closed, ?_,
    h'.gauge.trans h₁.gauge⟩
  rw [h'.pool_eq, h₁.pool_eq]

/-! ## What a step comes to

As long as the pool has members there is no other way to go. -/

/-- The pool after a step that has led there: whenever a request is sent, the turn has
moved on. -/
def poolAfter (pool : Pool) : Progress → Pool
  | .waiting _ => pool.advance
  | .ended _ => pool

@[simp] theorem poolAfter_members (pool : Pool) (p : Progress) :
    (poolAfter pool p).members = pool.members := by
  cases p <;> rfl

theorem start_cases {c : Client} (hmembers : c.roster.pool.members ≠ []) (a : Action)
    (o : Options) :
    (c.closed = true ∧ c.start a o = (c, .ended (.error .shutdown))) ∨
    (∃ err c', c.closed = false ∧ Encoded.ofAction c.settings a o = .error err ∧
      c.start a o = (c', .ended (.error err)) ∧ c.Stepped c' c.roster.pool) ∨
    ∃ e server c', c.closed = false ∧ Encoded.ofAction c.settings a o = .ok e ∧
      c.roster.pool.turn? 0 = some server ∧
      c.start a o = (c', .waiting ⟨e, a.interpret, server, 1⟩) ∧
      c.Stepped c' c.roster.pool.advance := by
  cases hclosed : c.closed with
  | true => exact Or.inl ⟨rfl, start_of_closed hclosed a o⟩
  | false =>
    right
    cases he : Encoded.ofAction c.settings a o with
    | error err =>
      obtain ⟨c', hstart, hstep⟩ := start_of_error hclosed he
      exact Or.inl ⟨err, c', rfl, rfl, hstart, hstep⟩
    | ok e =>
      obtain ⟨server, hturn⟩ := Pool.exists_turn? hmembers 0
      obtain ⟨c', hdis, hstep⟩ := dispatch_of_turn? hturn e a.interpret 0
      exact Or.inr ⟨e, server, c', rfl, rfl, hturn, (start_of_ok hclosed he).trans hdis, hstep⟩

theorem resume_cases {c : Client} (hmembers : c.roster.pool.members ≠ []) (f : Flight)
    (reply : Reply) :
    (c.settings.retry.repeats f.attempts f.request reply = false ∧
      ∃ c', c.resume f reply = (c', .ended (f.outcome reply)) ∧ c.Stepped c' c.roster.pool) ∨
    (c.settings.retry.repeats f.attempts f.request reply = true ∧
      ∃ server c', c.roster.pool.turn? 0 = some server ∧
        c.resume f reply = (c', .waiting ⟨f.encoded, f.interpret, server, f.attempts + 1⟩) ∧
        c.Stepped c' c.roster.pool.advance) := by
  cases hrep : c.settings.retry.repeats f.attempts f.request reply with
  | false => exact Or.inl ⟨rfl, resume_of_not_repeats hrep⟩
  | true =>
    obtain ⟨server, hturn⟩ := Pool.exists_turn? hmembers 0
    obtain ⟨c', hres, hstep⟩ := resume_of_turn? hrep hturn
    exact Or.inr ⟨rfl, server, c', hturn, hres, hstep⟩

theorem start_stepped {c : Client} (hmembers : c.roster.pool.members ≠ []) (a : Action)
    (o : Options) : c.Stepped (c.start a o).1 (poolAfter c.roster.pool (c.start a o).2) := by
  rcases start_cases hmembers a o with
    ⟨-, h⟩ | ⟨_, _, -, -, h, hstep⟩ | ⟨_, _, _, -, -, -, h, hstep⟩
  · rw [h]
    exact ⟨rfl, rfl, rfl, rfl⟩
  · rw [h]
    exact hstep
  · rw [h]
    exact hstep

theorem resume_stepped {c : Client} (hmembers : c.roster.pool.members ≠ []) (f : Flight)
    (reply : Reply) :
    c.Stepped (c.resume f reply).1 (poolAfter c.roster.pool (c.resume f reply).2) := by
  rcases resume_cases hmembers f reply with ⟨-, _, h, hstep⟩ | ⟨-, _, _, -, h, hstep⟩
  · rw [h]
    exact hstep
  · rw [h]
    exact hstep

/-- An attempt is made at the server whose turn it is. -/
theorem turn?_of_start {c : Client} (hmembers : c.roster.pool.members ≠ []) {a : Action}
    {o : Options} {f : Flight} (h : (c.start a o).2 = .waiting f) :
    c.roster.pool.turn? 0 = some f.server := by
  rcases start_cases hmembers a o with
    ⟨-, hs⟩ | ⟨_, _, -, -, hs, -⟩ | ⟨_, _, _, -, -, hturn, hs, -⟩
  · rw [hs] at h; cases h
  · rw [hs] at h; cases h
  · rw [hs] at h; cases h; exact hturn

theorem turn?_of_resume {c : Client} (hmembers : c.roster.pool.members ≠ []) {f f' : Flight}
    {reply : Reply} (h : (c.resume f reply).2 = .waiting f') :
    c.roster.pool.turn? 0 = some f'.server := by
  rcases resume_cases hmembers f reply with ⟨-, _, hr, -⟩ | ⟨-, _, _, hturn, hr, -⟩
  · rw [hr] at h; cases h
  · rw [hr] at h; cases h; exact hturn

/-! ## All steps -/

variable {σ : Type}

theorem drive_ended (send : Transport σ) (s : σ) (c : Client) (outcome : Outcome) :
    drive send s c (.ended outcome) = (outcome, c, s) := by
  rw [drive]

theorem drive_waiting (send : Transport σ) (s : σ) (c : Client) (f : Flight) :
    drive send s c (.waiting f) =
      drive send (send s f.request).2 (c.resume f (send s f.request).1).1
        (c.resume f (send s f.request).1).2 := by
  rw [drive]

/-- What the policy is asked in the course of a request: each failure, and the number of
attempts that it is told. -/
def questions (send : Transport σ) (s : σ) (c : Client) : Progress → List (Failure × UInt32)
  | .ended _ => []
  | .waiting f =>
    let reply := send s f.request
    let next := c.resume f reply.1
    let more := questions send reply.2 next.1 next.2
    match reply.1 with
    | .ok _ => more
    | .error failure => (failure, f.attempts) :: more
termination_by p => p.remaining
decreasing_by exact resume_remaining c f _

/-- The question about a reply, if it is a failure. -/
def question? (attempts : Nat) : Reply → Option (Failure × UInt32)
  | .ok _ => none
  | .error failure => some (failure, UInt32.ofNat attempts)

theorem questions_waiting (send : Transport σ) (s : σ) (c : Client) (f : Flight) {n : Nat}
    (hn : f.attempts = UInt32.ofNat n) :
    questions send s c (.waiting f) =
      (question? n (send s f.request).1).toList ++
        questions send (send s f.request).2 (c.resume f (send s f.request).1).1
          (c.resume f (send s f.request).1).2 := by
  rw [questions]
  cases (send s f.request).1 with
  | ok response => simp [question?]
  | error failure => simp [question?, hn]

/-- While the policy wants another attempt after every reply, the loop has come to the
next server in turn and has asked one question for each reply. The transport has gone through
`states` by then. -/
theorem dispatch_repeats {send : Transport σ} {states : Nat → σ} (replies : Nat → Reply)
    {c : Client} (e : Encoded) (interpret : Response → String → Outcome)
    (servers : Nat → Server) :
    ∀ i, (∀ j ≤ i, c.roster.pool.turn? j = some (servers j)) →
      (∀ j < i, send (states j) (e.bind (servers j)) = (replies (j + 1), states (j + 1))) →
      (∀ j < i, c.settings.retry.repeats (UInt32.ofNat (j + 1)) (e.bind (servers j))
        (replies (j + 1)) = true) →
      ∃ c', c'.settings = c.settings ∧
        (∀ j, c'.roster.pool.turn? j = c.roster.pool.turn? (i + 1 + j)) ∧
        drive send (states 0) (c.dispatch e interpret 0).1 (c.dispatch e interpret 0).2 =
          drive send (states i) c'
            (.waiting ⟨e, interpret, servers i, UInt32.ofNat (i + 1)⟩) ∧
        questions send (states 0) (c.dispatch e interpret 0).1 (c.dispatch e interpret 0).2 =
          (List.range i).filterMap (fun j => question? (j + 1) (replies (j + 1))) ++
            questions send (states i) c'
              (.waiting ⟨e, interpret, servers i, UInt32.ofNat (i + 1)⟩) := by
  -- On the number of attempts that are repeated. What is carried along is the client, of
  -- which only the turn matters, and the number on the attempt that waits.
  intro i
  induction i with
  | zero =>
    intro hturn _ _
    obtain ⟨c', hdis, h'⟩ := dispatch_of_turn? (hturn 0 (Nat.le_refl _)) e interpret 0
    refine ⟨c', h'.settings, fun j => ?_, ?_, ?_⟩
    · rw [h'.pool_eq, Pool.turn?_advance, Nat.add_comm]
    · rw [hdis]; rfl
    · rw [hdis]; rfl
  | succ i ih =>
    intro hturn hreply hrep
    obtain ⟨c₁, hset, hpool, hdrive, hasked⟩ := ih (fun j hj => hturn j (by omega))
      (fun j hj => hreply j (by omega)) fun j hj => hrep j (by omega)
    let f : Flight := ⟨e, interpret, servers i, UInt32.ofNat (i + 1)⟩
    have hlast : send (states i) f.request = (replies (i + 1), states (i + 1)) :=
      hreply i (by omega)
    have hr : c₁.settings.retry.repeats f.attempts f.request (replies (i + 1)) = true := by
      rw [hset]
      exact hrep i (by omega)
    have ht : c₁.roster.pool.turn? 0 = some (servers (i + 1)) := by
      rw [hpool]
      exact hturn (i + 1) (Nat.le_refl _)
    obtain ⟨c', hres, h'⟩ := resume_of_turn? hr ht
    have hcount : f.attempts + 1 = UInt32.ofNat (i + 1 + 1) := by
      rw [UInt32.ofNat_add (i + 1) 1]
      rfl
    rw [hcount] at hres
    refine ⟨c', h'.settings.trans hset, fun j => ?_, ?_, ?_⟩
    · rw [h'.pool_eq, Pool.turn?_advance, hpool]
      congr 1
      omega
    · rw [hdrive, drive_waiting, hlast, hres]
    · rw [hasked, questions_waiting _ _ _ _ rfl, hlast, hres, ← List.append_assoc]
      congr 1
      rw [List.range_succ, List.filterMap_append]
      rfl

/-- **The loop in one equation.** If the policy wants another attempt after each of the
first `i` replies and none after the next one, a request makes `i + 1` attempts at the
servers in turn, and comes to what the last of them makes of it. -/
theorem execute_eq_of_states {send : Transport σ} (states : Nat → σ) (replies : Nat → Reply)
    {c : Client} {a : Action} {o : Options} {e : Encoded} {servers : Nat → Server} {i : Nat}
    (hopen : c.closed = false) (he : Encoded.ofAction c.settings a o = .ok e)
    (hturn : ∀ j ≤ i, c.roster.pool.turn? j = some (servers j))
    (hreply : ∀ j ≤ i,
      send (states j) (e.bind (servers j)) = (replies (j + 1), states (j + 1)))
    (hrep : ∀ j < i, c.settings.retry.repeats (UInt32.ofNat (j + 1)) (e.bind (servers j))
      (replies (j + 1)) = true)
    (hlast : c.settings.retry.repeats (UInt32.ofNat (i + 1)) (e.bind (servers i))
      (replies (i + 1)) = false) :
    (∃ c', c.execute send (states 0) a o =
      (Flight.outcome ⟨e, a.interpret, servers i, UInt32.ofNat (i + 1)⟩ (replies (i + 1)), c',
        states (i + 1))) ∧
    questions send (states 0) (c.start a o).1 (c.start a o).2 =
      (List.range (i + 1)).filterMap fun j => question? (j + 1) (replies (j + 1)) := by
  obtain ⟨c₁, hset, -, hdrive, hasked⟩ := dispatch_repeats replies e a.interpret servers i hturn
    (fun j hj => hreply j (Nat.le_of_lt hj)) hrep
  let f : Flight := ⟨e, a.interpret, servers i, UInt32.ofNat (i + 1)⟩
  have hend : send (states i) f.request = (replies (i + 1), states (i + 1)) :=
    hreply i (Nat.le_refl _)
  obtain ⟨c', hres, -⟩ := resume_of_not_repeats (c := c₁) (f := f) (by rw [hset]; exact hlast)
  constructor
  · refine ⟨c', ?_⟩
    unfold execute
    rw [start_of_ok hopen he]
    show drive _ _ (c.dispatch e a.interpret 0).1 (c.dispatch e a.interpret 0).2 = _
    rw [hdrive, drive_waiting, hend, hres, drive_ended]
  · rw [start_of_ok hopen he, hasked, questions_waiting _ _ _ _ rfl, hend, hres, questions,
      List.append_nil, List.range_succ, List.filterMap_append]
    rfl

/-- The same with replies that were known in advance. The requests are kept. -/
theorem execute_eq {c : Client} {a : Action} {o : Options} {e : Encoded}
    {servers : Nat → Server} {replies : Nat → Reply} {i : Nat}
    (hopen : c.closed = false) (he : Encoded.ofAction c.settings a o = .ok e)
    (hturn : ∀ j ≤ i, c.roster.pool.turn? j = some (servers j))
    (hrep : ∀ j < i, c.settings.retry.repeats (UInt32.ofNat (j + 1)) (e.bind (servers j))
      (replies (j + 1)) = true)
    (hlast : c.settings.retry.repeats (UInt32.ofNat (i + 1)) (e.bind (servers i))
      (replies (i + 1)) = false) :
    (∃ c', c.execute (answering replies) [] a o =
      (Flight.outcome ⟨e, a.interpret, servers i, UInt32.ofNat (i + 1)⟩ (replies (i + 1)), c',
        (List.range (i + 1)).map fun j => e.bind (servers j))) ∧
    questions (answering replies) [] (c.start a o).1 (c.start a o).2 =
      (List.range (i + 1)).filterMap fun j => question? (j + 1) (replies (j + 1)) :=
  execute_eq_of_states (fun j => (List.range j).map fun j => e.bind (servers j)) replies
    hopen he hturn (fun j _ => by simp [answering, List.range_succ]) hrep hlast

end Client

end Failover
