import Failover.Proofs.Dispatches
import Failover.Proofs.Rotation

/-!
# Requests are spread evenly

As long as the membership stays and no caller takes a server for a purpose of its own, the
turn moves on with the requests that are sent and with nothing else: each of them goes one
place further along the ring than the one before it, whoever sends it and however often
(`System.steady_run`). So the order of the requests is the only thing that decides where they
go, and the rotation of `Proofs.Rotation` is one of all requests together.

That the ring is gone round without a jump needs the counter not to come round. It shows
how many servers were asked for since the turn began anew (`System.cursor_run`), and so the
bound is one on that number.
-/

namespace Failover.System

variable {s : System} {e : Event}

/-! ## Counting selections -/

/-- How many servers the pool is asked for with an event: by a caller, or to send a
request to. -/
def selections (s : System) : Event → Nat
  | .nextServer => 1
  | e => (s.step e).dispatched.length - s.dispatched.length

/-- How many servers the pool was asked for since the turn began anew, if there were `n` of
them before these events. -/
def selectionsSince (s : System) (n : Nat) : List Event → Nat
  | [] => n
  | e :: r => (s.step e).selectionsSince (if s.alters e then 0 else n + s.selections e) r

theorem selectionsSince_append (before after : List Event) :
    ∀ (s : System) (n : Nat), s.selectionsSince n (before ++ after) =
      (s.run before).selectionsSince (s.selectionsSince n before) after := by
  induction before with
  | nil => intro s n; rfl
  | cons e r ih => intro s n; exact ih _ _

theorem selections_of_ne (h : e ≠ .nextServer) :
    s.selections e = (s.step e).dispatched.length - s.dispatched.length := by
  cases e with
  | nextServer => exact absurd rfl h
  | _ => rfl

theorem selections_of_rests (h : e ≠ .nextServer)
    (hdispatched : (s.step e).dispatched = s.dispatched) : s.selections e = 0 := by
  rw [selections_of_ne h, hdispatched, Nat.sub_self]

theorem Sends.selections {o : Origin} {work : Work} {f : Flight} (h : s.Sends e o work f) :
    s.selections e = 1 := by
  rw [selections_of_ne (Event.ne_nextServer h.actor), h.dispatched, List.length_cons,
    Nat.add_sub_cancel_left]

/-- The counter shows how many servers were asked for. -/
theorem cursor_run (events : List Event) : ∀ {s : System} {n : Nat},
    s.client.roster.pool.Stocked → s.client.roster.pool.cursor = UInt64.ofNat n →
    (s.run events).client.roster.pool.cursor = UInt64.ofNat (s.selectionsSince n events) := by
  induction events with
  | nil => intro s n _ h; exact h
  | cons e r ih =>
    intro s n hstocked h
    have hnext : (s.step e).client.roster.pool.Stocked := run_stocked [e] hstocked
    refine ih hnext ?_
    cases turnStep hstocked.members e with
    | rests hother hsteady hdispatched hpool =>
      rw [hsteady, selections_of_rests hother hdispatched, hpool, h]
      rfl
    | asks hevent hsteady _ hpool =>
      subst hevent
      rw [hsteady, hpool, Pool.advance, h]
      exact (UInt64.ofNat_add n 1).symm
    | sends hsteady hsends =>
      rw [hsteady, hsends.selections, hsends.pool, Pool.advance, h]
      exact (UInt64.ofNat_add n 1).symm
    | alters haltered _ hcursor =>
      rw [haltered, hcursor]
      rfl

/-! ## The requests of a stretch -/

/-- In these events the membership stays, and no caller asks for a server. -/
def Steady (s : System) (events : List Event) : Prop :=
  ∀ mid e rest, events = mid ++ e :: rest → e ≠ .nextServer ∧ (s.run mid).alters e = false

theorem steady_nil (s : System) : s.Steady [] := by
  intro mid e rest h
  simp at h

theorem steady_cons {r : List Event} :
    s.Steady (e :: r) ↔ e ≠ .nextServer ∧ s.alters e = false ∧ (s.step e).Steady r := by
  constructor
  · intro h
    have hhead := h [] e r rfl
    refine ⟨hhead.1, hhead.2, ?_⟩
    rintro mid e' rest rfl
    exact h (e :: mid) e' rest rfl
  · rintro ⟨hother, hkept, hrest⟩ mid e' rest hsplit
    rcases mid with _ | ⟨e₁, mid⟩
    · cases hsplit
      exact ⟨hother, hkept⟩
    · cases hsplit
      exact hrest mid e' rest rfl

/-- One request after the other goes to the server whose turn it is. -/
theorem steady_run (events : List Event) : ∀ {s : System},
    s.client.roster.pool.Stocked → s.Steady events →
    ∃ sent : List Dispatch, (s.run events).dispatched = sent.reverse ++ s.dispatched ∧
      (∀ (j : Nat) (d : Dispatch), sent[j]? = some d →
        s.client.roster.pool.turn? j = some d.request.server) ∧
      ∀ n, s.selectionsSince n events = n + sent.length := by
  -- From the first event on. The turns are those of the state before the events, so a
  -- request in front of the others shifts them by one.
  induction events with
  | nil => intro s _ _; exact ⟨[], rfl, (fun j d h => by cases h), fun n => rfl⟩
  | cons e r ih =>
    intro s hstocked hsteady
    have hnext : (s.step e).client.roster.pool.Stocked := run_stocked [e] hstocked
    obtain ⟨hother, hkept, hrest⟩ := steady_cons.1 hsteady
    obtain ⟨sent, hlog, hturns, hcount⟩ := ih hnext hrest
    cases turnStep hstocked.members e with
    | rests _ _ hdispatched hpool =>
      refine ⟨sent, ?_, ?_, fun n => ?_⟩
      · rw [run_cons, hlog, hdispatched]
      · rw [← hpool]
        exact hturns
      · rw [selectionsSince, hkept, selections_of_rests hother hdispatched]
        exact hcount n
    | asks hevent _ _ _ => exact absurd hevent hother
    | alters haltered _ _ => rw [hkept] at haltered; cases haltered
    | @sends o work f _ hsends =>
      refine ⟨⟨o, f.request⟩ :: sent, ?_, fun j d hd => ?_, fun n => ?_⟩
      · rw [run_cons, hlog, hsends.dispatched]
        simp
      · cases j with
        | zero =>
          cases hd
          exact hsends.turn
        | succ j =>
          rw [← Pool.turn?_advance, ← hsends.pool]
          exact hturns j d hd
      · rw [selectionsSince, hkept, hsends.selections, List.length_cons]
        exact (hcount (n + 1)).trans (by omega)

/-- If requests go along the ring, a server was sent as many of them as it had turns. -/
theorem countP_of_ahead? {pool : Pool} {sent : List Dispatch}
    (h : ∀ (j : Nat) (d : Dispatch), sent[j]? = some d → pool.ahead? j = some d.request.server)
    (server : Server) :
    sent.countP (·.request.server = server) =
      (List.range sent.length).countP (fun j => pool.ahead? j = some server) := by
  have hplaces : sent.map (fun d => some d.request.server) =
      (List.range sent.length).map pool.ahead? := by
    apply List.ext_getElem
    · simp
    · intro j hj hj'
      rw [List.length_map] at hj
      rw [List.getElem_map, List.getElem_map, List.getElem_range]
      exact (h j sent[j] (List.getElem?_eq_getElem hj)).symm
  have hcount := congrArg (List.countP (· = some server)) hplaces
  rw [List.countP_map, List.countP_map] at hcount
  simpa [Function.comp_def] using hcount

/-- **Requests are spread evenly.** Take any stretch of a run in which the membership stays
and no caller asks for a server, and let fewer than `2 ^ 64` servers have been asked for
since the membership last changed. Then the requests of the stretch, in the order in which
they were sent, go along the ring from the server whose turn it was; and no member was sent
more than one request more than another. -/
theorem run_balanced {setup : Client.Setup} {s₀ : System} (h : Client.build setup = .ok s₀)
    (before stretch : List Event) (hsteady : (s₀.run before).Steady stretch)
    (hfew : s₀.selectionsSince 0 (before ++ stretch) < 2 ^ 64) :
    let s := s₀.run before
    let members := s.client.roster.pool.members
    let cursor := s.client.roster.pool.cursor.toNat
    ∃ sent : List Dispatch, (s.run stretch).dispatched = sent.reverse ++ s.dispatched ∧
      (∀ j d, sent[j]? = some d →
        members[(cursor + j) % members.length]? = some d.request.server) ∧
      ∀ x ∈ members, ∀ y ∈ members,
        sent.countP (·.request.server = x) ≤ sent.countP (·.request.server = y) + 1 := by
  intro s members cursor
  have hstocked : s.client.roster.pool.Stocked := run_stocked before (Client.build_stocked h)
  obtain ⟨named, -, hsound₀⟩ := Client.build_sound h
  have hnodup : members.Nodup := (run_sound before hsound₀).members_nodup
  obtain ⟨sent, hlog, hturns, hcount⟩ := steady_run stretch hstocked hsteady
  -- The counter shows what was asked for before the stretch, and does not come round in it.
  have hroom : cursor + sent.length < 2 ^ 64 := by
    rw [selectionsSince_append, hcount] at hfew
    have hzero : s₀.client.roster.pool.cursor = UInt64.ofNat 0 := by
      obtain ⟨_, _, _, -, hpool, -, rfl⟩ := Client.build_eq_ok h
      obtain ⟨-, rfl⟩ := Pool.ofServers?_eq_ok hpool
      rfl
    have hcursor : s.client.roster.pool.cursor =
        UInt64.ofNat (s₀.selectionsSince 0 before) :=
      cursor_run before (Client.build_stocked h) hzero
    have hlt : s₀.selectionsSince 0 before < UInt64.size :=
      Nat.lt_of_le_of_lt (Nat.le_add_right _ _) hfew
    show s.client.roster.pool.cursor.toNat + sent.length < 2 ^ 64
    rw [hcursor, UInt64.toNat_ofNat_of_lt' hlt]
    exact hfew
  have hahead : ∀ j d, sent[j]? = some d →
      s.client.roster.pool.ahead? j = some d.request.server := by
    intro j d hd
    have hj : j < sent.length := (List.getElem?_eq_some_iff.1 hd).1
    rw [← Pool.turn?_eq_ahead? (Nat.lt_trans (by omega) hroom)]
    exact hturns j d hd
  refine ⟨sent, hlog, hahead, fun x hx y hy => ?_⟩
  rw [countP_of_ahead? hahead, countP_of_ahead? hahead]
  exact Pool.countP_ahead?_le hnodup hx hy _

/-- A second request begins while the first waits, and then the first is repeated. -/
theorem run_balanced_crossed :
    let servers : List Server := [⟨"http://[::1]:9200"⟩, ⟨"http://[::2]:9200"⟩]
    let retry := (Retry.upTo 2 FailureKind.usuallyRecoverable).toPolicy
    let s₀ : System :=
      { client := { settings := { retry }, roster := .start ⟨servers, servers, 0⟩ } }
    let before : List Event := [.launch (.request ping {}), .begin 0]
    let stretch : List Event :=
      [.launch (.request ping {}), .begin 1,
        .reply (.task 0) (.error ⟨.connectRefused, "http://[::1]:9200/", "refused"⟩)]
    Client.build { config := .withServers ["[::1]:9200", "http://[::2]:9200"], retry } = .ok s₀ ∧
      (s₀.run before).Steady stretch ∧ s₀.selectionsSince 0 (before ++ stretch) = 3 ∧
      (s₀.run before).client.roster.pool = ⟨servers, servers, 1⟩ ∧
      ∃ sent : List Dispatch, ((s₀.run before).run stretch).dispatched =
          sent.reverse ++ (s₀.run before).dispatched ∧
        ∀ x ∈ servers, ∀ y ∈ servers,
          sent.countP (·.request.server = x) ≤ sent.countP (·.request.server = y) + 1 := by
  intro servers retry s₀ before stretch
  have hbuild : Client.build
      { config := .withServers ["[::1]:9200", "http://[::2]:9200"], retry } = .ok s₀ := by
    dsimp only [s₀, servers, retry]
    rfl
  have hsteady : (s₀.run before).Steady stretch := by
    dsimp only [s₀, servers, retry, before, stretch]
    refine steady_cons.2 ⟨nofun, ?_, steady_cons.2 ⟨nofun, ?_, steady_cons.2 ⟨nofun, ?_,
      steady_nil _⟩⟩⟩ <;> rfl
  have hcount : s₀.selectionsSince 0 (before ++ stretch) = 3 := by
    dsimp only [s₀, servers, retry, before, stretch]
    rfl
  have hpool : (s₀.run before).client.roster.pool = ⟨servers, servers, 1⟩ := by
    dsimp only [s₀, servers, retry, before]
    rfl
  have hfew : s₀.selectionsSince 0 (before ++ stretch) < 2 ^ 64 := by
    rw [hcount]
    decide
  obtain ⟨sent, hlog, -, hspread⟩ := run_balanced hbuild before stretch hsteady hfew
  rw [hpool] at hspread
  exact ⟨hbuild, hsteady, hcount, hpool, sent, hlog, hspread⟩

end Failover.System
