import Failover.Proofs.Isolation

/-!
# Where requests are sent

An event can do four things to the turn: leave it alone, move it on because a caller asks
for a server, move it on because a request is sent, or begin it anew with another membership
(`System.TurnStep`). A request is sent in the third case only, so each entry of the log of
requests has its own event, and the server in it is the one whose turn it was then
(`System.exists_instant`).

An attempt carries the encoding that its request began with (`Proofs.Isolation`), and that
depends on nothing that changes in a run: the work of the origin, the way the client was
set up, the question of discovery. So all requests of one origin are alike
(`System.Addressed`).
-/

namespace Failover

/-! ## One event -/

/-- The result begins the turn of a pool with these members anew. -/
def Discovery.Result.alters (members : List Server) : Discovery.Result → Bool
  | .applied _ => true
  | .unchanged => false
  | .evicted server => decide (server ∈ members)
  | .bootstrap => true
  | .clientGone => false

/-- So does the end of work with this result. -/
def WorkResult.alters (members : List Server) : WorkResult → Bool
  | .request _ => false
  | .discovery _ result => result.alters members

theorem Discovery.Result.apply_of_steady {result : Discovery.Result} {r : Roster}
    (h : result.alters r.pool.members = false) : (result.apply r).pool = r.pool := by
  cases result with
  | applied servers => cases h
  | unchanged => rfl
  | evicted server =>
    simp only [apply, Roster.evict, if_neg (of_decide_eq_false h)]
  | bootstrap => cases h
  | clientGone => rfl

theorem Discovery.Result.apply_of_alters {result : Discovery.Result} {r : Roster}
    (h : result.alters r.pool.members = true) : (result.apply r).pool.cursor = 0 := by
  cases result with
  | applied servers => rfl
  | unchanged => cases h
  | evicted server =>
    simp only [apply, Roster.evict, if_pos (of_decide_eq_true h)]
    rfl
  | bootstrap => rfl
  | clientGone => cases h

theorem Event.ne_nextServer {e : Event} {o : Origin} (h : e.actor? = some o) :
    e ≠ .nextServer := by
  rintro rfl
  cases h

namespace System

variable {s : System} {e : Event} {o : Origin}

/-- The event begins the turn anew: a caller or an iteration of discovery replaces the
membership, brings the bootstrap servers back or takes a member out. -/
def alters (s : System) : Event → Bool
  | .setServers addresses => (addresses.mapM Server.parse).isOk
  | .replaceServers _ => true
  | .removeServer server => decide (server ∈ s.client.roster.pool.members)
  | .resetServers => true
  | e => (s.endings e).any fun c => c.result.alters s.client.roster.pool.members

theorem alters_of_actor (h : e.actor? = some o) :
    s.alters e = (s.endings e).any fun c => c.result.alters s.client.roster.pool.members := by
  cases e with
  | begin id => rfl
  | wake => rfl
  | reply origin reply => rfl
  | _ => cases h

/-- If only what it ends could begin the turn anew, an event that ends nothing does not. -/
theorem alters_of_concluded
    (h : s.alters e = (s.endings e).any fun c => c.result.alters s.client.roster.pool.members)
    (hconcluded : (s.step e).concluded = s.concluded) : s.alters e = false := by
  rw [h, endings_of_concluded hconcluded]
  rfl

/-- With the event the origin sends the request of this attempt, which is a step of this
work. -/
structure Sends (s : System) (e : Event) (o : Origin) (work : Work) (f : Flight) : Prop where
  actor : e.actor? = some o
  turn : s.client.roster.pool.turn? 0 = some f.server
  dispatched : (s.step e).dispatched = ⟨o, f.request⟩ :: s.dispatched
  pool : (s.step e).client.roster.pool = s.client.roster.pool.advance
  pending : (s.step e).pending? o = some (work, f)

/-- What an event does to the turn, and what it sends. -/
inductive TurnStep (s : System) (e : Event) : Prop where
  | rests (other : e ≠ .nextServer) (steady : s.alters e = false)
      (dispatched : (s.step e).dispatched = s.dispatched)
      (pool : (s.step e).client.roster.pool = s.client.roster.pool)
  /-- A caller asks for a server. -/
  | asks (event : e = .nextServer) (steady : s.alters e = false)
      (dispatched : (s.step e).dispatched = s.dispatched)
      (pool : (s.step e).client.roster.pool = s.client.roster.pool.advance)
  | sends {o : Origin} {work : Work} {f : Flight} (steady : s.alters e = false)
      (sent : s.Sends e o work f)
  | alters (altered : s.alters e = true)
      (dispatched : (s.step e).dispatched = s.dispatched)
      (cursor : (s.step e).client.roster.pool.cursor = 0)

@[simp] theorem setStage_dispatched (s : System) (o : Origin) (stage : Stage) :
    (s.setStage o stage).dispatched = s.dispatched := by
  cases o <;> rfl

theorem advance_waiting_dispatched (s : System) (o : Origin) (work : Work) (c : Client)
    (f : Flight) :
    (s.advance o work c (.waiting f)).dispatched = ⟨o, f.request⟩ :: s.dispatched :=
  setStage_dispatched _ _ _

theorem advance_ended_dispatched (s : System) (o : Origin) (work : Work) (c : Client)
    (outcome : Outcome) : (s.advance o work c (.ended outcome)).dispatched = s.dispatched :=
  setStage_dispatched _ _ _

theorem conclude_of_steady {work : Work} {c : Client} {outcome : Outcome}
    (h : (s.conclude work c outcome).2.alters c.roster.pool.members = false) :
    (s.conclude work c outcome).1.roster.pool = c.roster.pool := by
  cases work with
  | request action options => rfl
  | discovery => exact Discovery.Result.apply_of_steady (r := c.roster) h

theorem conclude_of_alters {work : Work} {c : Client} {outcome : Outcome}
    (h : (s.conclude work c outcome).2.alters c.roster.pool.members = true) :
    (s.conclude work c outcome).1.roster.pool.cursor = 0 := by
  cases work with
  | request action options => cases h
  | discovery => exact Discovery.Result.apply_of_alters (r := c.roster) h

/-- A step of a request sends the next attempt, or ends it. -/
theorem turnStep_of_advance {s₁ : System} {work : Work} {c : Client} {p : Progress}
    {stage : Stage} (hactor : e.actor? = some o) (he : s.step e = s₁.advance o work c p)
    (hdispatched : s₁.dispatched = s.dispatched) (hconcluded : s₁.concluded = s.concluded)
    (htask : s₁.task? o = some ⟨work, stage⟩)
    (hstep : s.client.Stepped c (Client.poolAfter s.client.roster.pool p))
    (hturn : ∀ f, p = .waiting f → s.client.roster.pool.turn? 0 = some f.server) :
    s.TurnStep e := by
  cases p with
  | waiting f =>
    have hkept : (s.step e).concluded = s.concluded := by
      rw [he, advance_waiting_concluded, hconcluded]
    have hsent : s.Sends e o work f := by
      refine ⟨hactor, hturn f rfl, ?_, ?_, ?_⟩
      · rw [he, advance_waiting_dispatched, hdispatched]
      · rw [he, advance_waiting_client]
        exact hstep.pool_eq
      · rw [he, pending?_eq_some]
        exact task?_advance_waiting htask _ _ _
    exact .sends (alters_of_concluded (alters_of_actor hactor) hkept) hsent
  | ended outcome =>
    have hpool : c.roster.pool = s.client.roster.pool := hstep.pool_eq
    have hone : s.endings e = [⟨o, (s₁.conclude work c outcome).2⟩] :=
      endings_of_concluded_cons (by rw [he, advance_ended_concluded, hconcluded])
    have hlog : (s.step e).dispatched = s.dispatched := by
      rw [he, advance_ended_dispatched, hdispatched]
    have halters : s.alters e =
        (s₁.conclude work c outcome).2.alters c.roster.pool.members := by
      rw [alters_of_actor hactor, hone, hpool, List.any_cons, List.any_nil, Bool.or_false]
    cases hcase : s.alters e with
    | false =>
      refine .rests (Event.ne_nextServer hactor) hcase hlog ?_
      rw [he, advance_ended_client, conclude_of_steady (halters.symm.trans hcase), hpool]
    | true =>
      refine .alters hcase hlog ?_
      rw [he, advance_ended_client, conclude_of_alters (halters.symm.trans hcase)]

theorem turnStep_of_actor (hmembers : s.client.roster.pool.members ≠ [])
    (h : e.actor? = some o) : s.TurnStep e := by
  cases ownStep hmembers h with
  | idle same =>
    exact .rests (Event.ne_nextServer h)
      (alters_of_concluded (alters_of_actor h) (by rw [same])) (by rw [same]) (by rw [same])
  | stepped step task client turn =>
    exact turnStep_of_advance h step rfl rfl ((task?_congr rfl rfl o).trans task) client turn

/-- An event that ends no work and does not touch the roster. -/
theorem turnStep_of_kept (hother : e ≠ .nextServer)
    (halters : s.alters e = (s.endings e).any fun c =>
      c.result.alters s.client.roster.pool.members)
    (hconcluded : (s.step e).concluded = s.concluded)
    (hdispatched : (s.step e).dispatched = s.dispatched)
    (hpool : (s.step e).client.roster.pool = s.client.roster.pool) : s.TurnStep e :=
  .rests hother (alters_of_concluded halters hconcluded) hdispatched hpool

theorem turnStep (hmembers : s.client.roster.pool.members ≠ []) (e : Event) :
    s.TurnStep e := by
  cases e with
  | begin id => exact turnStep_of_actor hmembers rfl
  | wake => exact turnStep_of_actor hmembers rfl
  | reply o reply => exact turnStep_of_actor hmembers rfl
  | setServers addresses =>
    cases hm : addresses.mapM Server.parse with
    | error err =>
      have hs : s.step (.setServers addresses) = s := by
        simp only [step, Roster.replaceAll, Server.parseAll, hm, Except.map]
      refine .rests (by simp) ?_ (by rw [hs]) (by rw [hs])
      simp only [alters, hm]
      rfl
    | ok named =>
      have hs : s.step (.setServers addresses) =
          s.withRoster (s.client.roster.replace (Server.distinct named)) := by
        simp only [step, Roster.replaceAll, Server.parseAll, hm, Except.map]
      refine .alters ?_ (by rw [hs]; rfl) (by rw [hs]; rfl)
      simp only [alters, hm]
      rfl
  | replaceServers servers => exact .alters rfl rfl rfl
  | nextServer =>
    have hs := step_nextServer hmembers
    exact .asks rfl (alters_of_concluded rfl (by rw [hs]; rfl)) (by rw [hs]; rfl)
      (by rw [hs]; rfl)
  | removeServer server =>
    by_cases hm : server ∈ s.client.roster.pool.members
    · refine .alters (decide_eq_true hm) rfl ?_
      simp only [step, Roster.evict, if_pos hm]
      rfl
    · refine .rests (by simp) (decide_eq_false hm) rfl ?_
      simp only [step, Roster.evict, if_neg hm]
      rfl
  | resetServers => exact .alters rfl rfl rfl
  | launch work => exact turnStep_of_kept (by simp) rfl rfl rfl rfl
  | shutdown => exact turnStep_of_kept (by simp) rfl rfl rfl rfl
  | stop =>
    refine turnStep_of_kept (by simp) rfl ?_ ?_ ?_
    all_goals
      simp only [step]
      split <;> rfl
  | release call =>
    refine turnStep_of_kept (by simp) rfl ?_ ?_ ?_
    all_goals
      simp only [step]
      split <;> rfl

/-! ## All events -/

/-- Each request that a run has sent was sent with one of its events, the `i`-th one when
`i` others had been sent. -/
theorem exists_instant (hstocked : s.client.roster.pool.Stocked) (events : List Event) :
    ∃ sent : List Dispatch, (s.run events).dispatched = sent.reverse ++ s.dispatched ∧
      ∀ (i : Nat) (d : Dispatch), sent[i]? = some d → ∃ before e after work f,
        events = before ++ e :: after ∧
        (s.run before).dispatched.length = s.dispatched.length + i ∧
        (s.run before).Sends e d.origin work f ∧ d.request = f.request := by
  -- From the last event back: it adds one request at the most, behind all others.
  induction events using List.reverseRecOn with
  | nil => exact ⟨[], rfl, fun i d h => by cases h⟩
  | append_singleton events e ih =>
    obtain ⟨sent, hlog, hinstant⟩ := ih
    have hearlier : ∀ (i : Nat) (d : Dispatch), sent[i]? = some d → ∃ before e' after work f,
        events ++ [e] = before ++ e' :: after ∧
        (s.run before).dispatched.length = s.dispatched.length + i ∧
        (s.run before).Sends e' d.origin work f ∧ d.request = f.request := by
      intro i d hd
      obtain ⟨before, e', after, work, f, rfl, hrest⟩ := hinstant i d hd
      exact ⟨before, e', after ++ [e], work, f, by simp, hrest⟩
    rw [run_concat]
    cases turnStep (run_stocked events hstocked).members e with
    | rests _ _ hdispatched _ => exact ⟨sent, hdispatched.trans hlog, hearlier⟩
    | asks _ _ hdispatched _ => exact ⟨sent, hdispatched.trans hlog, hearlier⟩
    | alters _ hdispatched _ => exact ⟨sent, hdispatched.trans hlog, hearlier⟩
    | @sends o work f _ hsends =>
      refine ⟨sent ++ [⟨o, f.request⟩], ?_, fun i d hd => ?_⟩
      · rw [hsends.dispatched, hlog, List.reverse_append]
        rfl
      · rw [List.getElem?_append] at hd
        split at hd
        · exact hearlier i d hd
        next hi =>
          -- Only the last request is left, which is the one of this event.
          obtain ⟨hlt, rfl⟩ := List.getElem?_eq_some_iff.1 hd
          rw [List.length_singleton] at hlt
          refine ⟨events, e, [], work, f, rfl, ?_, ?_, ?_⟩
          · rw [hlog, List.length_append, List.length_reverse]
            omega
          · rw [List.getElem_singleton]
            exact hsends
          · rw [List.getElem_singleton]

/-- What an origin is there for. -/
def work? (s : System) : Origin → Option Work
  | .task id => s.tasks[id]?.map Task.work
  | .background => some .discovery

theorem work?_of_task? {work : Work} {stage : Stage} (h : s.task? o = some ⟨work, stage⟩) :
    s.work? o = some work := by
  cases o with
  | task id =>
    have ht : s.tasks[id]? = some ⟨work, stage⟩ := h
    rw [work?, ht, Option.map_some]
  | background =>
    simp only [task?] at h
    split at h
    · cases h; rfl
    · cases h; rfl
    · cases h

/-- It does not change. -/
theorem work?_step {work : Work} (hmembers : s.client.roster.pool.members ≠ [])
    (h : s.work? o = some work) (e : Event) : (s.step e).work? o = some work := by
  cases o with
  | background => exact h
  | task id =>
    obtain ⟨t, ht, rfl⟩ := Option.map_eq_some_iff.1 h
    have ht : s.task? (.task id) = some t := ht
    by_cases ha : e.actor? = some (.task id)
    · cases ownStep hmembers ha with
      | idle same => rw [same]; exact h
      | @stepped received work _ c p step _ _ _ =>
        have htask : { s with received }.task? (.task id) = some t :=
          (task?_congr rfl rfl _).trans ht
        rw [step]
        cases p with
        | waiting f => exact work?_of_task? (task?_advance_waiting htask work c f)
        | ended outcome => exact work?_of_task? (task?_advance_ended htask work c outcome)
    · rcases task?_step_of_ne (s := s) ha with hsame | ⟨hnone, -⟩ | ⟨hback, -⟩
      · exact work?_of_task? (hsame.trans ht)
      · rw [ht] at hnone
        cases hnone
      · cases hback

theorem work?_run {work : Work} (events : List Event) : ∀ {s : System},
    s.client.roster.pool.Stocked → s.work? o = some work → (s.run events).work? o = some work := by
  induction events with
  | nil => intro s _ h; exact h
  | cons e r ih =>
    intro s hstocked h
    exact ih (run_stocked [e] hstocked) (work?_step hstocked.members h e)

/-- An attempt that waits carries what its work asks for. -/
theorem encoded_of_pending {setup : Client.Setup} {s₀ : System}
    (h : Client.build setup = .ok s₀) {events : List Event} {work : Work} {f : Flight}
    (hp : (s₀.run events).pending? o = some (work, f)) :
    Encoded.ofAction s₀.client.settings (s₀.asked work).1 (s₀.asked work).2 =
      .ok f.encoded := by
  have hstocked := Client.build_stocked h
  rcases exists_last_start s₀ o events with hnone |
    ⟨before, after, work', hsplit, hready, hnone⟩
  · rw [((idle_of_build h o).run events hnone).pending?] at hp
    cases hp
  · obtain ⟨own, -, hstands⟩ := stands_run hready (run_stocked before hstocked) after hnone
    rw [← run_append, ← hsplit] at hstands
    cases hstands with
    | abandoned _ _ idle => rw [idle] at hp; cases hp
    | ended _ idle _ => rw [idle] at hp; cases hp
    | waiting course task =>
      rw [pending?_eq_some, task] at hp
      cases hp
      have hkept := kept_run before s₀
      rw [← hkept.settings, ← hkept.asked]
      exact course.encoded.1

/-- A client that was just built has sent nothing. -/
theorem dispatched_of_build {setup : Client.Setup} {s₀ : System}
    (h : Client.build setup = .ok s₀) : s₀.dispatched = [] := by
  obtain ⟨_, _, _, -, -, -, rfl⟩ := Client.build_eq_ok h
  rfl

/-- Every request that was sent is what the work of its origin asks for, as it is sent to
the server. -/
theorem exists_encoded {setup : Client.Setup} {s₀ : System} (h : Client.build setup = .ok s₀)
    (events : List Event) {d : Dispatch} (hd : d ∈ (s₀.run events).dispatched) :
    ∃ work encoded, (s₀.run events).work? d.origin = some work ∧
      Encoded.ofAction s₀.client.settings (s₀.asked work).1 (s₀.asked work).2 = .ok encoded ∧
      d.request = encoded.bind d.request.server := by
  obtain ⟨sent, hlog, hinstant⟩ := exists_instant (Client.build_stocked h) events
  have hempty := dispatched_of_build h
  rw [hlog, hempty, List.append_nil, List.mem_reverse] at hd
  obtain ⟨i, hi⟩ := List.mem_iff_getElem?.1 hd
  obtain ⟨before, e, after, work, f, rfl, -, hsends, hrequest⟩ := hinstant i d hi
  have hpending : (s₀.run (before ++ [e])).pending? d.origin = some (work, f) := by
    rw [run_concat]
    exact hsends.pending
  refine ⟨work, f.encoded, ?_, encoded_of_pending h hpending, ?_⟩
  · rw [List.append_cons, run_append]
    exact work?_run after (run_stocked _ (Client.build_stocked h))
      (work?_of_task? (pending?_eq_some.1 hpending))
  · rw [hrequest]
    rfl

/-- What the requests of a run have in common, whatever has happened between them. -/
structure Addressed (s₀ : System) (events : List Event) : Prop where
  /-- Each was sent with an event of its own, to a server that was a member at that time. -/
  instant : ∀ i d, (s₀.run events).dispatched.reverse[i]? = some d →
    ∃ before e after, events = before ++ e :: after ∧ e.actor? = some d.origin ∧
      (s₀.run before).dispatched.length = i ∧
      (s₀.run (before ++ [e])).dispatched = d :: (s₀.run before).dispatched ∧
      d.request.server ∈ (s₀.run before).client.roster.pool.members ∧
      (s₀.run (before ++ [e])).client.roster.pool.members =
        (s₀.run before).client.roster.pool.members
  /-- As long as a server is no member nothing is sent to it. -/
  avoided : ∀ before after server, events = before ++ after →
    (∀ mid rest, after = mid ++ rest →
      server ∉ (s₀.run (before ++ mid)).client.roster.pool.members) →
    ∃ sent, (s₀.run events).dispatched = sent ++ (s₀.run before).dispatched ∧
      ∀ d ∈ sent, d.request.server ≠ server
  /-- The URL is that of the path which its origin asks for, at the server. -/
  url : ∀ d ∈ (s₀.run events).dispatched, ∃ work, (s₀.run events).work? d.origin = some work ∧
    d.request.url = d.request.server.urlFor ((s₀.run events).asked work).1.path
  /-- Nothing but the server and the URL distinguishes two requests of one origin. -/
  alike : ∀ d ∈ (s₀.run events).dispatched, ∀ d' ∈ (s₀.run events).dispatched,
    d.origin = d'.origin →
    d'.request = { d.request with server := d'.request.server, url := d'.request.url }

/-- **Every request goes to a member.** In any run of a client each request is sent to a
server that is a member at that time, and all requests of one origin are the same but for
the server: it asks for the path of its action there, with the same method, headers, body,
limit and credentials. For the background task that holds of all its iterations. -/
theorem run_addressed {setup : Client.Setup} {s₀ : System} (h : Client.build setup = .ok s₀)
    (events : List Event) : Addressed s₀ events := by
  have hstocked := Client.build_stocked h
  have hempty := dispatched_of_build h
  constructor
  case instant =>
    intro i d hd
    obtain ⟨sent, hlog, hinstant⟩ := exists_instant hstocked events
    rw [hlog, hempty, List.append_nil, List.reverse_reverse] at hd
    obtain ⟨before, e, after, work, f, rfl, hlength, hsends, hrequest⟩ := hinstant i d hd
    rw [hempty, List.length_nil, Nat.zero_add] at hlength
    refine ⟨before, e, after, rfl, hsends.actor, hlength, ?_, ?_, ?_⟩
    · rw [run_concat, hsends.dispatched, ← hrequest]
    · rw [hrequest]
      exact Pool.mem_of_turn? hsends.turn
    · rw [run_concat, hsends.pool]
      rfl
  case avoided =>
    rintro before after server rfl haway
    obtain ⟨sent, hlog, hinstant⟩ := exists_instant (run_stocked before hstocked) after
    refine ⟨sent.reverse, (by rw [run_append, hlog]), fun d hd => ?_⟩
    obtain ⟨i, hi⟩ := List.mem_iff_getElem?.1 (List.mem_reverse.1 hd)
    obtain ⟨mid, e, rest, work, f, rfl, -, hsends, hrequest⟩ := hinstant i d hi
    rintro rfl
    refine haway mid (e :: rest) rfl ?_
    rw [run_append, hrequest]
    exact Pool.mem_of_turn? hsends.turn
  case url =>
    intro d hd
    obtain ⟨work, encoded, hwork, hencoded, hrequest⟩ := exists_encoded h events hd
    refine ⟨work, hwork, ?_⟩
    rw [(kept_run events s₀).asked, ← Encoded.ofAction_path hencoded, hrequest]
    rfl
  case alike =>
    intro d hd d' hd' horigin
    obtain ⟨work, encoded, hwork, hencoded, hrequest⟩ := exists_encoded h events hd
    obtain ⟨work', encoded', hwork', hencoded', hrequest'⟩ := exists_encoded h events hd'
    obtain rfl : work = work' := Option.some.inj (hwork.symm.trans (horigin ▸ hwork'))
    obtain rfl : encoded = encoded' := Except.ok.inj (hencoded.symm.trans hencoded')
    rw [hrequest, hrequest']
    rfl

/-- The first server refuses after it was taken out, and the request goes to the other. -/
theorem run_addressed_evicted :
    let events : List Event :=
      [.launch (.request ping {}), .begin 0, .removeServer ⟨"http://[::1]:9200"⟩,
        .reply (.task 0) (.error ⟨.connectRefused, "http://[::1]:9200/", "refused"⟩)]
    ∃ s₀, Client.build
        { config := .withServers ["[::1]:9200", "http://[::2]:9200"]
          retry := some (Retry.upTo 2 FailureKind.usuallyRecoverable).toPolicy } = .ok s₀ ∧
      (s₀.run events).dispatched.map (·.request.server) =
        [⟨"http://[::2]:9200"⟩, ⟨"http://[::1]:9200"⟩] ∧
      Addressed s₀ events := by
  intro events
  obtain ⟨s₀, hbuild⟩ : ∃ s₀, Client.build
      { config := .withServers ["[::1]:9200", "http://[::2]:9200"]
        retry := some (Retry.upTo 2 FailureKind.usuallyRecoverable).toPolicy } = .ok s₀ :=
    ⟨_, rfl⟩
  have hservers : (s₀.run events).dispatched.map (·.request.server) =
      [⟨"http://[::2]:9200"⟩, ⟨"http://[::1]:9200"⟩] := by
    cases hbuild
    rfl
  exact ⟨s₀, hbuild, hservers, run_addressed hbuild events⟩

end System

end Failover
