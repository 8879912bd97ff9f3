import Failover.Proofs.Isolation
import Failover.Proofs.Ledger

/-!
# Shutdown is final

The end of a client goes through three phases, which its first call of shutdown tells
(`System.Phase`): nobody has called it, it waits for the background task, it has returned.
Only a call of shutdown and the return of one lead from a phase to the next; every other
event leaves alone what the phases speak of (`System.Undisturbed`), whatever the background
task is doing at that time. So the return of the first call says that the client is closed
and that the background task has ended (`System.Shut`), and this stays so.

In a client that is shut down nothing can happen to the background task, and a request ends
with its first step. Only those go on that had an attempt under way by then.
-/

namespace Failover

/-- What work comes to that is refused. -/
def Work.refusal : Work → WorkResult
  | .request _ _ => .request (.error .shutdown)
  | .discovery => .discovery (.error .shutdown) .clientGone

theorem Work.result_shutdown (scheme : String) (work : Work) :
    work.result scheme (.error .shutdown) = work.refusal := by
  cases work <;> rfl

theorem Background.isActive_eq_true {b : Background} : b.isActive = true ↔ b ≠ .ended := by
  cases b <;> simp [isActive]

namespace System

/-- A client that was shut down: it takes no requests, nobody has to take charge of ending
the background task, and that has ended. -/
structure Shut (s : System) : Prop where
  closed : s.client.closed = true
  handle : s.hasHandle = false
  background : s.background = .ended

/-- From `s` to `s'` no shutdown was begun or came to its end, and if the background task had
ended it did not come back. -/
structure Undisturbed (s s' : System) : Prop where
  closed : s'.client.closed = s.client.closed
  handle : s'.hasHandle = s.hasHandle
  cancelled : s'.cancelled = s.cancelled
  calls : s'.shutdowns = s.shutdowns
  background : s.background = .ended → s'.background = .ended

variable {s s' s₁ : System} {e : Event} {o : Origin} {work : Work}

/-! ## Events that are not about a shutdown -/

theorem conclude_closed (s : System) (work : Work) (c : Client) (outcome : Outcome) :
    (s.conclude work c outcome).1.closed = c.closed := by
  cases work <;> rfl

theorem undisturbed_advance {t : Task} (htask : s.task? o = some t) (work : Work) {c : Client}
    (hclosed : c.closed = s.client.closed) (p : Progress) :
    s.Undisturbed (s.advance o work c p) := by
  constructor
  case closed =>
    cases p with
    | waiting f => rw [advance_waiting_client, hclosed]
    | ended outcome => rw [advance_ended_client, conclude_closed, hclosed]
  case handle => cases o <;> cases p <;> rfl
  case cancelled => cases o <;> cases p <;> rfl
  case calls => cases o <;> cases p <;> rfl
  case background =>
    intro hended
    cases o with
    | task id => cases p <;> exact hended
    | background =>
      -- It makes a step, so it had not ended.
      simp only [task?, hended] at htask
      cases htask

theorem Undisturbed.refl (s : System) : s.Undisturbed s := ⟨rfl, rfl, rfl, rfl, id⟩

theorem undisturbed_of_actor (hmembers : s.client.roster.pool.members ≠ [])
    (h : e.actor? = some o) : s.Undisturbed (s.step e) := by
  cases ownStep hmembers h with
  | idle same =>
    rw [same]
    exact .refl s
  | @stepped received work stage c p step task client turn =>
    rw [step]
    have htask : { s with received }.task? o = some ⟨work, stage⟩ :=
      (task?_congr rfl rfl o).trans task
    obtain ⟨hclosed, hhandle, hcancelled, hcalls, hback⟩ :=
      undisturbed_advance htask work client.closed p
    exact ⟨hclosed, hhandle, hcancelled, hcalls, hback⟩

/-- Only two kinds of events are about a shutdown. -/
theorem undisturbed_step (hmembers : s.client.roster.pool.members ≠ []) (e : Event) :
    e = .shutdown ∨ (∃ call, e = .release call) ∨ s.Undisturbed (s.step e) := by
  cases e with
  | shutdown => exact Or.inl rfl
  | release call => exact Or.inr (Or.inl ⟨call, rfl⟩)
  | begin id => exact Or.inr (Or.inr (undisturbed_of_actor hmembers rfl))
  | wake => exact Or.inr (Or.inr (undisturbed_of_actor hmembers rfl))
  | reply o reply => exact Or.inr (Or.inr (undisturbed_of_actor hmembers rfl))
  | stop =>
    right; right
    simp only [step]
    split
    · exact ⟨rfl, rfl, rfl, rfl, fun _ => rfl⟩
    · exact .refl s
  | setServers addresses =>
    right; right
    simp only [step]
    split <;> exact ⟨rfl, rfl, rfl, rfl, id⟩
  | nextServer =>
    right; right
    simp only [step]
    split <;> exact ⟨rfl, rfl, rfl, rfl, id⟩
  | _ => exact Or.inr (Or.inr ⟨rfl, rfl, rfl, rfl, id⟩)

theorem step_release_of_ended (h : s.background = .ended) (call : Nat) :
    s.step (.release call) = { s with shutdowns := s.shutdowns.modify call fun _ => true } := by
  simp only [step, h, Background.isActive, Bool.false_eq_true, if_false]

theorem step_release_of_active (h : s.background.isActive = true) (call : Nat) :
    s.step (.release call) = s := by
  simp only [step, h, if_true]

/-- The phases of the end of a client. -/
inductive Phase (s : System) : Prop where
  /-- Nobody has called shutdown. Whoever does so finds the handle, unless there is no
  background task. -/
  | uncalled (calls : s.shutdowns = []) (handle : s.hasHandle = true ∨ s.background = .ended)
  /-- The first call waits for the background task, which was told to end. -/
  | waiting (first : s.shutdowns.head? = some false) (closed : s.client.closed = true)
      (handle : s.hasHandle = false) (cancelled : s.cancelled = true)
  /-- The first call has returned. -/
  | returned (first : s.shutdowns.head? = some true) (shut : s.Shut)

/-! ## Being shut down -/

theorem Shut.of_undisturbed (h : s.Shut) (hs : s.Undisturbed s') : s'.Shut :=
  ⟨hs.closed.trans h.closed, hs.handle.trans h.handle, hs.background h.background⟩

theorem Shut.step (h : s.Shut) (hmembers : s.client.roster.pool.members ≠ []) (e : Event) :
    (s.step e).Shut := by
  rcases undisturbed_step hmembers e with rfl | ⟨call, rfl⟩ | hs
  · exact ⟨rfl, rfl, h.background⟩
  · rw [step_release_of_ended h.background]
    exact ⟨h.closed, h.handle, h.background⟩
  · exact h.of_undisturbed hs

/-- What every event preserves in a client that is shut down holds from then on. -/
theorem Shut.run {P : System → Prop}
    (hstep : ∀ (s : System) (e : Event), s.Shut → P s → P (s.step e)) (events : List Event) :
    ∀ {s : System}, s.client.roster.pool.Stocked → s.Shut → P s →
      (s.run events).Shut ∧ P (s.run events) := by
  induction events with
  | nil => intro s _ h hP; exact ⟨h, hP⟩
  | cons e r ih =>
    intro s hstocked h hP
    exact ih (run_stocked [e] hstocked) (h.step hstocked.members e) (hstep s e h hP)

theorem Shut.ready?_background (h : s.Shut) : s.ready? .background = none := by
  simp only [ready?, h.background]

theorem Shut.pending?_background (h : s.Shut) : s.pending? .background = none := by
  simp only [pending?, h.background]

/-- Nothing happens to the background task. -/
theorem Shut.step_background (h : s.Shut) (he : e.actor? = some .background ∨ e = .stop) :
    s.step e = s := by
  rcases he with hactor | rfl
  · rcases Event.eq_of_actor? hactor with rfl | ⟨reply, rfl⟩
    · rw [step_start]
      exact begin_of_not_ready? h.ready?_background
    · exact takeReply_of_not_pending? h.pending?_background reply
  · have hsame : { s with background := .ended } = s := by rw [← h.background]
    simp only [System.step, h.background, Background.flight?, Option.map_none,
      Option.toList_none, List.nil_append]
    rw [hsame, ite_self]

theorem Shut.history_background (h : s.Shut) (e : Event) :
    (s.step e).history .background = s.history .background := by
  by_cases ha : e.actor? = some .background
  · rw [h.step_background (Or.inl ha)]
  · exact history_step_of_ne ha

theorem Shut.step_shutdown (h : s.Shut) :
    s.step .shutdown = { s with shutdowns := s.shutdowns ++ [true] } := by
  have hclient : { s.client with closed := true } = s.client := by rw [← h.closed]
  simp only [System.step, hclient, h.handle, Bool.or_false, Bool.not_false]

theorem Shut.begin (h : s.Shut) (hready : s.ready? o = some work) :
    s.begin o = s.advance o work s.client (.ended (.error .shutdown)) := by
  rw [begin_of_ready? hready, Client.start_of_closed h.closed]

/-! ## The phases -/

theorem Phase.of_undisturbed (h : s.Phase) (hs : s.Undisturbed s') : s'.Phase := by
  cases h with
  | uncalled calls handle =>
    refine .uncalled (hs.calls.trans calls) ?_
    rw [hs.handle]
    exact handle.imp_right hs.background
  | waiting first closed handle cancelled =>
    refine .waiting ?_ (hs.closed.trans closed) (hs.handle.trans handle)
      (hs.cancelled.trans cancelled)
    rw [hs.calls]
    exact first
  | returned first shut =>
    refine .returned ?_ (shut.of_undisturbed hs)
    rw [hs.calls]
    exact first

/-- The first call takes the handle, and then it waits. If there is none it returns. -/
theorem Phase.shutdown (h : s.Phase) : (s.step .shutdown).Phase := by
  have hfirst : ∀ b, s.shutdowns.head? = some b →
      (s.step .shutdown).shutdowns.head? = some b := by
    intro b hb
    show (s.shutdowns ++ [!s.hasHandle]).head? = some b
    rw [List.head?_append, hb, Option.some_or]
  cases h with
  | uncalled calls handle =>
    -- This is the first call, and whether it returns at once depends on the handle.
    have hone : (s.step .shutdown).shutdowns.head? = some (!s.hasHandle) := by
      show (s.shutdowns ++ [!s.hasHandle]).head? = _
      rw [calls]
      rfl
    cases hh : s.hasHandle with
    | true =>
      rw [hh] at hone
      refine .waiting hone rfl rfl ?_
      show (s.cancelled || s.hasHandle) = true
      rw [hh, Bool.or_true]
    | false =>
      rw [hh] at hone handle
      exact .returned hone ⟨rfl, rfl, handle.resolve_left nofun⟩
  | waiting first _ _ cancelled =>
    refine .waiting (hfirst _ first) rfl rfl ?_
    show (s.cancelled || s.hasHandle) = true
    rw [cancelled, Bool.true_or]
  | returned first shut => exact .returned (hfirst _ first) ⟨rfl, rfl, shut.background⟩

/-- No call returns before the background task has ended. -/
theorem Phase.release (h : s.Phase) (call : Nat) : (s.step (.release call)).Phase := by
  by_cases hended : s.background = .ended
  · rw [step_release_of_ended hended]
    -- Only the return of the first call is seen in the phase.
    have hfirst : (s.shutdowns.modify call fun _ => true).head? =
        s.shutdowns.head?.map fun b => if call = 0 then true else b := by
      rw [List.head?_eq_getElem?, List.head?_eq_getElem?, List.getElem?_modify]
      rfl
    cases h with
    | uncalled calls handle =>
      refine .uncalled ?_ handle
      rw [calls, List.modify_nil]
    | waiting first closed handle cancelled =>
      rw [first, Option.map_some] at hfirst
      by_cases hcall : call = 0
      · rw [if_pos hcall] at hfirst
        exact .returned hfirst ⟨closed, handle, hended⟩
      · rw [if_neg hcall] at hfirst
        exact .waiting hfirst closed handle cancelled
    | returned first shut =>
      rw [first, Option.map_some, ite_self] at hfirst
      exact .returned hfirst ⟨shut.closed, shut.handle, shut.background⟩
  · rw [step_release_of_active (Background.isActive_eq_true.2 hended)]
    exact h

theorem Phase.step (h : s.Phase) (hmembers : s.client.roster.pool.members ≠ []) (e : Event) :
    (s.step e).Phase := by
  rcases undisturbed_step hmembers e with rfl | ⟨call, rfl⟩ | hs
  · exact h.shutdown
  · exact h.release call
  · exact h.of_undisturbed hs

theorem Phase.run (events : List Event) : ∀ {s : System},
    s.client.roster.pool.Stocked → s.Phase → (s.run events).Phase := by
  induction events with
  | nil => intro s _ h; exact h
  | cons e r ih =>
    intro s hstocked h
    exact ih (run_stocked [e] hstocked) (h.step hstocked.members e)

theorem phase_of_build {setup : Client.Setup} {s₀ : System} (h : Client.build setup = .ok s₀) :
    s₀.Phase := by
  obtain ⟨_, _, _, -, -, -, rfl⟩ := Client.build_eq_ok h
  refine .uncalled rfl ?_
  cases setup.config.discovery.enabled with
  | true => exact Or.inl rfl
  | false => exact Or.inr rfl

/-- Whatever the background task is doing: when it has noticed that it was told to end, a
first call that waits for it can return. -/
theorem Phase.returns (h : s.Phase) (hwaiting : s.shutdowns.head? = some false) :
    (s.run [.stop, .release 0]).shutdowns.head? = some true := by
  cases h with
  | uncalled calls _ => rw [calls] at hwaiting; cases hwaiting
  | returned first _ => rw [first] at hwaiting; cases hwaiting
  | waiting first _ _ cancelled =>
    have hended : (s.step .stop).background = .ended := by
      simp only [System.step, cancelled, if_true]
    have hcalls : (s.step .stop).shutdowns = s.shutdowns := by
      simp only [System.step, cancelled, if_true]
    rw [run_cons, run_cons, run_nil, step_release_of_ended hended, List.head?_eq_getElem?,
      List.getElem?_modify_eq, hcalls, ← List.head?_eq_getElem?, first]
    rfl

/-! ## Refusals -/

/-- The work of a task ends with its first step, and is refused. Its handler is called like
this. -/
structure Refused (s : System) (id : Nat) (work : Work) (calls : List Call) : Prop where
  result : (s.step (.begin id)).tasks[id]? = some ⟨work, .done work.refusal⟩
  calls : (s.step (.begin id)).notices = calls.map (⟨id, ·⟩) ++ s.notices
  /-- Nothing is sent. -/
  dispatched : (s.step (.begin id)).dispatched = s.dispatched
  /-- Members and turn stay as they are. -/
  pool : (s.step (.begin id)).client.roster.pool = s.client.roster.pool
  /-- No request is counted. -/
  uncounted : ∀ labels,
    (s.step (.begin id)).client.roster.ledger.report.lookup
        (seriesName "trellis_requests_total" labels) =
      s.client.roster.ledger.report.lookup (seriesName "trellis_requests_total" labels)

theorem conclude_shutdown (s : System) (work : Work) (c : Client) :
    (s.conclude work c (.error .shutdown)).2 = work.refusal := by
  rw [conclude_result, Work.result_shutdown]

/-- After a refusal there is nothing for the pool to follow. -/
theorem conclude_shutdown_pool (s : System) (work : Work) (c : Client) :
    (s.conclude work c (.error .shutdown)).1.roster.pool = c.roster.pool := by
  cases work <;> rfl

theorem conclude_shutdown_report (s : System) (work : Work) (c : Client)
    (labels : List (String × String)) :
    (s.conclude work c (.error .shutdown)).1.roster.ledger.report.lookup
        (seriesName "trellis_requests_total" labels) =
      c.roster.ledger.report.lookup (seriesName "trellis_requests_total" labels) := by
  cases work with
  | request action options => rfl
  | discovery =>
    refine Ledger.lookup_report_of_notMem _ ?_
    rw [Metric.series, List.mem_singleton]
    exact seriesName_ne 9 (by decide) (by decide) (by decide) _ _

/-- The first step of work in a client that is shut down is its last. -/
theorem Shut.task?_begin (h : s.Shut) {id : Nat} (hready : s.ready? (.task id) = some work) :
    (s.begin (.task id)).task? (.task id) = some ⟨work, .done work.refusal⟩ := by
  rw [h.begin hready, ← conclude_shutdown s work s.client]
  exact task?_advance_ended (ready?_eq_some.1 hready) _ _ _

theorem Shut.refused (h : s.Shut) {id : Nat} (hready : s.ready? (.task id) = some work) :
    s.Refused id work (handlerCalls (.task id) work [work.refusal]) := by
  have hstep : s.step (.begin id) =
      s.advance (.task id) work s.client (.ended (.error .shutdown)) := h.begin hready
  constructor
  case result => exact h.task?_begin hready
  case calls =>
    rw [hstep]
    cases work <;> rfl
  case dispatched => rw [hstep]; rfl
  case pool => rw [hstep, advance_ended_client, conclude_shutdown_pool]
  case uncounted =>
    intro labels
    rw [hstep, advance_ended_client, conclude_shutdown_report]

/-! ## From the return on -/

/-- An origin that was waiting for no reply in `s₁` has sent nothing since. If it is any
further in `s`, it was refused. -/
structure Quiet (s₁ s : System) (o : Origin) : Prop where
  idle : s.pending? o = none
  sent : (s.history o).sent = (s₁.history o).sent
  task : ∀ t, s.task? o = some t →
    s₁.task? o = some t ∨ t.stage = .fresh ∨ t.stage = .done t.work.refusal

theorem Quiet.start (h : Quiet s₁ s o) (hshut : s.Shut) : Quiet s₁ (s.begin o) o := by
  cases hr : s.ready? o with
  | none =>
    rw [begin_of_not_ready? hr]
    exact h
  | some work =>
    cases o with
    | background =>
      rw [hshut.ready?_background] at hr
      cases hr
    | task id =>
      constructor
      case idle =>
        rw [hshut.begin hr]
        exact pending?_advance_ended (ready?_eq_some.1 hr) _ _ _
      case sent => rw [hshut.begin hr, history_advance_ended, History.append_sent,
        List.append_nil, h.sent]
      case task =>
        intro t ht
        rw [hshut.task?_begin hr] at ht
        cases ht
        exact Or.inr (Or.inr rfl)

theorem Quiet.step (h : Quiet s₁ s o) (hshut : s.Shut) (e : Event) : Quiet s₁ (s.step e) o := by
  by_cases ha : e.actor? = some o
  · rcases Event.eq_of_actor? ha with rfl | ⟨reply, rfl⟩
    · rw [step_start]
      exact h.start hshut
    · have hsame : s.step (.reply o reply) = s := takeReply_of_not_pending? h.idle reply
      rw [hsame]
      exact h
  · refine ⟨pending?_step_of_ne ha h.idle, ?_, fun t ht => ?_⟩
    · rw [history_step_of_ne ha, h.sent]
    · rcases task?_step_of_ne (s := s) ha with hsame | ⟨-, _, hfresh⟩ | ⟨-, hnone⟩
      · exact h.task t (hsame ▸ ht)
      · rw [hfresh] at ht
        cases ht
        exact Or.inr (Or.inl rfl)
      · rw [hnone] at ht
        cases ht

theorem Quiet.run (hstocked : s.client.roster.pool.Stocked) (hshut : s.Shut)
    (hidle : s.pending? o = none) (events : List Event) : Quiet s (s.run events) o :=
  (hshut.run (P := fun s' => Quiet s s' o) (fun _ e hs hq => hq.step hs e) events hstocked
    ⟨hidle, rfl, fun _ ht => Or.inl ht⟩).2

/-- What is true of a client in the state `s`, if its first call of shutdown had returned in
the state `s₁` before. -/
structure Final (s₁ s : System) : Prop where
  stopped : s.isDiscoveryRunning = false
  /-- No event of the background task does anything. -/
  inert : ∀ e, e.actor? = some .background ∨ e = .stop → s.step e = s
  /-- It has done nothing since. -/
  background : s.history .background = s₁.history .background
  /-- Nobody has sent anything since who was not waiting for a reply. -/
  silent : ∀ o, s₁.pending? o = none → (s.history o).sent = (s₁.history o).sent
  /-- A request that begins is refused, and its handler is told so. -/
  request : ∀ id action options, s.ready? (.task id) = some (.request action options) →
    s.Refused id (.request action options) [.failed .shutdown]
  /-- So is an iteration of discovery. -/
  discovery : ∀ id, s.ready? (.task id) = some .discovery → s.Refused id .discovery []
  /-- And whatever has ended since and had not begun before has ended so. -/
  later : ∀ (id : Nat) (work : Work) (result : WorkResult),
    s.tasks[id]? = some ⟨work, .done result⟩ →
    (∀ t, s₁.tasks[id]? = some t → t.stage = .fresh) → result = work.refusal
  /-- Another call of shutdown returns at once, and that is all. -/
  again : s.step .shutdown = { s with shutdowns := s.shutdowns ++ [true] }

/-- **Shutdown is final.** Whatever a client is doing when it is shut down: a first call of
shutdown that waits can return when the background task has noticed that it was told to end.
Once it has returned the background task never does anything again, and nothing is sent but
the attempts of requests that were under way. Every request and every iteration of discovery
that begins from then on is refused, and leaves the pool and the count of requests alone. -/
theorem shutdown_final {setup : Client.Setup} {s₀ : System} (h : Client.build setup = .ok s₀)
    (events : List Event) :
    ((s₀.run events).shutdowns.head? = some false →
      (s₀.run (events ++ [.stop, .release 0])).shutdowns.head? = some true) ∧
    ((s₀.run events).shutdowns.head? = some true → ∀ more,
      Final (s₀.run events) (s₀.run (events ++ more))) := by
  have hstocked := Client.build_stocked h
  have hstocked₁ := run_stocked events hstocked
  have hphase := (phase_of_build h).run events hstocked
  refine ⟨fun hwaiting => ?_, fun hreturned more => ?_⟩
  · rw [run_append]
    exact hphase.returns hwaiting
  have hshut₁ : (s₀.run events).Shut := by
    cases hphase with
    | uncalled calls _ => rw [calls] at hreturned; cases hreturned
    | waiting first _ _ _ => rw [first] at hreturned; cases hreturned
    | returned _ shut => exact shut
  have hquiet : ∀ o, (s₀.run events).pending? o = none →
      Quiet (s₀.run events) (s₀.run (events ++ more)) o := by
    intro o hidle
    rw [run_append]
    exact Quiet.run hstocked₁ hshut₁ hidle more
  obtain ⟨hshut, hback⟩ : (s₀.run (events ++ more)).Shut ∧
      (s₀.run (events ++ more)).history .background = (s₀.run events).history .background := by
    rw [run_append]
    exact hshut₁.run (fun _ e hs hb => (hs.history_background e).trans hb) more hstocked₁ rfl
  constructor
  case stopped => rw [isDiscoveryRunning, hshut.handle, Bool.false_and]
  case inert => exact fun e he => hshut.step_background he
  case background => exact hback
  case silent => exact fun o hidle => (hquiet o hidle).sent
  case request => exact fun id action options hready => hshut.refused hready
  case discovery => exact fun id hready => hshut.refused hready
  case later =>
    intro id work result hdone hfresh
    have hidle : (s₀.run events).pending? (.task id) = none :=
      pending?_eq_none fun w f hw => nomatch hfresh _ hw
    rcases (hquiet _ hidle).task _ hdone with hsame | hstage | hstage
    · cases hfresh _ hsame
    · cases hstage
    · exact Stage.done.inj hstage
  case again => exact hshut.step_shutdown

/-- The client is shut down in the first iteration of its background task. The reply comes
too late, and so does another request. -/
theorem shutdown_final_midway :
    let events : List Event := [.wake, .shutdown, .stop, .release 0]
    let more : List Event :=
      [.reply .background (.ok {}), .launch (.request ping {}), .begin 0]
    ∃ s₀, Client.build
        { config := (Config.withServers ["[::1]:9200", "http://[::2]:9200"]).withDiscovery
            0 10000 } = .ok s₀ ∧
      (s₀.run [.wake, .shutdown]).shutdowns.head? = some false ∧
      (s₀.run events).shutdowns.head? = some true ∧
      (s₀.run (events ++ more)).dispatched.length = 1 ∧
      Final (s₀.run events) (s₀.run (events ++ more)) := by
  intro events more
  obtain ⟨s₀, hbuild⟩ : ∃ s₀, Client.build
      { config := (Config.withServers ["[::1]:9200", "http://[::2]:9200"]).withDiscovery
          0 10000 } = .ok s₀ := ⟨_, rfl⟩
  have hwaiting : (s₀.run [.wake, .shutdown]).shutdowns.head? = some false := by
    cases hbuild
    rfl
  have hreturned : (s₀.run events).shutdowns.head? = some true :=
    (shutdown_final hbuild [.wake, .shutdown]).1 hwaiting
  have hsent : (s₀.run (events ++ more)).dispatched.length = 1 := by
    cases hbuild
    rfl
  exact ⟨s₀, hbuild, hwaiting, hreturned, hsent,
    (shutdown_final hbuild events).2 hreturned more⟩

end System

end Failover
