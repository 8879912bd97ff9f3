import Failover.Command.Session
import Failover.Proofs.Background

/-!
# The request of a command settles

`System.settle` answers the attempts of a command until its request has ended, and in between
the background task does what it likes. All of that is a run of the client, made of events
that a command waits for (`Command.Awaited`): replies to its attempts, and asides. So what is
known of the runs of a client holds here, and three things are left to show by following the
recursion: that it stops only where no attempt waits (`pending?_settle`), that the replies it
has taken are the ones of the surroundings, in their order (`received_settle`), and that without
a background it does what the loop of attempts does (`drive_settle`).

Together with the courses of a single request they say what `System.ask` comes to
(`exists_asked`). Shutting the client down afterwards adds nothing for the command, and the call
returns whatever the background task was doing (`close_shutdowns`).
-/

namespace Failover

/-! ## Courses of clients that were set up alike -/

namespace Client

variable {c c' : Client} {a : Action} {o : Options} {xs : List (Request × Reply)}

theorem UnderWay.congr {f : Flight} (h : c.UnderWay a o xs f)
    (hsettings : c'.settings = c.settings) (hclosed : c'.closed = c.closed) :
    c'.UnderWay a o xs f := by
  induction h with
  | sent isOpen encoded => exact .sent (hclosed.trans isOpen) (hsettings ▸ encoded)
  | repeated _ again ih => exact .repeated ih (hsettings ▸ again)

/-- A course does not depend on the pool or on what was written down. -/
theorem Ended.congr {outcome : Outcome} (h : c.Ended a o xs outcome)
    (hsettings : c'.settings = c.settings) (hclosed : c'.closed = c.closed) :
    c'.Ended a o xs outcome := by
  cases h with
  | refused isClosed => exact .refused (hclosed.trans isClosed)
  | unencodable isOpen encoded => exact .unencodable (hclosed.trans isOpen) (hsettings ▸ encoded)
  | replied before again =>
    exact .replied (before.congr hsettings hclosed) (hsettings ▸ again)

/-- An open client makes an attempt of everything that can be encoded. -/
theorem Ended.ne_nil {outcome : Outcome} {body : Option String} (h : c.Ended a o xs outcome)
    (hopen : c.closed = false) (hbody : a.body = .ok body) : xs ≠ [] := by
  cases h with
  | refused isClosed =>
    rw [hopen] at isClosed
    cases isClosed
  | unencodable _ encoded =>
    obtain ⟨e, he⟩ := ofAction_of_body hbody o
    rw [he] at encoded
    cases encoded
  | replied _ _ => simp

end Client

/-! ## What a command waits for -/

namespace Command

/-- Something that happens while a command waits. -/
inductive Awaited : Event → Prop where
  | aside (a : Aside) : Awaited a.event
  | reply (r : Reply) : Awaited (.reply origin r)

/-- The origin is the command or the background. -/
def IsNear (o : Origin) : Prop := o = origin ∨ o = .background

variable {e : Event} {o : Origin}

theorem Aside.actor? (a : Aside) : a.event.actor? = some .background := by
  cases a <;> rfl

theorem Aside.actor?_ne (a : Aside) : a.event.actor? ≠ some origin := by
  rw [a.actor?]
  nofun

/-- An event in which nobody else does anything, and nobody shuts the client down. -/
structure Asking (e : Event) : Prop where
  near : ∀ o, e.actor? = some o → IsNear o
  ne_shutdown : e ≠ .shutdown
  ne_release : ∀ call, e ≠ .release call

theorem Asking.of_actor (ho : e.actor? = some o) (hnear : IsNear o) : Asking e := by
  refine ⟨fun o' ho' => Option.some.inj (ho.symm.trans ho') ▸ hnear, ?_, fun call => ?_⟩
  · rintro rfl
    cases ho
  · rintro rfl
    cases ho

theorem Awaited.asking (h : Awaited e) : Asking e := by
  cases h with
  | aside a => exact .of_actor a.actor? (Or.inr rfl)
  | reply r => exact .of_actor rfl (Or.inl rfl)

theorem Awaited.ne_start (h : Awaited e) : e ≠ origin.start := by
  rintro rfl
  generalize hs : origin.start = e at h
  cases h with
  | aside a => cases a <;> cases hs
  | reply r => cases hs

theorem awaited_asides {asides : List Aside} (h : e ∈ asides.map Aside.event) : Awaited e := by
  obtain ⟨a, -, rfl⟩ := List.mem_map.1 h
  exact .aside a

end Command

namespace System

open Command

variable {s s' s₀ s₁ : System} {w : Surroundings} {number : Nat} {work : Work} {o : Origin}

/-! ## Several events -/

theorem history_run_of_ne (events : List Event) (h : ∀ e ∈ events, e.actor? ≠ some o) :
    ∀ s : System, (s.run events).history o = s.history o := by
  induction events with
  | nil => intro s; rfl
  | cons e r ih =>
    intro s
    rw [run_cons, ih (fun e' he' => h e' (List.mem_cons_of_mem _ he')),
      history_step_of_ne (h e List.mem_cons_self)]

theorem Undisturbed.trans {s'' : System} (h : s.Undisturbed s') (h' : s'.Undisturbed s'') :
    s.Undisturbed s'' :=
  ⟨h'.closed.trans h.closed, h'.handle.trans h.handle, h'.cancelled.trans h.cancelled,
    h'.calls.trans h.calls, h'.background ∘ h.background⟩

theorem undisturbed_run (events : List Event) (h : ∀ e ∈ events, Asking e) :
    ∀ {s : System}, s.client.roster.pool.Stocked → s.Undisturbed (s.run events) := by
  induction events with
  | nil => intro s _; exact .refl s
  | cons e r ih =>
    intro s hstocked
    obtain ⟨-, hshutdown, hrelease⟩ := h e List.mem_cons_self
    have hstep : s.Undisturbed (s.step e) :=
      ((undisturbed_step hstocked.members e).resolve_left hshutdown).resolve_left
        fun ⟨call, hcall⟩ => hrelease call hcall
    exact hstep.trans (ih (fun e' he' => h e' (List.mem_cons_of_mem _ he'))
      (run_stocked [e] hstocked))

/-- Requests are sent by those who do something. -/
theorem origin_of_dispatched {setup : Client.Setup} (h : Client.build setup = .ok s₀)
    {events : List Event} {P : Origin → Prop}
    (hevents : ∀ e ∈ events, ∀ o, e.actor? = some o → P o) :
    ∀ d ∈ (s₀.run events).dispatched, P d.origin := by
  intro d hd
  obtain ⟨sent, hlog, hinstant⟩ := exists_instant (Client.build_stocked h) events
  rw [hlog, dispatched_of_build h, List.append_nil, List.mem_reverse] at hd
  obtain ⟨i, hi⟩ := List.mem_iff_getElem?.1 hd
  obtain ⟨before, e, after, work, f, rfl, -, hsends, -⟩ := hinstant i d hi
  exact hevents e (by simp) _ hsends.actor

/-! ## The background -/

theorem history_meanwhile (s : System) (asides : List Aside) :
    (s.meanwhile asides).history origin = s.history origin := by
  refine history_run_of_ne _ (fun e he => ?_) s
  obtain ⟨a, -, rfl⟩ := List.mem_map.1 he
  exact a.actor?_ne

theorem pending?_meanwhile (s : System) (asides : List Aside) :
    (s.meanwhile asides).pending? origin = s.pending? origin := by
  simp only [pending?, origin, tasks_meanwhile]

/-- There is no background, or it does nothing. -/
def Unattended (w : Surroundings) (s : System) : Prop :=
  s.background = .ended ∨ ∀ n, w.asides n = []

theorem step_aside_of_ended (h : s.background = .ended) (a : Aside) : s.step a.event = s := by
  cases a with
  | wake => exact begin_of_not_ready? (o := .background) (by simp only [ready?, h])
  | reply r => exact takeReply_of_not_pending? (o := .background) (by simp only [pending?, h]) r

theorem meanwhile_of_unattended (h : s.Unattended w) (n : Nat) : s.meanwhile (w.asides n) = s := by
  rcases h with hended | hnone
  · generalize w.asides n = asides
    induction asides with
    | nil => rfl
    | cons a asides ih =>
      show (s.step a.event).run _ = s
      rw [step_aside_of_ended hended]
      exact ih
  · rw [hnone]
    rfl

theorem Unattended.congr (h : s.Unattended w) (hb : s'.background = s.background) :
    s'.Unattended w :=
  h.imp_left hb.trans

/-! ## Settling -/

theorem exists_run_settle (w : Surroundings) (number : Nat) (s : System) :
    ∃ events, s.settle w number = s.run events ∧ ∀ e ∈ events, Awaited e := by
  fun_induction settle w number s with
  | case1 number s here _ _ ih =>
    obtain ⟨events, hrun, hawaited⟩ := ih
    refine ⟨(w.asides number).map Aside.event ++ .reply origin (w.replies number) :: events,
      by rw [hrun, run_append, run_cons]; rfl, fun e he => ?_⟩
    rcases List.mem_append.1 he with he | he
    · exact awaited_asides he
    · rcases List.mem_cons.1 he with rfl | he
      · exact .reply _
      · exact hawaited e he
  | case2 number s here _ => exact ⟨_, rfl, fun e he => awaited_asides he⟩

theorem pending?_settle (w : Surroundings) (number : Nat) (s : System) :
    (s.settle w number).pending? origin = none := by
  fun_induction settle w number s with
  | case1 number s here _ _ ih => exact ih
  | case2 number s here h => exact h

/-- The replies that the request has taken are those of the surroundings. -/
def Replied (w : Surroundings) (s : System) : Prop :=
  ∀ (i : Nat) (r : Receipt), (s.history origin).received[i]? = some r → w.replies (i + 1) = r.reply

theorem received_settle (hcount : number = (s.history origin).received.length + 1)
    (hreplied : s.Replied w) : (s.settle w number).Replied w := by
  fun_induction settle w number s with
  | case1 number s here wf hwf ih =>
    have hpending : here.pending? origin = some (wf.1, wf.2) := hwf
    have hreceived := received_reply hpending (w.replies number)
    have hhere : (here.history origin).received = (s.history origin).received :=
      congrArg History.received (s.history_meanwhile _)
    rw [hhere] at hreceived
    refine ih ?_ fun i r hr => ?_
    · rw [hreceived, List.length_append, List.length_singleton, hcount]
    · rw [hreceived, List.getElem?_append] at hr
      split at hr
      · exact hreplied i r hr
      next hi =>
        -- Only the reply that has just come is left.
        obtain ⟨hlt, rfl⟩ := List.getElem?_eq_some_iff.1 hr
        rw [List.length_singleton] at hlt
        rw [List.getElem_singleton, hcount]
        congr 1
        omega
  | case2 number s here h =>
    intro i r hr
    rw [history_meanwhile] at hr
    exact hreplied i r hr

/-- A step of the request, by itself, does not touch the background. -/
theorem background_advance (s : System) (work : Work) (c : Client) (p : Progress) :
    (s.advance origin work c p).background = s.background := by
  cases p <;> rfl

theorem settle_of_idle (hquiet : s.Unattended w) (h : s.pending? origin = none) :
    s.settle w number = s := by
  rw [settle]
  simp only [meanwhile_of_unattended hquiet]
  split
  next hsome => rw [pending?_meanwhile, h] at hsome; cases hsome
  · rfl

theorem settle_of_pending {f : Flight} (hquiet : s.Unattended w)
    (h : s.pending? origin = some (work, f)) :
    s.settle w number =
      ((s.noteReceipt origin f (w.replies number)).advance origin work
        (s.client.resume f (w.replies number)).1
        (s.client.resume f (w.replies number)).2).settle w (number + 1) := by
  have hstep : s.step (.reply origin (w.replies number)) = _ := takeReply_of_pending? h _
  rw [← hstep, settle]
  simp only [meanwhile_of_unattended hquiet]
  split
  · rfl
  next hnone => rw [pending?_meanwhile, h] at hnone; cases hnone

theorem outcome?_advance_ended {t : Task} (h : s.task? origin = some t) (work : Work)
    (c : Client) (outcome : Outcome) :
    (s.advance origin work c (.ended outcome)).outcome? = some outcome := by
  have htask : (s.advance origin work c (.ended outcome)).tasks[0]? = some ⟨t.work, _⟩ :=
    task?_advance_ended h work c outcome
  rw [outcome?, htask, conclude_result]
  exact congrArg some (Work.result_outcome ..)

/-- Without a background the request makes the same attempts as the loop by itself, and
comes to the same. -/
theorem drive_settle {stage : Stage} (sent : List Request) (c : Client) (p : Progress)
    (htask : s.task? origin = some ⟨work, stage⟩) (hquiet : s.Unattended w)
    (hsent : (s.history origin).sent = sent) (hcount : number = sent.length + 1) :
    ∃ outcome c', Client.drive (answering w.replies) sent c p =
        (outcome, c', (((s.advance origin work c p).settle w number).history origin).sent) ∧
      ((s.advance origin work c p).settle w number).outcome? = some outcome := by
  -- Both loops go on in the same step: from the attempt that waits to the next one.
  fun_induction Client.drive (answering w.replies) sent c p generalizing s stage number with
  | case1 sent c outcome =>
    have hidle := pending?_advance_ended htask work c outcome
    rw [settle_of_idle (hquiet.congr (background_advance ..)) hidle, history_advance_ended,
      History.append_sent, hsent, List.append_nil]
    exact ⟨outcome, c, rfl, outcome?_advance_ended htask work c outcome⟩
  | case2 sent c f reply =>
    rename_i next ih
    let waits := s.advance origin work c (.waiting f)
    have htask' : waits.task? origin = some ⟨work, .waiting f⟩ :=
      task?_advance_waiting htask work c f
    have hquiet' : waits.Unattended w := hquiet.congr (background_advance ..)
    have hsent' : ((waits.noteReceipt origin f reply.1).history origin).sent = reply.2 := by
      rw [history_noteReceipt, History.append_sent, List.append_nil, history_advance_waiting,
        History.append_sent, hsent]
      rfl
    have hlength : reply.2.length = sent.length + 1 := List.length_append
    rw [settle_of_pending hquiet' (pending?_eq_some.2 htask'), advance_waiting_client, hcount]
    exact ih ((task?_congr rfl rfl origin).trans htask') (hquiet'.congr rfl) hsent'
      (by rw [hlength])

/-! ## Asking -/

section

variable {setup : Client.Setup} {action : Action}

/-- What has happened before the request of a command begins. -/
def handover (w : Surroundings) (action : Action) : List Event :=
  .launch (.request action {}) :: (w.asides 0).map Aside.event

theorem asking_handover (w : Surroundings) (action : Action) :
    ∀ e ∈ handover w action, Asking e := by
  intro e he
  rcases List.mem_cons.1 he with rfl | he
  · exact ⟨nofun, nofun, nofun⟩
  · exact (awaited_asides he).asking

theorem asking_request {after : List Event} (h : ∀ e ∈ after, Awaited e) :
    ∀ e ∈ handover w action ++ origin.start :: after, Asking e := by
  intro e he
  rcases List.mem_append.1 he with he | he
  · exact asking_handover w action e he
  · rcases List.mem_cons.1 he with rfl | he
    · exact .of_actor rfl (Or.inl rfl)
    · exact (h e he).asking

theorem exists_run_ask (w : Surroundings) (action : Action) (s : System) :
    ∃ after, s.ask w action = s.run (handover w action ++ origin.start :: after) ∧
      ∀ e ∈ after, Awaited e := by
  obtain ⟨after, hrun, hawaited⟩ :=
    exists_run_settle w 1 ((s.run (handover w action)).step origin.start)
  refine ⟨after, ?_, hawaited⟩
  rw [run_append]
  exact hrun

theorem ready?_handover (h : Client.build setup = .ok s₀) (w : Surroundings) (action : Action) :
    (s₀.run (handover w action)).ready? origin = some (.request action {}) := by
  have htasks : s₀.tasks = [] := by
    obtain ⟨_, _, _, -, -, -, rfl⟩ := Client.build_eq_ok h
    rfl
  have hlaunched : (s₀.run (handover w action)).tasks =
      s₀.tasks ++ [⟨.request action {}, .fresh⟩] :=
    tasks_meanwhile (w.asides 0) (s₀.step (.launch (.request action {})))
  rw [htasks, List.nil_append] at hlaunched
  simp only [ready?, origin, hlaunched]
  rfl

theorem history_handover (h : Client.build setup = .ok s₀) (w : Surroundings) (action : Action) :
    (s₀.run (handover w action)).history origin = {} :=
  (idle_of_build h _).history_of_ready (Client.build_stocked h) (ready?_handover h w action)

/-- The first step takes no reply. -/
theorem received_begin (h : s.ready? origin = some work) :
    ((s.begin origin).history origin).received = (s.history origin).received := by
  rw [begin_of_ready? h]
  cases (s.client.start (s.asked work).1 (s.asked work).2).2 with
  | waiting f => rw [history_advance_waiting, History.append_received, List.append_nil]
  | ended outcome => rw [history_advance_ended, History.append_received, List.append_nil]

theorem replied_ask (h : Client.build setup = .ok s₀) (w : Surroundings) (action : Action) :
    (s₀.ask w action).Replied w := by
  have hnothing :
      (((s₀.run (handover w action)).step origin.start).history origin).received = [] := by
    rw [step_start, received_begin (ready?_handover h w action), history_handover h]
  show (((s₀.run (handover w action)).step origin.start).settle w 1).Replied w
  refine received_settle ?_ fun i r hr => ?_
  · rw [hnothing]
    rfl
  · rw [hnothing] at hr
    cases hr

/-- From `s₀` the request of a command has come to `s`, with these requests and replies. They
are a course that it could have taken alone. -/
structure Asked (w : Surroundings) (s₀ : System) (action : Action) (s : System)
    (xs : List (Request × Reply)) (outcome : Outcome) : Prop where
  course : s₀.client.Ended action {} xs outcome
  replied : ∀ (i : Nat) (x : Request × Reply), xs[i]? = some x → w.replies (i + 1) = x.2
  sent : (s.history origin).sent = xs.map Prod.fst
  ended : s.outcome? = some outcome

/-- **The request of a command ends**, whatever the replies are and whatever goes on in the
background. -/
theorem exists_asked (h : Client.build setup = .ok s₀) (w : Surroundings) (action : Action) :
    ∃ xs outcome, Asked w s₀ action (s₀.ask w action) xs outcome := by
  have hstocked := Client.build_stocked h
  have hkept := kept_run (handover w action) s₀
  have hundisturbed := undisturbed_run _ (asking_handover w action) hstocked
  obtain ⟨after, hrun, hawaited⟩ := exists_run_ask w action s₀
  have hnone : ((s₀.run (handover w action)).step origin.start).BeginsNone origin after := by
    rintro mid rest rfl
    exact absurd rfl (hawaited origin.start (by simp)).ne_start
  obtain ⟨own, hhist, hstands⟩ := stands_run (ready?_handover h w action)
    (run_stocked _ hstocked) after hnone
  rw [← run_append, ← hrun] at hhist hstands
  rw [history_handover h, History.empty_append] at hhist
  cases hstands with
  | waiting course task =>
    have hidle : (s₀.ask w action).pending? origin = none := pending?_settle w 1 _
    rw [pending?_eq_some.2 task] at hidle
    cases hidle
  | abandoned _ background _ => cases background
  | @ended xs outcome course _ task =>
    refine ⟨xs, outcome, course.congr hkept.settings.symm hundisturbed.closed.symm,
      fun i x hx => ?_, ?_, ?_⟩
    · refine replied_ask h w action i ⟨origin, x.1, x.2⟩ ?_
      have hreceived : ((s₀.ask w action).history origin).received =
          xs.map fun x => ⟨origin, x.1, x.2⟩ := by
        rw [hhist]
        exact List.append_nil _
      rw [hreceived, List.getElem?_map, hx, Option.map_some]
    · rw [hhist]
      exact List.append_nil _
    · have htask : (s₀.ask w action).tasks[0]? = some ⟨_, .done _⟩ := task 0 rfl
      rw [outcome?, htask]
      exact congrArg some (Work.result_outcome ..)

/-- Without a background it is the loop of attempts by itself, on the client as it was built. -/
theorem execute_ask (h : Client.build setup = .ok s₀) (w : Surroundings) (action : Action)
    (hquiet : s₀.Unattended w) :
    ∃ outcome c', s₀.client.execute (answering w.replies) [] action {} =
        (outcome, c', ((s₀.ask w action).history origin).sent) ∧
      (s₀.ask w action).outcome? = some outcome := by
  have hsame : s₀.run (handover w action) = s₀.step (.launch (.request action {})) :=
    meanwhile_of_unattended (s := s₀.step (.launch (.request action {}))) (hquiet.congr rfl) 0
  have hready := ready?_handover h w action
  have hnew := history_handover h w action
  have hask : s₀.ask w action = ((s₀.run (handover w action)).begin origin).settle w 1 := rfl
  rw [hask, begin_of_ready? hready]
  rw [hsame] at hready hnew ⊢
  exact drive_settle [] _ _ (ready?_eq_some.1 hready) (hquiet.congr rfl) (by rw [hnew]) rfl

/-! ## Closing -/

/-- What happens when the client of a command is shut down. -/
def closing (w : Surroundings) : List Event :=
  .shutdown :: w.lateAsides.map Aside.event ++ [.stop, .release 0]

theorem close_eq_run (w : Surroundings) (s : System) : s.close w = s.run (closing w) := by
  rw [closing, List.cons_append, run_cons, run_append]
  rfl

theorem closing_actor {e : Event} (he : e ∈ closing w) (ho : e.actor? = some o) :
    o = .background := by
  simp only [closing, List.cons_append, List.mem_cons, List.mem_append, List.not_mem_nil,
    or_false] at he
  rcases he with rfl | he | rfl | rfl
  · cases ho
  · obtain ⟨a, -, rfl⟩ := List.mem_map.1 he
    exact (Option.some.inj (a.actor?.symm.trans ho)).symm
  · cases ho
  · cases ho

/-- The shutdown of a command returns, whatever the background task was doing. -/
theorem close_shutdowns (hphase : s.Phase) (hstocked : s.client.roster.pool.Stocked) :
    (s.close w).shutdowns.head? = some true := by
  let called := (s.step .shutdown).meanwhile w.lateAsides
  have hundisturbed : (s.step .shutdown).Undisturbed called :=
    undisturbed_run _ (fun e he => (awaited_asides he).asking) (run_stocked [.shutdown] hstocked)
  have hphase' : called.Phase := hphase.shutdown.of_undisturbed hundisturbed
  show (called.run [.stop, .release 0]).shutdowns.head? = some true
  cases hphase' with
  | uncalled calls _ =>
    have hcalls : called.shutdowns = s.shutdowns ++ [!s.hasHandle] := hundisturbed.calls
    rw [calls] at hcalls
    simp at hcalls
  | waiting first closed handle cancelled =>
    exact Phase.returns (.waiting first closed handle cancelled) first
  | returned first shut =>
    rw [run_cons, run_cons, run_nil, shut.step_background (Or.inr rfl),
      step_release_of_ended shut.background, List.head?_eq_getElem?, List.getElem?_modify_eq,
      ← List.head?_eq_getElem?, first]
    rfl

end

end System

end Failover
