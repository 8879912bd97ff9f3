import Failover.Client.System
import Failover.Proofs.Loop

/-!
# What an event does, seen from one origin

Many tasks and the background task share one client, and each event concerns one of
them at the most (`Event.actor?`). For the proofs about a single one of them the rest
of the system comes down to two facts: an event of somebody else leaves alone what it
has done and how far it is (`history_step_of_ne`, `task?_step_of_ne`), and an event of
its own does nothing, or it is a step of its work and adds to its history exactly what
`advance` notes down (`OwnStep`). There are two exceptions, and neither adds to a history:
a task appears when it is launched, and the background task can be made to abandon its
request.

`System.history` is what the logs of a system say about one origin, in the order in
which it happened. Histories are put behind one another with `++`. How far an origin is
is `System.task?`, which makes a task of the background task as well.
-/

namespace Failover

/-- What one origin has done: the requests it sent, the replies it took, the results it
came to and the calls of its handler, each in their order. -/
@[ext] structure History where
  sent : List Request := []
  received : List Receipt := []
  concluded : List WorkResult := []
  calls : List Call := []

namespace History

/-- One history and then another. -/
instance : Append History where
  append h k :=
    ⟨h.sent ++ k.sent, h.received ++ k.received, h.concluded ++ k.concluded, h.calls ++ k.calls⟩

@[simp] theorem append_sent (h k : History) : (h ++ k).sent = h.sent ++ k.sent := rfl

@[simp] theorem append_received (h k : History) :
    (h ++ k).received = h.received ++ k.received := rfl

@[simp] theorem append_concluded (h k : History) :
    (h ++ k).concluded = h.concluded ++ k.concluded := rfl

@[simp] theorem append_calls (h k : History) : (h ++ k).calls = h.calls ++ k.calls := rfl

@[simp] theorem append_empty (h : History) : h ++ ({} : History) = h := by
  ext1 <;> simp

@[simp] theorem empty_append (h : History) : ({} : History) ++ h = h := by
  ext1 <;> simp

theorem append_assoc (h k l : History) : h ++ k ++ l = h ++ (k ++ l) := by
  ext1 <;> simp

end History

/-- The event in which an origin takes the first step of a request. -/
def Origin.start : Origin → Event
  | .task id => .begin id
  | .background => .wake

/-- The origin that an event goes on with. -/
def Event.actor? : Event → Option Origin
  | .begin id => some (.task id)
  | .wake => some .background
  | .reply origin _ => some origin
  | _ => none

/-- An event of an origin is the start of a request or a reply. -/
theorem Event.eq_of_actor? {e : Event} {o : Origin} (h : e.actor? = some o) :
    e = o.start ∨ ∃ reply, e = .reply o reply := by
  cases e with
  | begin id => cases h; exact Or.inl rfl
  | wake => cases h; exact Or.inl rfl
  | reply origin reply => cases h; exact Or.inr ⟨reply, rfl⟩
  | _ => cases h

namespace System

/-- What has happened for one origin so far. -/
def history (s : System) (o : Origin) : History where
  sent := ((s.dispatched.filter (·.origin = o)).map Dispatch.request).reverse
  received := (s.received.filter (·.origin = o)).reverse
  concluded := ((s.concluded.filter (·.origin = o)).map Conclusion.result).reverse
  calls := ((s.notices.filter fun n => Origin.task n.id = o).map Notice.call).reverse

/-- How far an origin is with its work. The background task has the same work over and
over, until it has ended. -/
def task? (s : System) : Origin → Option Task
  | .task id => s.tasks[id]?
  | .background =>
    match s.background with
    | .sleeping => some ⟨.discovery, .fresh⟩
    | .asking f => some ⟨.discovery, .waiting f⟩
    | .ended => none

theorem ready?_eq_some {s : System} {o : Origin} {work : Work} :
    s.ready? o = some work ↔ s.task? o = some ⟨work, .fresh⟩ := by
  cases o with
  | task id =>
    simp only [ready?, task?]
    rcases s.tasks[id]? with _ | ⟨w, _ | f | r⟩ <;> simp
  | background =>
    simp only [ready?, task?]
    cases s.background <;> simp

theorem pending?_eq_some {s : System} {o : Origin} {work : Work} {f : Flight} :
    s.pending? o = some (work, f) ↔ s.task? o = some ⟨work, .waiting f⟩ := by
  cases o with
  | task id =>
    simp only [pending?, task?]
    rcases s.tasks[id]? with _ | ⟨w, _ | f | r⟩ <;> simp
  | background =>
    simp only [pending?, task?]
    cases s.background <;> simp

/-- Nobody waits for a reply before the first step, or after the end. -/
theorem pending?_eq_none {s : System} {o : Origin}
    (h : ∀ work f, s.task? o ≠ some ⟨work, .waiting f⟩) : s.pending? o = none := by
  rw [Option.eq_none_iff_forall_ne_some]
  intro wf hwf
  exact h wf.1 wf.2 (pending?_eq_some.1 hwf)

/-! ## Parts of a step -/

@[simp] theorem history_setStage (s : System) (o o' : Origin) (stage : Stage) :
    (s.setStage o stage).history o' = s.history o' := by
  cases o <;> rfl

theorem history_noteDispatch (s : System) (o : Origin) (f : Flight) :
    (s.noteDispatch o f).history o = s.history o ++ { sent := [f.request] } := by
  ext1 <;> simp [history, noteDispatch]

theorem history_noteDispatch_of_ne (s : System) {o o' : Origin} (h : o ≠ o') (f : Flight) :
    (s.noteDispatch o f).history o' = s.history o' := by
  ext1 <;> simp [history, noteDispatch, h]

theorem history_noteReceipt (s : System) (o : Origin) (f : Flight) (reply : Reply) :
    (s.noteReceipt o f reply).history o =
      s.history o ++ { received := [⟨o, f.request, reply⟩] } := by
  ext1 <;> simp [history, noteReceipt]

theorem history_noteReceipt_of_ne (s : System) {o o' : Origin} (h : o ≠ o') (f : Flight)
    (reply : Reply) : (s.noteReceipt o f reply).history o' = s.history o' := by
  ext1 <;> simp [history, noteReceipt, h]

/-- The calls that the end of work makes. -/
def callsOf (o : Origin) (result : WorkResult) : List Call :=
  ((notice? o result).map Notice.call).toList

theorem history_noteConclusion (s : System) (o : Origin) (result : WorkResult) :
    (s.noteConclusion o result).history o =
      s.history o ++ { concluded := [result], calls := callsOf o result } := by
  cases o <;> cases result <;> ext1 <;> simp [history, noteConclusion, notice?, callsOf]

theorem history_noteConclusion_of_ne (s : System) {o o' : Origin} (h : o ≠ o')
    (result : WorkResult) : (s.noteConclusion o result).history o' = s.history o' := by
  cases o <;> cases result <;> ext1 <;> simp [history, noteConclusion, notice?, h]

theorem task?_setStage_of_ne (s : System) {o o' : Origin} (h : o ≠ o') (stage : Stage) :
    (s.setStage o stage).task? o' = s.task? o' := by
  cases o with
  | task id =>
    cases o' with
    | task id' => exact List.getElem?_modify_ne _ _ fun he => h (congrArg Origin.task he)
    | background => rfl
  | background =>
    cases o' with
    | task id' => rfl
    | background => exact absurd rfl h

theorem task?_setStage_task {s : System} {id : Nat} {t : Task}
    (h : s.task? (.task id) = some t) (stage : Stage) :
    (s.setStage (.task id) stage).task? (.task id) = some ⟨t.work, stage⟩ := by
  have hid : s.tasks[id]? = some t := h
  simp [task?, setStage, hid]

theorem task?_setStage_waiting {s : System} {o : Origin} {t : Task} (h : s.task? o = some t)
    (f : Flight) : (s.setStage o (.waiting f)).task? o = some ⟨t.work, .waiting f⟩ := by
  cases o with
  | task id => exact task?_setStage_task h _
  | background =>
    have hwork : t.work = .discovery := by
      simp only [task?] at h
      split at h
      · cases h; rfl
      · cases h; rfl
      · cases h
    rw [hwork]
    rfl

theorem pending?_setStage_done {s : System} {o : Origin} {t : Task} (h : s.task? o = some t)
    (result : WorkResult) : (s.setStage o (.done result)).pending? o = none := by
  apply pending?_eq_none
  intro work f hf
  cases o with
  | task id =>
    rw [task?_setStage_task h] at hf
    cases hf
  | background => rcases result with _ | ⟨_, _ | _ | _ | _ | _⟩ <;> cases hf

@[simp] theorem setStage_concluded (s : System) (o : Origin) (stage : Stage) :
    (s.setStage o stage).concluded = s.concluded := by
  cases o <;> rfl

@[simp] theorem setStage_client (s : System) (o : Origin) (stage : Stage) :
    (s.setStage o stage).client = s.client := by
  cases o <;> rfl

/-! ## Work goes on -/

theorem advance_waiting_client (s : System) (o : Origin) (work : Work) (c : Client)
    (f : Flight) : (s.advance o work c (.waiting f)).client = c :=
  setStage_client _ _ _

theorem advance_ended_client (s : System) (o : Origin) (work : Work) (c : Client)
    (outcome : Outcome) :
    (s.advance o work c (.ended outcome)).client = (s.conclude work c outcome).1 :=
  setStage_client _ _ _

theorem advance_waiting_concluded (s : System) (o : Origin) (work : Work) (c : Client)
    (f : Flight) : (s.advance o work c (.waiting f)).concluded = s.concluded :=
  setStage_concluded _ _ _

theorem advance_ended_concluded (s : System) (o : Origin) (work : Work) (c : Client)
    (outcome : Outcome) : (s.advance o work c (.ended outcome)).concluded =
      ⟨o, (s.conclude work c outcome).2⟩ :: s.concluded :=
  setStage_concluded _ _ _

theorem history_advance_waiting (s : System) (o : Origin) (work : Work) (c : Client)
    (f : Flight) :
    (s.advance o work c (.waiting f)).history o = s.history o ++ { sent := [f.request] } := by
  unfold advance
  rw [history_setStage, history_noteDispatch]
  rfl

theorem history_advance_ended (s : System) (o : Origin) (work : Work) (c : Client)
    (outcome : Outcome) :
    (s.advance o work c (.ended outcome)).history o =
      s.history o ++ { concluded := [(s.conclude work c outcome).2]
                       calls := callsOf o (s.conclude work c outcome).2 } := by
  unfold advance
  rw [history_setStage, history_noteConclusion]
  rfl

theorem history_advance_of_ne (s : System) {o o' : Origin} (h : o ≠ o') (work : Work)
    (c : Client) (p : Progress) : (s.advance o work c p).history o' = s.history o' := by
  unfold advance
  cases p with
  | waiting f =>
    rw [history_setStage, history_noteDispatch_of_ne _ h]
    rfl
  | ended outcome =>
    rw [history_setStage, history_noteConclusion_of_ne _ h]
    rfl

theorem task?_congr {s s' : System} (ht : s'.tasks = s.tasks)
    (hb : s'.background = s.background) (o : Origin) : s'.task? o = s.task? o := by
  cases o <;> simp only [task?, ht, hb]

theorem task?_advance_waiting {s : System} {o : Origin} {t : Task} (h : s.task? o = some t)
    (work : Work) (c : Client) (f : Flight) :
    (s.advance o work c (.waiting f)).task? o = some ⟨t.work, .waiting f⟩ := by
  apply task?_setStage_waiting
  rw [← h]
  exact task?_congr rfl rfl o

theorem task?_advance_ended {s : System} {id : Nat} {t : Task}
    (h : s.task? (.task id) = some t) (work : Work) (c : Client) (outcome : Outcome) :
    (s.advance (.task id) work c (.ended outcome)).task? (.task id) =
      some ⟨t.work, .done (s.conclude work c outcome).2⟩ :=
  task?_setStage_task h _

theorem pending?_advance_ended {s : System} {o : Origin} {t : Task} (h : s.task? o = some t)
    (work : Work) (c : Client) (outcome : Outcome) :
    (s.advance o work c (.ended outcome)).pending? o = none := by
  apply pending?_setStage_done
  rw [← h]
  exact task?_congr rfl rfl o

theorem task?_advance_of_ne (s : System) {o o' : Origin} (h : o ≠ o') (work : Work)
    (c : Client) (p : Progress) : (s.advance o work c p).task? o' = s.task? o' := by
  unfold advance
  cases p with
  | waiting f => exact (task?_setStage_of_ne _ h _).trans (task?_congr rfl rfl o')
  | ended outcome => exact (task?_setStage_of_ne _ h _).trans (task?_congr rfl rfl o')

/-! ## Events -/

theorem step_start (s : System) (o : Origin) : s.step o.start = s.begin o := by
  cases o <;> rfl

theorem begin_of_ready? {s : System} {o : Origin} {work : Work} (h : s.ready? o = some work) :
    s.begin o = s.advance o work (s.client.start (s.asked work).1 (s.asked work).2).1
      (s.client.start (s.asked work).1 (s.asked work).2).2 := by
  unfold begin
  rw [h]

theorem begin_of_not_ready? {s : System} {o : Origin} (h : s.ready? o = none) :
    s.begin o = s := by
  unfold begin
  rw [h]

theorem takeReply_of_pending? {s : System} {o : Origin} {work : Work} {f : Flight}
    (h : s.pending? o = some (work, f)) (reply : Reply) :
    s.takeReply o reply = (s.noteReceipt o f reply).advance o work
      (s.client.resume f reply).1 (s.client.resume f reply).2 := by
  unfold takeReply
  rw [h]

theorem takeReply_of_not_pending? {s : System} {o : Origin} (h : s.pending? o = none)
    (reply : Reply) : s.takeReply o reply = s := by
  unfold takeReply
  rw [h]

theorem begin_of_ne (s : System) {o o' : Origin} (h : o ≠ o') :
    (s.begin o).history o' = s.history o' ∧ (s.begin o).task? o' = s.task? o' := by
  cases hr : s.ready? o with
  | none =>
    rw [begin_of_not_ready? hr]
    exact ⟨rfl, rfl⟩
  | some work =>
    rw [begin_of_ready? hr]
    exact ⟨history_advance_of_ne _ h .., task?_advance_of_ne _ h ..⟩

theorem takeReply_of_ne (s : System) {o o' : Origin} (h : o ≠ o') (reply : Reply) :
    (s.takeReply o reply).history o' = s.history o' ∧
      (s.takeReply o reply).task? o' = s.task? o' := by
  cases hp : s.pending? o with
  | none =>
    rw [takeReply_of_not_pending? hp]
    exact ⟨rfl, rfl⟩
  | some wf =>
    obtain ⟨work, f⟩ := wf
    rw [takeReply_of_pending? hp]
    refine ⟨?_, ?_⟩
    · rw [history_advance_of_ne _ h, history_noteReceipt_of_ne _ h]
    · exact (task?_advance_of_ne _ h ..).trans (task?_congr rfl rfl o')

/-- What an event of an origin comes to: nothing, or a step of its work, of which at most a
reply was noted before. -/
inductive OwnStep (s : System) (o : Origin) (e : Event) : Prop where
  | idle (same : s.step e = s)
  | stepped {received : List Receipt} {work : Work} {stage : Stage} {c : Client} {p : Progress}
      (step : s.step e = { s with received }.advance o work c p)
      (task : s.task? o = some ⟨work, stage⟩)
      (client : s.client.Stepped c (Client.poolAfter s.client.roster.pool p))
      (turn : ∀ f, p = .waiting f → s.client.roster.pool.turn? 0 = some f.server)

theorem ownStep {s : System} {e : Event} {o : Origin}
    (hmembers : s.client.roster.pool.members ≠ []) (h : e.actor? = some o) : s.OwnStep o e := by
  rcases Event.eq_of_actor? h with rfl | ⟨reply, rfl⟩
  · cases hr : s.ready? o with
    | none => exact .idle ((step_start s o).trans (begin_of_not_ready? hr))
    | some work =>
      exact .stepped ((step_start s o).trans (begin_of_ready? hr)) (ready?_eq_some.1 hr)
        (Client.start_stepped hmembers _ _) fun f hf => Client.turn?_of_start hmembers hf
  · cases hp : s.pending? o with
    | none => exact .idle (takeReply_of_not_pending? hp reply)
    | some wf =>
      obtain ⟨work, f⟩ := wf
      exact .stepped (takeReply_of_pending? hp reply) (pending?_eq_some.1 hp)
        (Client.resume_stepped hmembers _ _) fun f' hf => Client.turn?_of_resume hmembers hf

/-- A task that is launched is new, and nothing else. -/
theorem task?_launch (s : System) (work : Work) (o : Origin) :
    (s.step (.launch work)).task? o = s.task? o ∨
      (s.task? o = none ∧ (s.step (.launch work)).task? o = some ⟨work, .fresh⟩) := by
  cases o with
  | task id =>
    show (s.tasks ++ [⟨work, .fresh⟩])[id]? = s.tasks[id]? ∨
      (s.tasks[id]? = none ∧ (s.tasks ++ [⟨work, .fresh⟩])[id]? = some ⟨work, .fresh⟩)
    rcases Nat.lt_trichotomy id s.tasks.length with hlt | rfl | hgt
    · exact Or.inl (List.getElem?_append_left hlt)
    · exact Or.inr ⟨by simp, by simp⟩
    · left
      rw [List.getElem?_append_right (by omega), List.getElem?_eq_none (by simp; omega),
        List.getElem?_eq_none (by omega)]
  | background => exact Or.inl rfl

/-- An event of somebody else adds nothing to the history of an origin. -/
theorem history_step_of_ne {s : System} {e : Event} {o : Origin} (h : e.actor? ≠ some o) :
    (s.step e).history o = s.history o := by
  cases e with
  | begin id => exact (s.begin_of_ne fun he => h (congrArg some he)).1
  | wake => exact (s.begin_of_ne fun he => h (congrArg some he)).1
  | reply o' reply => exact (s.takeReply_of_ne (fun he => h (congrArg some he)) reply).1
  | setServers addresses => simp only [step]; split <;> rfl
  | nextServer => simp only [step]; split <;> rfl
  | stop => simp only [step]; split <;> rfl
  | release call => simp only [step]; split <;> rfl
  | _ => rfl

/-- An event of somebody else leaves alone how far an origin is. The exceptions are a
task that is launched and the background task that is told to end. -/
theorem task?_step_of_ne {s : System} {e : Event} {o : Origin} (h : e.actor? ≠ some o) :
    (s.step e).task? o = s.task? o ∨
      (s.task? o = none ∧ ∃ work, (s.step e).task? o = some ⟨work, .fresh⟩) ∨
      (o = .background ∧ (s.step e).task? o = none) := by
  cases e with
  | begin id => exact Or.inl (s.begin_of_ne fun he => h (congrArg some he)).2
  | wake => exact Or.inl (s.begin_of_ne fun he => h (congrArg some he)).2
  | reply o' reply => exact Or.inl (s.takeReply_of_ne (fun he => h (congrArg some he)) reply).2
  | launch work =>
    rcases s.task?_launch work o with hsame | ⟨hnone, hsome⟩
    · exact Or.inl hsame
    · exact Or.inr (Or.inl ⟨hnone, work, hsome⟩)
  | stop =>
    simp only [step]
    split
    · cases o with
      | task id => exact Or.inl rfl
      | background => exact Or.inr (Or.inr ⟨rfl, rfl⟩)
    · exact Or.inl rfl
  | setServers addresses => left; simp only [step]; split <;> exact task?_congr rfl rfl o
  | nextServer => left; simp only [step]; split <;> exact task?_congr rfl rfl o
  | release call => left; simp only [step]; split <;> exact task?_congr rfl rfl o
  | _ => exact Or.inl (task?_congr rfl rfl o)

/-! ## What never changes -/

/-- The client was set up, and discovery asks, in the same way in both states. -/
structure Kept (s s' : System) : Prop where
  settings : s'.client.settings = s.client.settings
  filter : s'.filter = s.filter
  scheme : s'.scheme = s.scheme

theorem Kept.refl (s : System) : s.Kept s := ⟨rfl, rfl, rfl⟩

theorem Kept.trans {s s' s'' : System} (h : s.Kept s') (h' : s'.Kept s'') : s.Kept s'' :=
  ⟨h'.settings.trans h.settings, h'.filter.trans h.filter, h'.scheme.trans h.scheme⟩

theorem Kept.setStage {s s' : System} (h : s.Kept s') (o : Origin) (stage : Stage) :
    s.Kept (s'.setStage o stage) := by
  cases o <;> exact ⟨h.settings, h.filter, h.scheme⟩

theorem kept_advance (s : System) (o : Origin) (work : Work) {c : Client}
    (h : c.settings = s.client.settings) (p : Progress) : s.Kept (s.advance o work c p) := by
  cases p with
  | waiting f =>
    have hnoted : s.Kept ({ s with client := c }.noteDispatch o f) := ⟨h, rfl, rfl⟩
    exact hnoted.setStage o _
  | ended outcome =>
    have hc : (s.conclude work c outcome).1.settings = s.client.settings := by
      cases work <;> exact h
    have hnoted : s.Kept ({ s with client := (s.conclude work c outcome).1 }.noteConclusion o
        (s.conclude work c outcome).2) := ⟨hc, rfl, rfl⟩
    exact hnoted.setStage o _

theorem kept_begin (s : System) (o : Origin) : s.Kept (s.begin o) := by
  cases hr : s.ready? o with
  | none => rw [begin_of_not_ready? hr]; exact .refl s
  | some work => rw [begin_of_ready? hr]; exact kept_advance _ _ _ (Client.start_settings _ _ _) _

theorem kept_takeReply (s : System) (o : Origin) (reply : Reply) :
    s.Kept (s.takeReply o reply) := by
  cases hp : s.pending? o with
  | none => rw [takeReply_of_not_pending? hp]; exact .refl s
  | some wf =>
    obtain ⟨work, f⟩ := wf
    rw [takeReply_of_pending? hp]
    have hreceipt : s.Kept (s.noteReceipt o f reply) := ⟨rfl, rfl, rfl⟩
    exact hreceipt.trans (kept_advance _ _ _ (Client.resume_settings _ _ _) _)

theorem kept_step (s : System) (e : Event) : s.Kept (s.step e) := by
  cases e with
  | begin id => exact kept_begin s _
  | wake => exact kept_begin s _
  | reply o reply => exact kept_takeReply s o reply
  | setServers addresses => simp only [step]; split <;> exact ⟨rfl, rfl, rfl⟩
  | nextServer => simp only [step]; split <;> exact ⟨rfl, rfl, rfl⟩
  | stop => simp only [step]; split <;> exact ⟨rfl, rfl, rfl⟩
  | release call => simp only [step]; split <;> exact ⟨rfl, rfl, rfl⟩
  | _ => exact ⟨rfl, rfl, rfl⟩

/-- Whatever is asked for is asked for in the same way. -/
theorem Kept.asked {s s' : System} (h : s.Kept s') (work : Work) :
    s'.asked work = s.asked work := by
  cases work with
  | request action options => rfl
  | discovery => simp only [System.asked, question, h.filter]

/-! ## Runs -/

@[simp] theorem run_nil (s : System) : s.run [] = s := rfl

@[simp] theorem run_cons (s : System) (e : Event) (events : List Event) :
    s.run (e :: events) = (s.step e).run events := rfl

@[simp] theorem run_append (s : System) (events more : List Event) :
    s.run (events ++ more) = (s.run events).run more :=
  List.foldl_append

theorem run_concat (s : System) (events : List Event) (e : Event) :
    s.run (events ++ [e]) = (s.run events).step e := by
  rw [run_append, run_cons, run_nil]

theorem kept_run (events : List Event) : ∀ s : System, s.Kept (s.run events) := by
  induction events with
  | nil => intro s; exact .refl s
  | cons e r ih => intro s; exact (s.kept_step e).trans (ih (s.step e))

end System

end Failover
