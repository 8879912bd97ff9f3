import Mathlib.Data.List.Induction
import Failover.Proofs.Course
import Failover.Proofs.Membership

/-!
# Requests do not disturb each other

However many requests are under way in a client, and in whatever order their replies
come: each of them takes a course that it could have taken alone. `System.Stands` says
so of one origin, with the state `s₁` in which its last request began. The course is
read off what the origin has added to its history since.

The proof goes through the events since then (`System.stands_run`). An event of somebody
else changes neither side. An event of its own is one step of the client, and a step of
the client is one step of the course, as the pool has members in every state. What the
pool offers at that moment is the only thing that the others decide.

Of a course everything else follows: what is in flight, what ended, and that the handler
hears of the end and of nothing else (`System.Isolated`).
-/

namespace Failover

/-- These requests and replies, one after the other. -/
def History.exchanged (o : Origin) (xs : List (Request × Reply)) : History where
  sent := xs.map Prod.fst
  received := xs.map fun x => ⟨o, x.1, x.2⟩

@[simp] theorem History.exchanged_requests (o : Origin) (xs : List (Request × Reply)) :
    (History.exchanged o xs).received.map Receipt.request = (History.exchanged o xs).sent := by
  simp [exchanged, Function.comp_def]

/-- What work makes of the outcome of its request. -/
def Work.result (scheme : String) : Work → Outcome → WorkResult
  | .request _ _, outcome => .request outcome
  | .discovery, outcome => .discovery outcome (.of scheme outcome)

@[simp] theorem Work.result_outcome (scheme : String) (work : Work) (outcome : Outcome) :
    (work.result scheme outcome).outcome = outcome := by
  cases work <;> rfl

namespace System

theorem conclude_result (s : System) (work : Work) (c : Client) (outcome : Outcome) :
    (s.conclude work c outcome).2 = work.result s.scheme outcome := by
  cases work <;> rfl

/-- What the end of work adds to the history of its origin. -/
def ending (scheme : String) (o : Origin) (work : Work) (outcome : Outcome) : History where
  concluded := [work.result scheme outcome]
  calls := callsOf o (work.result scheme outcome)

/-- How the request stands in `s` that an origin began in `s₁`, and what it has added to
the history since. -/
inductive Stands (s₁ s : System) (o : Origin) (work : Work) : History → Prop where
  | waiting {xs : List (Request × Reply)} {f : Flight}
      (course : s₁.client.UnderWay (s₁.asked work).1 (s₁.asked work).2 xs f)
      (task : s.task? o = some ⟨work, .waiting f⟩) :
      Stands s₁ s o work (.exchanged o xs ++ { sent := [f.request] })
  /-- Nobody waits for the last reply any more. -/
  | abandoned {xs : List (Request × Reply)} {f : Flight}
      (course : s₁.client.UnderWay (s₁.asked work).1 (s₁.asked work).2 xs f)
      (background : o = .background) (idle : s.pending? o = none) :
      Stands s₁ s o work (.exchanged o xs ++ { sent := [f.request] })
  | ended {xs : List (Request × Reply)} {outcome : Outcome}
      (course : s₁.client.Ended (s₁.asked work).1 (s₁.asked work).2 xs outcome)
      (idle : s.pending? o = none)
      (task : ∀ id, o = .task id →
        s.task? o = some ⟨work, .done (work.result s₁.scheme outcome)⟩) :
      Stands s₁ s o work (.exchanged o xs ++ ending s₁.scheme o work outcome)

variable {s₁ s : System} {o : Origin} {work : Work} {own : History}

/-! ## Events of others -/

theorem pending?_step_of_ne {e : Event} (hne : e.actor? ≠ some o) (h : s.pending? o = none) :
    (s.step e).pending? o = none := by
  apply pending?_eq_none
  intro w f hf
  rcases task?_step_of_ne (s := s) hne with hsame | ⟨-, _, hfresh⟩ | ⟨-, hnone⟩
  · rw [hsame] at hf
    rw [pending?_eq_some.2 hf] at h
    cases h
  · rw [hfresh] at hf
    cases hf
  · rw [hnone] at hf
    cases hf

theorem Stands.step_of_ne {e : Event} (h : Stands s₁ s o work own) (hne : e.actor? ≠ some o) :
    Stands s₁ (s.step e) o work own := by
  cases h with
  | waiting course task =>
    rcases task?_step_of_ne (s := s) hne with hsame | ⟨hnone, -⟩ | ⟨hback, hnone⟩
    · exact .waiting course (hsame.trans task)
    · rw [task] at hnone
      cases hnone
    · -- Only the background task can be made to wait no longer.
      refine .abandoned course hback (pending?_eq_none fun w f hf => ?_)
      rw [hnone] at hf
      cases hf
  | abandoned course background idle =>
    exact .abandoned course background (pending?_step_of_ne hne idle)
  | ended course idle task =>
    refine .ended course (pending?_step_of_ne hne idle) ?_
    rintro id rfl
    have ht := task id rfl
    rcases task?_step_of_ne (s := s) hne with hsame | ⟨hnone, -⟩ | ⟨hback, -⟩
    · exact hsame.trans ht
    · rw [ht] at hnone
      cases hnone
    · cases hback

/-! ## Events of its own -/

theorem stands_advance_waiting {s₂ : System} {h : History} {t : Task} {c : Client}
    {xs : List (Request × Reply)} {f : Flight}
    (course : s₁.client.UnderWay (s₁.asked work).1 (s₁.asked work).2 xs f)
    (htask : s₂.task? o = some t) (hwork : t.work = work)
    (hhist : s₂.history o = h ++ .exchanged o xs) :
    ∃ own, (s₂.advance o work c (.waiting f)).history o = h ++ own ∧
      Stands s₁ (s₂.advance o work c (.waiting f)) o work own := by
  refine ⟨_, ?_, .waiting course ?_⟩
  · rw [history_advance_waiting, hhist, History.append_assoc]
  · rw [task?_advance_waiting htask, hwork]

theorem stands_advance_ended {s₂ : System} {h : History} {t : Task} {c : Client}
    {xs : List (Request × Reply)} {outcome : Outcome}
    (course : s₁.client.Ended (s₁.asked work).1 (s₁.asked work).2 xs outcome)
    (hscheme : s₂.scheme = s₁.scheme) (htask : s₂.task? o = some t) (hwork : t.work = work)
    (hhist : s₂.history o = h ++ .exchanged o xs) :
    ∃ own, (s₂.advance o work c (.ended outcome)).history o = h ++ own ∧
      Stands s₁ (s₂.advance o work c (.ended outcome)) o work own := by
  refine ⟨_, ?_, .ended course (pending?_advance_ended htask _ _ _) ?_⟩
  · rw [history_advance_ended, hhist, History.append_assoc, conclude_result, hscheme]
    rfl
  · rintro id rfl
    rw [task?_advance_ended htask, conclude_result, hscheme, hwork]

/-- The first step of a request begins a course. -/
theorem stands_start (hmembers : s.client.roster.pool.members ≠ [])
    (hready : s.ready? o = some work) :
    ∃ own, (s.step o.start).history o = s.history o ++ own ∧
      Stands s (s.step o.start) o work own := by
  have htask := ready?_eq_some.1 hready
  have hhist : s.history o = s.history o ++ .exchanged o [] := (History.append_empty _).symm
  rw [step_start, begin_of_ready? hready]
  rcases Client.start_cases hmembers (s.asked work).1 (s.asked work).2 with
    ⟨hclosed, hstart⟩ | ⟨_, _, hopen, he, hstart, -⟩ | ⟨_, _, _, hopen, he, -, hstart, -⟩
  · rw [hstart]
    exact stands_advance_ended (.refused hclosed) rfl htask rfl hhist
  · rw [hstart]
    exact stands_advance_ended (.unencodable hopen he) rfl htask rfl hhist
  · rw [hstart]
    exact stands_advance_waiting (.sent hopen he) htask rfl hhist

/-- A reply to a request takes it one step further. -/
theorem Stands.reply (h : Stands s₁ s o work own) (hkept : s₁.Kept s)
    (hmembers : s.client.roster.pool.members ≠ []) {before : History}
    (hhist : s.history o = before ++ own) (reply : Reply) :
    ∃ own', (s.step (.reply o reply)).history o = before ++ own' ∧
      Stands s₁ (s.step (.reply o reply)) o work own' := by
  have hidle : s.pending? o = none → s.step (.reply o reply) = s :=
    fun hp => takeReply_of_not_pending? hp reply
  cases h with
  | abandoned course background idle =>
    rw [hidle idle]
    exact ⟨_, hhist, .abandoned course background idle⟩
  | ended course idle task =>
    rw [hidle idle]
    exact ⟨_, hhist, .ended course idle task⟩
  | @waiting xs f course task =>
    have hstep : s.step (.reply o reply) = (s.noteReceipt o f reply).advance o work
        (s.client.resume f reply).1 (s.client.resume f reply).2 :=
      takeReply_of_pending? (pending?_eq_some.2 task) reply
    have htask : (s.noteReceipt o f reply).task? o = some ⟨work, .waiting f⟩ :=
      (task?_congr rfl rfl o).trans task
    -- The request that was in flight now has its reply, and the course so far is complete.
    have hnoted : (s.noteReceipt o f reply).history o =
        before ++ .exchanged o (xs ++ [(f.request, reply)]) := by
      rw [history_noteReceipt, hhist]
      ext1 <;> simp [History.exchanged]
    rw [hstep]
    rcases Client.resume_cases hmembers f reply with
      ⟨hrep, _, hresume, -⟩ | ⟨hrep, _, _, -, hresume, -⟩
    · rw [hresume]
      rw [hkept.settings] at hrep
      exact stands_advance_ended (.replied course hrep) hkept.scheme htask rfl hnoted
    · rw [hresume]
      rw [hkept.settings] at hrep
      exact stands_advance_waiting (.repeated course hrep) htask rfl hnoted

/-! ## A whole request -/

/-- The origin makes the first step of no request in these events. -/
def BeginsNone (s : System) (o : Origin) (events : List Event) : Prop :=
  ∀ mid rest, events = mid ++ o.start :: rest → (s.run mid).ready? o = none

theorem BeginsNone.nil (s : System) (o : Origin) : s.BeginsNone o [] := by
  intro mid rest h
  simp at h

theorem BeginsNone.of_append {events more : List Event}
    (h : s.BeginsNone o (events ++ more)) : s.BeginsNone o events := by
  rintro mid rest rfl
  exact h mid (rest ++ more) (by simp)

theorem BeginsNone.concat {events : List Event} {e : Event} (h : s.BeginsNone o events)
    (he : e = o.start → (s.run events).ready? o = none) : s.BeginsNone o (events ++ [e]) := by
  intro mid rest hsplit
  rcases List.eq_nil_or_concat rest with rfl | ⟨rest', x, rfl⟩
  · obtain ⟨rfl, hstart⟩ := List.append_inj' hsplit rfl
    exact he (List.singleton_inj.1 hstart)
  · have hsplit' : events ++ [e] = (mid ++ o.start :: rest') ++ [x] := by simpa using hsplit
    exact h mid rest' (List.append_inj' hsplit' rfl).1

/-- A request that has begun takes its course as long as its origin begins no other. -/
theorem stands_run (hready : s₁.ready? o = some work)
    (hstocked : s₁.client.roster.pool.Stocked) (after : List Event)
    (hnone : (s₁.step o.start).BeginsNone o after) :
    ∃ own, (s₁.run (o.start :: after)).history o = s₁.history o ++ own ∧
      Stands s₁ (s₁.run (o.start :: after)) o work own := by
  -- On the events since the start, from the last one back: the state in which the course
  -- began has to stay the same.
  induction after using List.reverseRecOn with
  | nil => exact stands_start hstocked.members hready
  | append_singleton after e ih =>
    obtain ⟨own, hhist, hstands⟩ := ih hnone.of_append
    have hmembers := (run_stocked (o.start :: after) hstocked).members
    have hkept := kept_run (o.start :: after) s₁
    rw [← List.cons_append, run_concat]
    by_cases ha : e.actor? = some o
    · rcases Event.eq_of_actor? ha with rfl | ⟨reply, rfl⟩
      · have hidle : (s₁.run (o.start :: after)).ready? o = none := hnone after [] rfl
        rw [step_start, begin_of_not_ready? hidle]
        exact ⟨own, hhist, hstands⟩
      · exact hstands.reply hkept hmembers hhist reply
    · exact ⟨own, (history_step_of_ne ha).trans hhist, hstands.step_of_ne ha⟩

/-- A task makes its first step once. -/
theorem Stands.not_ready {id : Nat} (h : Stands s₁ s (.task id) work own) :
    s.ready? (.task id) = none := by
  rw [Option.eq_none_iff_forall_ne_some]
  intro w hw
  have ht := ready?_eq_some.1 hw
  cases h with
  | waiting course task => rw [task] at ht; cases ht
  | abandoned course background idle => cases background
  | ended course idle task => rw [task id rfl] at ht; cases ht

/-! ## A whole run -/

/-- Nothing has begun: the origin has done nothing, and if it has work the first step of
that is still to come. -/
structure Idle (s : System) (o : Origin) : Prop where
  history : s.history o = {}
  fresh : ∀ t, s.task? o = some t → t.stage = .fresh

theorem Idle.pending? (h : s.Idle o) : s.pending? o = none := by
  apply pending?_eq_none
  intro w f hf
  cases h.fresh _ hf

theorem Idle.step_of_ne {e : Event} (h : s.Idle o) (hne : e.actor? ≠ some o) :
    (s.step e).Idle o := by
  refine ⟨(history_step_of_ne hne).trans h.history, fun t ht => ?_⟩
  rcases task?_step_of_ne (s := s) hne with hsame | ⟨-, _, hfresh⟩ | ⟨-, hnone⟩
  · exact h.fresh t (hsame ▸ ht)
  · rw [hfresh] at ht
    cases ht
    rfl
  · rw [hnone] at ht
    cases ht

theorem Idle.run (h : s.Idle o) (events : List Event) (hnone : s.BeginsNone o events) :
    (s.run events).Idle o := by
  induction events using List.reverseRecOn with
  | nil => exact h
  | append_singleton events e ih =>
    have hidle := ih hnone.of_append
    rw [run_concat]
    by_cases ha : e.actor? = some o
    · rcases Event.eq_of_actor? ha with rfl | ⟨reply, rfl⟩
      · rw [step_start, begin_of_not_ready? (hnone events [] rfl)]
        exact hidle
      · have hsame : (s.run events).step (.reply o reply) = s.run events :=
          takeReply_of_not_pending? hidle.pending? reply
        rw [hsame]
        exact hidle
    · exact hidle.step_of_ne ha

/-- In a run an origin begins no request at all, or there is one that it began last. -/
theorem exists_last_start (s : System) (o : Origin) (events : List Event) :
    s.BeginsNone o events ∨
      ∃ before after work, events = before ++ o.start :: after ∧
        (s.run before).ready? o = some work ∧
        ((s.run before).step o.start).BeginsNone o after := by
  induction events using List.reverseRecOn with
  | nil => exact Or.inl (.nil s o)
  | append_singleton events e ih =>
    by_cases he : e = o.start ∧ ∃ work, (s.run events).ready? o = some work
    · obtain ⟨rfl, work, hready⟩ := he
      exact Or.inr ⟨events, [], work, rfl, hready, .nil _ o⟩
    · have hno : e = o.start → (s.run events).ready? o = none := fun h =>
        Option.eq_none_iff_forall_ne_some.2 fun work hw => he ⟨h, work, hw⟩
      rcases ih with hnone | ⟨before, after, work, hsplit, hready, hnone⟩
      · exact Or.inl (hnone.concat hno)
      · refine Or.inr ⟨before, after ++ [e], work, by simp [hsplit], hready, hnone.concat ?_⟩
        rw [hsplit, run_append] at hno
        exact hno

/-- Before a task begins its request it has done nothing. -/
theorem Idle.history_of_ready {s₀ : System} {id : Nat} (hidle : s₀.Idle (.task id))
    (hstocked : s₀.client.roster.pool.Stocked) {before : List Event}
    (hready : (s₀.run before).ready? (.task id) = some work) :
    (s₀.run before).history (.task id) = {} := by
  rcases exists_last_start s₀ (.task id) before with hnone | ⟨b, a, w, hsplit, hb, hnone⟩
  · exact (hidle.run before hnone).history
  · -- It would have begun before, and a task does so once.
    obtain ⟨own, -, hstands⟩ := stands_run hb (run_stocked b hstocked) a hnone
    rw [← run_append, ← hsplit] at hstands
    rw [hstands.not_ready] at hready
    cases hready

/-- Nothing has begun in a client that was just built. -/
theorem idle_of_build {setup : Client.Setup} {s₀ : System} (h : Client.build setup = .ok s₀)
    (o : Origin) : s₀.Idle o := by
  obtain ⟨_, _, _, -, -, -, rfl⟩ := Client.build_eq_ok h
  refine ⟨by ext1 <;> rfl, fun t ht => ?_⟩
  cases o with
  | task id => cases ht
  | background =>
    simp only [task?] at ht
    cases hd : setup.config.discovery.enabled with
    | true => rw [hd] at ht; cases ht; rfl
    | false => rw [hd] at ht; cases ht

/-! ## What follows from a course -/

/-- The calls that these results make. Only a request of a caller has a handler. It is told that
the request was completed, with the answer, or that it failed, with the error. -/
def handlerCalls : Origin → Work → List WorkResult → List Call
  | .task _, .request _ _, results => results.map fun result =>
    match result.outcome with
    | .ok answer => .completed answer
    | .error e => .failed e
  | _, _, _ => []

/-- What the others cannot change about a request that began in `s₁`. Since then its
origin has added `own` to its history. -/
structure Isolated (s₁ s : System) (o : Origin) (work : Work) (own : History) : Prop where
  /-- The replies answer the requests one by one. -/
  answered : own.received.map Receipt.request <+: own.sent
  /-- Until it ends one request is without a reply, and then none is. -/
  balance : own.sent.length + own.concluded.length = own.received.length + 1
  /-- While an attempt waits, its request is that one. -/
  waiting : ∀ work' f, s.pending? o = some (work', f) → work' = work ∧
    own.sent = own.received.map Receipt.request ++ [f.request] ∧ own.concluded = []
  /-- A reply that another request came after was a failure. -/
  failed : ∀ (i : Nat) (r : Receipt), i + 1 < own.sent.length → own.received[i]? = some r →
    ∃ failure, r.reply = .error failure
  /-- It ends once. -/
  once : own.concluded.length ≤ 1
  /-- It ends with the outcome, and has sent the requests, of the loop run by itself on
  the servers that it was given, with the replies that it got and any after them. -/
  sequential : ∀ result ∈ own.concluded, s.pending? o = none ∧
    ∀ replies : Nat → Reply,
      (∀ (i : Nat) (r : Receipt), own.received[i]? = some r → replies (i + 1) = r.reply) →
      ∃ c, (s₁.client.serving (own.sent.map Request.server)).execute (answering replies) []
        (s₁.asked work).1 (s₁.asked work).2 = (result.outcome, c, own.sent)
  /-- A task waits as long as it has not ended. -/
  unended : ∀ id, o = .task id → own.concluded = [] → ∃ f, s.pending? o = some (work, f)
  /-- A task is done when it has ended. -/
  done : ∀ id, o = .task id → ∀ result,
    s.tasks[id]? = some ⟨work, .done result⟩ ↔ own.concluded = [result]
  /-- The handler of a request is told of its end, and of nothing else. -/
  calls : own.calls = handlerCalls o work own.concluded
  /-- A client that is shut down sends nothing. -/
  refused : s₁.client.closed = true →
    own.sent = [] ∧ own.concluded.map WorkResult.outcome = [.error .shutdown]

theorem callsOf_result (scheme : String) (o : Origin) (work : Work) (outcome : Outcome) :
    callsOf o (work.result scheme outcome) =
      handlerCalls o work [work.result scheme outcome] := by
  cases o <;> cases work <;> cases outcome <;> rfl

/-- An attempt that waits, or that nobody waits for any more, is like all before it. -/
theorem Isolated.of_underWay {xs : List (Request × Reply)} {f : Flight}
    (course : s₁.client.UnderWay (s₁.asked work).1 (s₁.asked work).2 xs f)
    (htask : s.task? o = some ⟨work, .waiting f⟩ ∨ o = .background)
    (hpending : ∀ work' f', s.pending? o = some (work', f') → work' = work ∧ f' = f) :
    Isolated s₁ s o work (.exchanged o xs ++ { sent := [f.request] }) where
  answered := ⟨[f.request], by simp⟩
  balance := by simp [History.exchanged]
  waiting := by
    intro work' f' hp
    obtain ⟨rfl, rfl⟩ := hpending work' f' hp
    exact ⟨rfl, by simp, rfl⟩
  failed := by
    intro i r _ hr
    have hr : (xs.map fun x => (⟨o, x.1, x.2⟩ : Receipt))[i]? = some r := by
      simpa [History.exchanged] using hr
    rw [List.getElem?_map, Option.map_eq_some_iff] at hr
    obtain ⟨x, hx, rfl⟩ := hr
    exact course.failed i x hx
  once := by simp [History.exchanged]
  sequential := by simp [History.exchanged]
  unended := by
    rintro id rfl -
    rcases htask with htask | hback
    · exact ⟨f, pending?_eq_some.2 htask⟩
    · cases hback
  done := by
    rintro id rfl result
    rcases htask with htask | hback
    · have ht : s.tasks[id]? = some ⟨work, .waiting f⟩ := htask
      rw [ht]
      constructor
      · intro hdone
        cases hdone
      · intro hc
        cases hc
    · cases hback
  calls := by
    cases o <;> cases work <;> rfl
  refused := by
    intro hclosed
    rw [course.isOpen] at hclosed
    cases hclosed

theorem Stands.isolated (h : Stands s₁ s o work own) : Isolated s₁ s o work own := by
  cases h with
  | waiting course task =>
    refine .of_underWay course (Or.inl task) fun work' f' hp => ?_
    have ht := pending?_eq_some.1 hp
    rw [task] at ht
    cases ht
    exact ⟨rfl, rfl⟩
  | abandoned course background idle =>
    refine .of_underWay course (Or.inr background) fun work' f' hp => ?_
    rw [idle] at hp
    cases hp
  | @ended xs outcome course idle task =>
    have hsent : (History.exchanged o xs ++ ending s₁.scheme o work outcome).sent =
        xs.map Prod.fst := List.append_nil _
    have hreceived : (History.exchanged o xs ++ ending s₁.scheme o work outcome).received =
        xs.map fun x => ⟨o, x.1, x.2⟩ := List.append_nil _
    have hconcluded : (History.exchanged o xs ++ ending s₁.scheme o work outcome).concluded =
        [work.result s₁.scheme outcome] := rfl
    constructor
    case answered => exact ⟨[], by simp [ending]⟩
    case balance => simp [hsent, hreceived, hconcluded]
    case unended =>
      intro _ _ hc
      cases hc
    case waiting =>
      intro work' f hp
      rw [idle] at hp
      cases hp
    case failed =>
      intro i r hi hr
      rw [hsent, List.length_map] at hi
      rw [hreceived, List.getElem?_map, Option.map_eq_some_iff] at hr
      obtain ⟨x, hx, rfl⟩ := hr
      exact course.failed i x hi hx
    case once => simp [hconcluded]
    case sequential =>
      intro result hresult
      rw [hconcluded, List.mem_singleton] at hresult
      subst hresult
      refine ⟨idle, fun replies hreplies => ?_⟩
      rw [hsent, List.map_map, Work.result_outcome]
      refine course.execute fun i x hx => hreplies i ⟨o, x.1, x.2⟩ ?_
      rw [hreceived, List.getElem?_map, hx, Option.map_some]
    case done =>
      rintro id rfl result
      have ht : s.tasks[id]? = some ⟨work, .done (work.result s₁.scheme outcome)⟩ := task id rfl
      rw [ht, hconcluded]
      simp
    case calls =>
      rw [hconcluded, ← callsOf_result]
      rfl
    case refused =>
      intro hclosed
      cases course with
      | refused _ => exact ⟨hsent, by rw [hconcluded, List.map_singleton, Work.result_outcome]⟩
      | unencodable hopen _ => rw [hclosed] at hopen; cases hopen
      | replied before _ => rw [before.isOpen] at hclosed; cases hclosed

/-- A reply is taken by the attempt that waits for it. -/
theorem received_reply {f : Flight} (h : s.pending? o = some (work, f)) (reply : Reply) :
    ((s.step (.reply o reply)).history o).received =
      (s.history o).received ++ [⟨o, f.request, reply⟩] := by
  have hstep : s.step (.reply o reply) = (s.noteReceipt o f reply).advance o work
      (s.client.resume f reply).1 (s.client.resume f reply).2 := takeReply_of_pending? h reply
  rw [hstep]
  cases (s.client.resume f reply).2 with
  | waiting f' =>
    rw [history_advance_waiting, history_noteReceipt]
    exact List.append_nil _
  | ended outcome =>
    rw [history_advance_ended, history_noteReceipt]
    exact List.append_nil _

/-- **Requests are isolated.** At any time in the run of a client, whatever the order of
its events: an origin has begun nothing, or it began its last request at some time
before, and what it has done since is what that request would have done by itself, with
the same replies, on the servers that its attempts were sent to. A task makes one
request, and the handler is called when that request ends, once and with its outcome. A
reply to an attempt that waits is always taken. -/
theorem run_isolated {setup : Client.Setup} {s₀ : System} (h : Client.build setup = .ok s₀)
    (events : List Event) (o : Origin) :
    ((s₀.BeginsNone o events ∧ (s₀.run events).Idle o) ∨
      ∃ before after work own, events = before ++ o.start :: after ∧
        (s₀.run before).ready? o = some work ∧
        ((s₀.run before).step o.start).BeginsNone o after ∧
        (∀ id, o = .task id → (s₀.run before).history o = {}) ∧
        (s₀.run events).history o = (s₀.run before).history o ++ own ∧
        Isolated (s₀.run before) (s₀.run events) o work own) ∧
    ∀ work f reply, (s₀.run events).pending? o = some (work, f) →
      (((s₀.run events).step (.reply o reply)).history o).received =
        ((s₀.run events).history o).received ++ [⟨o, f.request, reply⟩] := by
  have hstocked := Client.build_stocked h
  refine ⟨?_, fun work f reply hp => received_reply hp reply⟩
  rcases exists_last_start s₀ o events with hnone |
    ⟨before, after, work, hsplit, hready, hnone⟩
  · exact Or.inl ⟨hnone, (idle_of_build h o).run events hnone⟩
  · obtain ⟨own, hhist, hstands⟩ := stands_run hready (run_stocked before hstocked) after hnone
    rw [← run_append, ← hsplit] at hhist hstands
    refine Or.inr ⟨before, after, work, own, hsplit, hready, hnone, ?_, hhist,
      hstands.isolated⟩
    rintro id rfl
    exact (idle_of_build h _).history_of_ready hstocked hready

/-- Two requests at once, with a reply for the second before one for the first, and a
change of the membership in between. One handler is told of an answer, the other of an error. -/
theorem run_isolated_crossed :
    let refused : Failure := ⟨.connectRefused, "http://[::1]:9200/", "refused"⟩
    let events : List Event :=
      [.launch (.request ping {}), .launch (.request ping {}), .begin 0, .begin 1,
        .reply (.task 1) (.ok {}), .removeServer ⟨"http://[::1]:9200"⟩,
        .reply (.task 0) (.error refused)]
    ∃ s₀, Client.build { config := .withServers ["[::1]:9200", "http://[::2]:9200"] } = .ok s₀ ∧
      (∀ id, ((s₀.run events).history (.task id)).calls.length ≤ 1) ∧
      (∃ server, ((s₀.run events).history (.task 0)).calls =
        [.failed (.couldNotConnect server refused)]) ∧
      ∃ answer, ((s₀.run events).history (.task 1)).calls = [.completed answer] := by
  intro refused events
  obtain ⟨s₀, hbuild⟩ :
      ∃ s₀, Client.build { config := .withServers ["[::1]:9200", "http://[::2]:9200"] } = .ok s₀ :=
    ⟨_, rfl⟩
  have hlength (id : Nat) : ((s₀.run events).history (.task id)).calls.length ≤ 1 := by
    rcases (run_isolated hbuild events (.task id)).1 with
      ⟨-, hidle⟩ | ⟨_, _, work, own, -, -, -, hnew, hhist, hown⟩
    · rw [hidle.history]
      exact Nat.zero_le _
    · rw [hhist, hnew id rfl, History.empty_append, hown.calls]
      cases work with
      | request action options =>
        show (own.concluded.map _).length ≤ 1
        rw [List.length_map]
        exact hown.once
      | discovery => exact Nat.zero_le _
  have hcalls {id : Nat} {work : Work} {result : WorkResult}
      (htask : (s₀.run events).tasks[id]? = some ⟨work, .done result⟩) :
      ((s₀.run events).history (.task id)).calls = handlerCalls (.task id) work [result] := by
    rcases (run_isolated hbuild events (.task id)).1 with
      ⟨-, hidle⟩ | ⟨_, _, _, own, -, -, -, hnew, hhist, hown⟩
    · cases hidle.fresh _ htask
    · rw [hhist, hnew id rfl, History.empty_append, hown.calls]
      cases hconcluded : own.concluded with
      | nil =>
        obtain ⟨f, hwaiting⟩ := hown.unended id rfl hconcluded
        cases htask.symm.trans (pending?_eq_some.1 hwaiting)
      | cons result' more =>
        have honce := hown.once
        rw [hconcluded, List.length_cons] at honce
        obtain rfl : more = [] := List.length_eq_zero_iff.1 (by omega)
        have hdone := (hown.done id rfl result').2 hconcluded
        cases htask.symm.trans hdone
        rfl
  obtain ⟨server, hfailed⟩ : ∃ server, (s₀.run events).tasks[0]? =
      some ⟨.request ping {}, .done (.request (.error (.couldNotConnect server refused)))⟩ := by
    cases hbuild
    exact ⟨_, rfl⟩
  obtain ⟨outcome, hdone, hok⟩ : ∃ outcome, (s₀.run events).tasks[1]? =
      some ⟨.request ping {}, .done (.request outcome)⟩ ∧ outcome.isOk = true := by
    cases hbuild
    exact ⟨_, rfl, by decide +kernel⟩
  cases outcome with
  | error e => cases hok
  | ok answer =>
    exact ⟨s₀, hbuild, hlength, ⟨server, hcalls hfailed⟩, answer, hcalls hdone⟩

end System

end Failover
