import Failover.Proofs.Dispatches
import Failover.Proofs.Totals

/-!
# What an event writes in the books

The logs of a system say what was done, the ledger says what was counted. An event that
goes on with a request writes in both, at several places and at different moments: a
failed attempt is counted before the policy is asked, another attempt after that, the end
of the request when its outcome is known, a run of discovery when the pool has followed.
`System.Booking` puts together what a whole event comes to, in five cases besides the one
in which nothing is written. Whatever is said about totals is a comparison of these.

The size of the pool is not a total, so it is left out of the ledger here
(`Ledger.counters`). Then nobody but the requests writes anything.
-/

namespace Failover

/-- The events that are counted. -/
def Ledger.counters (l : Ledger) : Ledger := l.filter fun m => m.family ≠ .poolSize

/-- It waits for a reply. -/
def Stage.isWaiting : Stage → Bool
  | .waiting _ => true
  | _ => false

/-- It is the first step of a request. -/
def Event.isStart : Event → Bool
  | .begin _ => true
  | .wake => true
  | _ => false

theorem Event.isStart_start (o : Origin) : o.start.isStart = true := by
  cases o <;> rfl

/-- The run of discovery that is counted when work has come to a result. -/
def WorkResult.booked : WorkResult → Ledger
  | .request _ => []
  | .discovery _ result => [.discoveryRun result.name]

/-- The failure that is counted when a reply comes. -/
def Flight.booked (f : Flight) : Reply → Ledger
  | .ok _ => []
  | .error failure => [.attemptFailure failure.kind.name f.server.base]

/-! ## The ledger of a request -/

namespace Client

variable {c : Client}

theorem dispatch_ledger (hmembers : c.roster.pool.members ≠ []) (e : Encoded)
    (interpret : Response → String → Outcome) (attempts : UInt32) :
    ∃ c' f, c.dispatch e interpret attempts = (c', .waiting f) ∧
      c'.roster.ledger = c.roster.ledger := by
  obtain ⟨server, hnext⟩ := Roster.next_of_members hmembers
  unfold dispatch
  rw [hnext]
  exact ⟨_, _, rfl, rfl⟩

/-- A request is refused, or it ends because it cannot be encoded, or it is sent. -/
theorem start_ledger (hmembers : c.roster.pool.members ≠ []) (a : Action) (o : Options) :
    (c.closed = true ∧ c.start a o = (c, .ended (.error .shutdown))) ∨
    (c.closed = false ∧ ∃ c' outcome, c.start a o = (c', .ended outcome) ∧
      c'.roster.ledger = .request a.method.name (status outcome) :: c.roster.ledger) ∨
    (c.closed = false ∧ ∃ c' f, c.start a o = (c', .waiting f) ∧
      c'.roster.ledger = c.roster.ledger) := by
  cases hclosed : c.closed with
  | true => exact Or.inl ⟨rfl, start_of_closed hclosed a o⟩
  | false =>
    right
    cases he : Encoded.ofAction c.settings a o with
    | error err =>
      refine Or.inl ⟨rfl, c.record (.request a.method.name (status (.error err))), .error err,
        ?_, rfl⟩
      unfold start
      rw [if_neg (by simp [hclosed]), he]
      rfl
    | ok e =>
      rw [start_of_ok hclosed he]
      exact Or.inr ⟨rfl, dispatch_ledger hmembers e a.interpret 0⟩

/-- A reply ends a request, or after a failure it is sent once more. -/
theorem resume_ledger (hmembers : c.roster.pool.members ≠ []) (f : Flight) (reply : Reply) :
    (∃ c' outcome, c.resume f reply = (c', .ended outcome) ∧
      c'.roster.ledger = .request f.encoded.method.name (status outcome) ::
        (f.booked reply ++ c.roster.ledger)) ∨
    ∃ failure c' f', reply = .error failure ∧ c.resume f reply = (c', .waiting f') ∧
      c'.roster.ledger = .retry failure.kind.name ::
        .attemptFailure failure.kind.name f.server.base :: c.roster.ledger := by
  unfold resume
  cases reply with
  | ok response => exact Or.inl ⟨_, _, rfl, rfl⟩
  | error failure =>
    simp only
    split
    · obtain ⟨c', f', hdispatch, hledger⟩ := dispatch_ledger
        (c := (c.record (.attemptFailure failure.kind.name f.server.base)).record
          (.retry failure.kind.name)) hmembers f.encoded f.interpret f.attempts
      exact Or.inr ⟨failure, c', f', rfl, hdispatch, hledger⟩
    · exact Or.inl ⟨_, _, rfl, rfl⟩

end Client

theorem Discovery.Result.apply_counters (result : Discovery.Result) (r : Roster) :
    (result.apply r).ledger.counters = r.ledger.counters := by
  cases result with
  | evicted server =>
    simp only [apply, Roster.evict]
    split <;> rfl
  | _ => rfl

namespace System

variable {s s' : System} {e : Event} {o : Origin} {work : Work}

theorem conclude_counters (s : System) (work : Work) (c : Client) (outcome : Outcome) :
    (s.conclude work c outcome).1.roster.ledger.counters =
      (s.conclude work c outcome).2.booked ++ c.roster.ledger.counters := by
  cases work with
  | request action options => rfl
  | discovery =>
    show .discoveryRun _ ::
      ((Discovery.Result.of s.scheme outcome).apply c.roster).ledger.counters = _
    rw [Discovery.Result.apply_counters]
    rfl

/-! ## Attempts that wait -/

/-- How many attempts wait for their reply. -/
def inFlight (s : System) : Nat :=
  s.tasks.countP (fun t => t.stage.isWaiting) + s.background.flight?.toList.length

/-- How many attempts wait, or have waited until they were cancelled. -/
def unanswered (s : System) : Nat := s.inFlight + s.abandoned.length

theorem countP_modify {α : Type} (p : α → Bool) (g : α → α) :
    ∀ (l : List α) (i : Nat) (a : α), l[i]? = some a →
      (l.modify i g).countP p + (p a).toNat = l.countP p + (p (g a)).toNat := by
  intro l
  induction l with
  | nil => intro i a h; cases h
  | cons b l ih =>
    intro i a h
    cases i with
    | zero =>
      cases h
      rw [List.modify_zero_cons, List.countP_cons, List.countP_cons]
      cases p b <;> cases p (g b) <;> simp
    | succ i =>
      have hrest := ih i a h
      rw [List.modify_succ_cons, List.countP_cons, List.countP_cons]
      omega

theorem inFlight_setStage {t : Task} (h : s.task? o = some t) (stage : Stage) :
    (s.setStage o stage).inFlight + t.stage.isWaiting.toNat =
      s.inFlight + stage.isWaiting.toNat := by
  cases o with
  | task id =>
    have hcount : (s.setStage (.task id) stage).tasks.countP (fun t => t.stage.isWaiting) +
        t.stage.isWaiting.toNat =
          s.tasks.countP (fun t => t.stage.isWaiting) + stage.isWaiting.toNat :=
      countP_modify _ _ _ _ _ h
    have hbackground : (s.setStage (.task id) stage).background = s.background := rfl
    rw [inFlight, inFlight, hbackground]
    omega
  | background =>
    -- However an iteration ends, the task does not wait for a reply then.
    have hafter : (Background.ofStage stage).flight?.toList.length = stage.isWaiting.toNat := by
      rcases stage with _ | f | (_ | ⟨_, _ | _ | _ | _ | _⟩) <;> rfl
    have hbefore : s.background.flight?.toList.length = t.stage.isWaiting.toNat := by
      simp only [task?] at h
      split at h
      next hb => cases h; rw [hb]; rfl
      next hb => cases h; rw [hb]; rfl
      · cases h
    show s.tasks.countP _ + (Background.ofStage stage).flight?.toList.length + _ = _
    rw [hafter, inFlight, hbefore]
    omega

/-- Work that goes on leaves the logs that it has no part in as they are. -/
theorem unanswered_advance {t : Task} (h : s.task? o = some t) (work : Work) (c : Client)
    (p : Progress) :
    (s.advance o work c p).unanswered + t.stage.isWaiting.toNat =
      s.unanswered + match p with
        | .waiting _ => 1
        | .ended _ => 0 := by
  cases p with
  | waiting f =>
    have htask : ({ s with client := c }.noteDispatch o f).task? o = some t :=
      (task?_congr rfl rfl o).trans h
    have hflight : (s.advance o work c (.waiting f)).inFlight + t.stage.isWaiting.toNat =
        s.inFlight + 1 := inFlight_setStage htask (.waiting f)
    have habandoned : (s.advance o work c (.waiting f)).abandoned = s.abandoned := by
      cases o <;> rfl
    rw [unanswered, unanswered, habandoned]
    simp only
    omega
  | ended outcome =>
    have htask : ({ s with client := (s.conclude work c outcome).1 }.noteConclusion o
        (s.conclude work c outcome).2).task? o = some t := (task?_congr rfl rfl o).trans h
    have hflight : (s.advance o work c (.ended outcome)).inFlight + t.stage.isWaiting.toNat =
        s.inFlight := inFlight_setStage htask (.done _)
    have habandoned : (s.advance o work c (.ended outcome)).abandoned = s.abandoned := by
      cases o <;> rfl
    rw [unanswered, unanswered, habandoned]
    simp only
    omega

/-! ## One event -/

/-- The counters of a client. -/
def counters (s : System) : Ledger := s.client.roster.ledger.counters

/-- What an event writes in the logs and in the ledger. -/
inductive Booking (s s' : System) (e : Event) : Prop where
  /-- Nothing, though an attempt may be cancelled. -/
  | nothing (dispatched : s'.dispatched = s.dispatched) (received : s'.received = s.received)
      (concluded : s'.concluded = s.concluded) (unanswered : s'.unanswered = s.unanswered)
      (counters : s'.counters = s.counters)
  /-- A request is sent for the first time. -/
  | opens {d : Dispatch} (start : e.isStart = true) (dispatched : s'.dispatched = d :: s.dispatched)
      (received : s'.received = s.received) (concluded : s'.concluded = s.concluded)
      (unanswered : s'.unanswered = s.unanswered + 1) (counters : s'.counters = s.counters)
  /-- A request is refused. -/
  | refuses {c : Conclusion} (start : e.isStart = true) (closed : s.client.closed = true)
      (dispatched : s'.dispatched = s.dispatched) (received : s'.received = s.received)
      (concluded : s'.concluded = c :: s.concluded) (unanswered : s'.unanswered = s.unanswered)
      (counters : s'.counters = c.result.booked ++ s.counters)
  /-- A request ends that was not sent. -/
  | unsent {c : Conclusion} {work : Work} (start : e.isStart = true)
      (opened : s.client.closed = false) (purpose : s.work? c.origin = some work)
      (dispatched : s'.dispatched = s.dispatched) (received : s'.received = s.received)
      (concluded : s'.concluded = c :: s.concluded) (unanswered : s'.unanswered = s.unanswered)
      (counters : s'.counters = c.result.booked ++
        .request (s.asked work).1.method.name (Client.status c.result.outcome) :: s.counters)
  /-- A request is sent again, since its attempt has failed. -/
  | retries {f : Flight} {failure : Failure} {d : Dispatch}
      (event : e = .reply d.origin (.error failure))
      (dispatched : s'.dispatched = d :: s.dispatched)
      (received : s'.received = ⟨d.origin, f.request, .error failure⟩ :: s.received)
      (concluded : s'.concluded = s.concluded) (unanswered : s'.unanswered = s.unanswered)
      (counters : s'.counters = .retry failure.kind.name ::
        .attemptFailure failure.kind.name f.server.base :: s.counters)
  /-- A request ends with the reply to an attempt. -/
  | ends {c : Conclusion} {f : Flight} {reply : Reply} {work : Work}
      (event : e = .reply c.origin reply) (purpose : s.work? c.origin = some work)
      (dispatched : s'.dispatched = s.dispatched)
      (received : s'.received = ⟨c.origin, f.request, reply⟩ :: s.received)
      (concluded : s'.concluded = c :: s.concluded) (unanswered : s'.unanswered + 1 = s.unanswered)
      (counters : s'.counters = c.result.booked ++
        .request (s.asked work).1.method.name (Client.status c.result.outcome) ::
          (f.booked reply ++ s.counters))

@[simp] theorem setStage_received (s : System) (o : Origin) (stage : Stage) :
    (s.setStage o stage).received = s.received := by
  cases o <;> rfl

theorem advance_received (s : System) (o : Origin) (work : Work) (c : Client) (p : Progress) :
    (s.advance o work c p).received = s.received := by
  cases p <;> exact setStage_received _ _ _

/-- What a result says of the outcome of its request. -/
theorem conclude_outcome (s : System) (work : Work) (c : Client) (outcome : Outcome) :
    (s.conclude work c outcome).2.outcome = outcome := by
  rw [conclude_result, Work.result_outcome]

theorem counters_advance_waiting (s : System) (o : Origin) (work : Work) (c : Client)
    (f : Flight) : (s.advance o work c (.waiting f)).counters = c.roster.ledger.counters := by
  rw [counters, advance_waiting_client]

theorem counters_advance_ended (s : System) (o : Origin) (work : Work) (c : Client)
    (outcome : Outcome) : (s.advance o work c (.ended outcome)).counters =
      (s.conclude work c outcome).2.booked ++ c.roster.ledger.counters := by
  rw [counters, advance_ended_client, conclude_counters]

/-- The first step of a request. -/
theorem booking_start (hmembers : s.client.roster.pool.members ≠ [])
    (hready : s.ready? o = some work) : s.Booking (s.step o.start) o.start := by
  have htask := ready?_eq_some.1 hready
  have hbegin : s.step o.start = _ := (step_start s o).trans (begin_of_ready? hready)
  have hunanswered := unanswered_advance htask work
  rcases Client.start_ledger hmembers (s.asked work).1 (s.asked work).2 with
    ⟨hclosed, hstart⟩ | ⟨hopen, c, outcome, hstart, hledger⟩ | ⟨-, c, f, hstart, hledger⟩
  -- It is refused, or it cannot be encoded, or it is sent.
  · rw [hstart] at hbegin
    refine .refuses (c := ⟨o, (s.conclude work s.client (.error .shutdown)).2⟩)
      (Event.isStart_start o) hclosed ?_ ?_ ?_ ?_ ?_
    · rw [hbegin, advance_ended_dispatched]
    · rw [hbegin, advance_received]
    · rw [hbegin, advance_ended_concluded]
    · rw [hbegin]
      exact hunanswered _ _
    · rw [hbegin, counters_advance_ended]
      rfl
  · rw [hstart] at hbegin
    refine .unsent (c := ⟨o, (s.conclude work c outcome).2⟩) (Event.isStart_start o) hopen
      (work?_of_task? htask) ?_ ?_ ?_ ?_ ?_
    · rw [hbegin, advance_ended_dispatched]
    · rw [hbegin, advance_received]
    · rw [hbegin, advance_ended_concluded]
    · rw [hbegin]
      exact hunanswered _ _
    · rw [hbegin, counters_advance_ended, hledger, conclude_outcome]
      rfl
  · rw [hstart] at hbegin
    refine .opens (d := ⟨o, f.request⟩) (Event.isStart_start o) ?_ ?_ ?_ ?_ ?_
    · rw [hbegin, advance_waiting_dispatched]
    · rw [hbegin, advance_received]
    · rw [hbegin, advance_waiting_concluded]
    · rw [hbegin]
      exact hunanswered _ _
    · rw [hbegin, counters_advance_waiting, hledger]
      rfl

/-- Every other step of a request. The attempt carries the method that its work asks for. -/
theorem booking_reply (hmembers : s.client.roster.pool.members ≠ []) {f : Flight}
    (hpending : s.pending? o = some (work, f))
    (hmethod : f.encoded.method = (s.asked work).1.method)
    (reply : Reply) : s.Booking (s.step (.reply o reply)) (.reply o reply) := by
  have htask := pending?_eq_some.1 hpending
  have htake : s.step (.reply o reply) = _ := takeReply_of_pending? hpending reply
  have hnoted : (s.noteReceipt o f reply).task? o = some ⟨work, .waiting f⟩ :=
    (task?_congr rfl rfl o).trans htask
  have hunanswered := unanswered_advance hnoted work
  rcases Client.resume_ledger hmembers f reply with
    ⟨c, outcome, hres, hledger⟩ | ⟨failure, c, f', rfl, hres, hledger⟩
  -- It ends, or it is sent again, so that as many attempts wait as before.
  · rw [hres] at htake
    refine .ends (c := ⟨o, ((s.noteReceipt o f reply).conclude work c outcome).2⟩) (f := f) rfl
      (work?_of_task? htask) ?_ ?_ ?_ ?_ ?_
    · rw [htake, advance_ended_dispatched]
      rfl
    · rw [htake, advance_received]
      rfl
    · rw [htake, advance_ended_concluded]
      rfl
    · rw [htake]
      exact hunanswered _ _
    · rw [htake, counters_advance_ended, hledger, conclude_outcome, hmethod]
      cases reply <;> rfl
  · rw [hres] at htake
    refine .retries (f := f) (d := ⟨o, f'.request⟩) rfl ?_ ?_ ?_ ?_ ?_
    · rw [htake, advance_waiting_dispatched]
      rfl
    · rw [htake, advance_received]
      rfl
    · rw [htake, advance_waiting_concluded]
      rfl
    · rw [htake]
      exact Nat.add_right_cancel (hunanswered _ _)
    · rw [htake, counters_advance_waiting, hledger]
      rfl

/-- Nobody but the requests writes anything. -/
theorem booking_of_other (hactor : e.actor? = none) (hmembers : s.client.roster.pool.members ≠ []) :
    s.Booking (s.step e) e := by
  cases e with
  | begin id => cases hactor
  | wake => cases hactor
  | reply o reply => cases hactor
  | launch work =>
    refine .nothing rfl rfl rfl ?_ rfl
    show List.countP _ (s.tasks ++ [⟨work, .fresh⟩]) + _ + _ = _
    rw [List.countP_append]
    rfl
  | setServers addresses =>
    simp only [step, Roster.replaceAll]
    cases Server.parseAll addresses <;> exact .nothing rfl rfl rfl rfl rfl
  | nextServer =>
    rw [step_nextServer hmembers]
    exact .nothing rfl rfl rfl rfl rfl
  | removeServer server =>
    refine .nothing rfl rfl rfl rfl ?_
    exact (Discovery.Result.evicted server).apply_counters s.client.roster
  | stop =>
    simp only [step]
    split
    · refine .nothing rfl rfl rfl ?_ rfl
      -- The attempt that waited is one that has been cancelled.
      simp only [unanswered, inFlight, List.length_append, Background.flight?, Option.toList_none,
        List.length_nil, Option.length_toList]
      cases s.background.flight? <;> simp <;> omega
    · exact .nothing rfl rfl rfl rfl rfl
  | release call =>
    simp only [step]
    split <;> exact .nothing rfl rfl rfl rfl rfl
  | _ => exact .nothing rfl rfl rfl rfl rfl

/-- **What an event writes in the books**, if every attempt that waits carries the method that
its work asks for. -/
theorem booking (hmembers : s.client.roster.pool.members ≠ [])
    (hmethod : ∀ o work f, s.pending? o = some (work, f) →
      f.encoded.method = (s.asked work).1.method) (e : Event) :
    s.Booking (s.step e) e := by
  have hidle : ∀ {e : Event}, s.step e = s → s.Booking (s.step e) e := fun hs => by
    rw [hs]
    exact .nothing rfl rfl rfl rfl rfl
  cases hactor : e.actor? with
  | none => exact booking_of_other hactor hmembers
  | some o =>
    rcases Event.eq_of_actor? hactor with rfl | ⟨reply, rfl⟩
    · cases hr : s.ready? o with
      | none => exact hidle ((step_start s o).trans (begin_of_not_ready? hr))
      | some work => exact booking_start hmembers hr
    · cases hp : s.pending? o with
      | none => exact hidle (takeReply_of_not_pending? hp reply)
      | some wf => exact booking_reply hmembers hp (hmethod o wf.1 wf.2 hp) reply

end System

end Failover
