import Failover.Proofs.Booking
import Mathlib.Data.List.Count

/-!
# The metrics account for every attempt

A counter is bumped in one function and the thing that it counts happens in another, with
an `await` between them, so one event tells little about a total: a number that is counted
twice, or not at all on one way out, shows over whole runs only. Here the totals that the
report of a run shows are compared with what was done in it.

What was done is read off the logs of the system, event by event: `sent`, `receipts` and
`endings` are what an event has added to them, and the rest is picked out of these
(`opened`, `repeated`, `settled`, `refused`). `written` puts together what should be counted
for it. That this is what the event adds to the ledger is `Booking.counters_eq`, in the cases
of `Booking`. The ledger never loses anything, so that the ledger of a run is what its events
have written (`collect_eq`), and a total is compared with the number of things of its kind
event by event (`countP_collect`).

An attempt whose caller has stopped waiting gets no reply any more. It stays among those in
flight here. What waited for the background task when that was stopped is `abandoned`.
-/

namespace Failover

/-- The failure that was received, and where. -/
def Receipt.failure? (r : Receipt) : Option (FailureKind × Server) :=
  match r.reply with
  | .ok _ => none
  | .error failure => some (failure.kind, r.request.server)

/-- A response was received. -/
def Receipt.isDelivered (r : Receipt) : Bool := r.failure?.isNone

/-! ## Labels

What things are counted under is part of what a report says, so the words stand here once more. -/

namespace Counted

/-- The word for a method. -/
def method : Method → String
  | .get => "GET"
  | .post => "POST"
  | .put => "PUT"
  | .delete => "DELETE"
  | .head => "HEAD"

/-- The word for a kind of failure. -/
def failure : FailureKind → String
  | .connectRefused => "connect_refused"
  | .connectionReset => "connection_reset"
  | .nameResolution => "name_resolution"
  | .tlsHandshake => "tls_handshake"
  | .timeout => "timeout"
  | .protocol => "protocol"
  | .other => "other"

/-- The word for what a request came to. -/
def outcome : Outcome → String
  | .ok answer => if answer.succeeded then "ok" else "failed"
  | .error (.couldNotConnect _ _) => "could_not_connect"
  | .error (.transport cause) => failure cause.kind
  | .error .emptyPool => "empty_pool"
  | .error (.malformedResponse _ _ _) => "malformed_response"
  | .error (.invalidServer _) => "invalid_server"
  | .error (.config _) => "config"
  | .error .shutdown => "shutdown"
  | .error (.io _) => "io"
  | .error (.json _) => "json"
  | .error .toml => "toml"
  | .error .yaml => "yaml"

/-- The word for what an iteration of discovery came to. -/
def iteration : Discovery.Result → String
  | .applied _ => "applied"
  | .unchanged => "unchanged"
  | .evicted _ => "evicted"
  | .bootstrap => "bootstrap"
  | .clientGone => "client_gone"

theorem method_eq (m : Method) : m.name = method m := by
  cases m <;> rfl

theorem failure_eq (kind : FailureKind) : kind.name = failure kind := by
  cases kind <;> rfl

theorem outcome_eq (o : Outcome) : Client.status o = outcome o := by
  rcases o with (_ | cause | _ | _ | _ | _ | _ | _ | _ | _ | _) | answer
  case error.transport => exact failure_eq cause.kind
  all_goals rfl

theorem iteration_eq (result : Discovery.Result) : result.name = iteration result := by
  cases result <;> rfl

end Counted

/-- The outcome of an iteration of discovery. -/
def Conclusion.run? (c : Conclusion) : Option String :=
  match c.result with
  | .request _ => none
  | .discovery _ result => some (Counted.iteration result)

namespace System

variable {s s' s₀ : System} {e : Event}

/-! ## What an event does for the books -/

/-- The replies that are taken with an event. -/
def receipts (s : System) (e : Event) : List Receipt :=
  (s.step e).received.take ((s.step e).received.length - s.received.length)

/-- The requests that are sent with an event. -/
def sent (s : System) (e : Event) : List Dispatch :=
  (s.step e).dispatched.take ((s.step e).dispatched.length - s.dispatched.length)

/-- The first attempts of logical requests. -/
def opened (s : System) (e : Event) : List Dispatch :=
  if e.isStart then s.sent e else []

/-- The failure after which another attempt of the same request is made. -/
def repeated (s : System) (e : Event) : List FailureKind :=
  match e with
  | .reply o (.error failure) => ((s.sent e).filter fun d => d.origin = o).map fun _ => failure.kind
  | _ => []

/-- With the event a request would start, and the client is shut down. -/
def refuses (s : System) (e : Event) : Bool := e.isStart && s.client.closed

/-- The method of the logical request that ends with an event, and what it came to, unless
the request is refused. -/
def settled (s : System) (e : Event) : List (Method × String) :=
  if s.refuses e then []
  else (s.endings e).filterMap fun c =>
    (s.work? c.origin).map fun work =>
      ((s.asked work).1.method, Counted.outcome c.result.outcome)

/-- The requests that are refused with an event. -/
def refused (s : System) (e : Event) : List Conclusion :=
  if s.refuses e then s.endings e else []

/-- What should be counted for an event. -/
def written (s : System) (e : Event) : Ledger :=
  ((s.endings e).filterMap Conclusion.run?).map Metric.discoveryRun ++
    (s.settled e).map (fun x => Metric.request x.1.name x.2) ++
    (s.repeated e).map (fun kind => Metric.retry kind.name) ++
    ((s.receipts e).filterMap Receipt.failure?).map fun x =>
      Metric.attemptFailure x.1.name x.2.base

/-- What a log has more than before stands in front. -/
theorem take_of_append {α : Type} {log log' added : List α} (h : log' = added ++ log) :
    log'.take (log'.length - log.length) = added := by
  rw [h, List.length_append, Nat.add_sub_cancel, List.take_left]

theorem receipts_of_eq (h : (s.step e).received = s.received) : s.receipts e = [] :=
  take_of_append h

theorem receipts_of_cons {r : Receipt} (h : (s.step e).received = r :: s.received) :
    s.receipts e = [r] :=
  take_of_append h

theorem sent_of_eq (h : (s.step e).dispatched = s.dispatched) : s.sent e = [] :=
  take_of_append h

theorem sent_of_cons {d : Dispatch} (h : (s.step e).dispatched = d :: s.dispatched) :
    s.sent e = [d] :=
  take_of_append h

theorem opened_of_eq (h : (s.step e).dispatched = s.dispatched) : s.opened e = [] := by
  rw [opened, sent_of_eq h, ite_self]

theorem repeated_of_eq (h : (s.step e).dispatched = s.dispatched) : s.repeated e = [] := by
  unfold repeated
  split
  · rw [sent_of_eq h]
    rfl
  · rfl

theorem repeated_of_cons {d : Dispatch} {failure : Failure}
    (hevent : e = .reply d.origin (.error failure))
    (h : (s.step e).dispatched = d :: s.dispatched) : s.repeated e = [failure.kind] := by
  subst hevent
  rw [repeated, sent_of_cons h, List.filter_singleton, decide_eq_true rfl]
  rfl

theorem repeated_of_isStart (h : e.isStart = true) : s.repeated e = [] := by
  unfold repeated
  split
  · cases h
  · rfl

theorem settled_of_eq (h : (s.step e).concluded = s.concluded) : s.settled e = [] := by
  rw [settled, endings_of_concluded h]
  exact ite_self _

theorem settled_of_cons {c : Conclusion} {work : Work}
    (h : (s.step e).concluded = c :: s.concluded) (hwork : s.work? c.origin = some work)
    (hopen : s.refuses e = false) :
    s.settled e = [((s.asked work).1.method, Counted.outcome c.result.outcome)] := by
  rw [settled, hopen, endings_of_concluded_cons h, List.filterMap_cons, hwork]
  rfl

theorem refused_of_eq (h : (s.step e).concluded = s.concluded) : s.refused e = [] := by
  rw [refused, endings_of_concluded h, ite_self]

theorem refused_of_open (hopen : s.refuses e = false) : s.refused e = [] := by
  rw [refused, hopen]
  rfl

theorem refuses_of_open (h : s.client.closed = false) : s.refuses e = false := by
  rw [refuses, h, Bool.and_false]

theorem refuses_of_reply {o : Origin} {reply : Reply} (h : e = .reply o reply) :
    s.refuses e = false := by
  rw [refuses, h]
  rfl

theorem refuses_of_closed (hstart : e.isStart = true) (hclosed : s.client.closed = true) :
    s.refuses e = true := by
  rw [refuses, hstart, hclosed, Bool.and_self]

theorem booked_eq (c : Conclusion) :
    c.result.booked = ([c].filterMap Conclusion.run?).map Metric.discoveryRun := by
  obtain ⟨o, result⟩ := c
  cases result with
  | request outcome => rfl
  | discovery outcome result =>
    show [Metric.discoveryRun result.name] = [Metric.discoveryRun (Counted.iteration result)]
    rw [Counted.iteration_eq]

theorem flight_booked_eq (o : Origin) (f : Flight) (reply : Reply) :
    f.booked reply = ([(⟨o, f.request, reply⟩ : Receipt)].filterMap Receipt.failure?).map fun x =>
      Metric.attemptFailure x.1.name x.2.base := by
  cases reply <;> rfl

/-- **Everything is counted** that an event does, and nothing else. -/
theorem Booking.counters_eq (h : s.Booking (s.step e) e) :
    (s.step e).counters = s.written e ++ s.counters := by
  unfold written
  -- In each case the logs say which of the four parts of `written` are empty.
  cases h with
  | nothing dispatched received concluded _ counters =>
    rw [counters, endings_of_concluded concluded, settled_of_eq concluded,
      repeated_of_eq dispatched, receipts_of_eq received]
    rfl
  | opens start _ received concluded _ counters =>
    rw [counters, endings_of_concluded concluded, settled_of_eq concluded,
      repeated_of_isStart start, receipts_of_eq received]
    rfl
  | refuses start closed dispatched received concluded _ counters =>
    have hsettled : s.settled e = [] := if_pos (refuses_of_closed start closed)
    rw [counters, endings_of_concluded_cons concluded, hsettled, repeated_of_eq dispatched,
      receipts_of_eq received, booked_eq]
    simp only [List.map_nil, List.filterMap_nil, List.append_nil]
  | unsent start opened purpose dispatched received concluded _ counters =>
    rw [counters, endings_of_concluded_cons concluded,
      settled_of_cons concluded purpose (refuses_of_open opened), repeated_of_eq dispatched,
      receipts_of_eq received, booked_eq, Counted.outcome_eq]
    simp
  | retries event dispatched received concluded _ counters =>
    rw [counters, endings_of_concluded concluded, settled_of_eq concluded,
      repeated_of_cons event dispatched, receipts_of_cons received]
    rfl
  | @ends c f reply work event purpose dispatched received concluded _ counters =>
    rw [counters, endings_of_concluded_cons concluded,
      settled_of_cons concluded purpose (refuses_of_reply event), repeated_of_eq dispatched,
      receipts_of_cons received, booked_eq, flight_booked_eq c.origin, Counted.outcome_eq]
    simp

theorem Booking.received_eq (h : s.Booking (s.step e) e) :
    (s.step e).received = s.receipts e ++ s.received := by
  cases h with
  | nothing _ received _ _ _ => rw [receipts_of_eq received, received]; rfl
  | opens _ _ received _ _ _ => rw [receipts_of_eq received, received]; rfl
  | refuses _ _ _ received _ _ _ => rw [receipts_of_eq received, received]; rfl
  | unsent _ _ _ _ received _ _ _ => rw [receipts_of_eq received, received]; rfl
  | retries _ _ received _ _ _ => rw [receipts_of_cons received, received]; rfl
  | ends _ _ _ received _ _ _ => rw [receipts_of_cons received, received]; rfl

theorem Booking.concluded_eq (h : s.Booking (s.step e) e) :
    (s.step e).concluded = s.endings e ++ s.concluded := by
  cases h with
  | nothing _ _ concluded _ _ => rw [endings_of_concluded concluded, concluded]; rfl
  | opens _ _ _ concluded _ _ => rw [endings_of_concluded concluded, concluded]; rfl
  | refuses _ _ _ _ concluded _ _ => rw [endings_of_concluded_cons concluded, concluded]; rfl
  | unsent _ _ _ _ _ concluded _ _ => rw [endings_of_concluded_cons concluded, concluded]; rfl
  | retries _ _ _ concluded _ _ => rw [endings_of_concluded concluded, concluded]; rfl
  | ends _ _ _ _ concluded _ _ => rw [endings_of_concluded_cons concluded, concluded]; rfl

/-- A request that ends is settled, or it was refused. -/
theorem Booking.endings_length (h : s.Booking (s.step e) e) :
    (s.endings e).length = (s.settled e).length + (s.refused e).length := by
  cases h with
  | nothing _ _ concluded _ _ =>
    rw [endings_of_concluded concluded, settled_of_eq concluded, refused_of_eq concluded]
    rfl
  | opens _ _ _ concluded _ _ =>
    rw [endings_of_concluded concluded, settled_of_eq concluded, refused_of_eq concluded]
    rfl
  | refuses start closed _ _ _ _ _ =>
    rw [settled, refused, if_pos (refuses_of_closed start closed),
      if_pos (refuses_of_closed start closed)]
    exact (Nat.zero_add _).symm
  | unsent _ opened purpose _ _ concluded _ _ =>
    rw [endings_of_concluded_cons concluded, settled_of_cons concluded purpose
      (refuses_of_open opened), refused_of_open (refuses_of_open opened)]
    rfl
  | retries _ _ _ concluded _ _ =>
    rw [endings_of_concluded concluded, settled_of_eq concluded, refused_of_eq concluded]
    rfl
  | ends event purpose _ _ concluded _ _ =>
    rw [endings_of_concluded_cons concluded, settled_of_cons concluded purpose
      (refuses_of_reply event), refused_of_open (refuses_of_reply event)]
    rfl

/-- Every request that is sent is the first attempt of its logical request, or another one. -/
theorem Booking.dispatched_length (h : s.Booking (s.step e) e) :
    (s.step e).dispatched.length =
      (s.opened e).length + (s.repeated e).length + s.dispatched.length := by
  cases h with
  | nothing dispatched _ _ _ _ =>
    rw [dispatched, opened_of_eq dispatched, repeated_of_eq dispatched]
    simp
  | opens start dispatched _ _ _ _ =>
    rw [System.opened, if_pos start, sent_of_cons dispatched, repeated_of_isStart start,
      dispatched, List.length_cons]
    exact Nat.add_comm _ _
  | refuses _ _ dispatched _ _ _ _ =>
    rw [dispatched, opened_of_eq dispatched, repeated_of_eq dispatched]
    simp
  | unsent _ _ _ dispatched _ _ _ _ =>
    rw [dispatched, opened_of_eq dispatched, repeated_of_eq dispatched]
    simp
  | retries event dispatched _ _ _ _ =>
    have hopened : s.opened e = [] := by rw [event]; rfl
    rw [hopened, repeated_of_cons event dispatched, dispatched, List.length_cons]
    exact Nat.add_comm _ _
  | ends _ _ dispatched _ _ _ _ =>
    rw [dispatched, opened_of_eq dispatched, repeated_of_eq dispatched]
    simp

/-- A request that was sent waits until its reply comes, or it is cancelled. -/
theorem Booking.unanswered_eq (h : s.Booking s' e) :
    s'.dispatched.length + (s.received.length + s.unanswered) =
      s.dispatched.length + (s'.received.length + s'.unanswered) := by
  cases h with
  | nothing dispatched received _ unanswered _ => rw [dispatched, received, unanswered]
  | opens _ dispatched received _ unanswered _ =>
    rw [dispatched, received, unanswered, List.length_cons]
    omega
  | refuses _ _ dispatched received _ unanswered _ => rw [dispatched, received, unanswered]
  | unsent _ _ _ dispatched received _ unanswered _ => rw [dispatched, received, unanswered]
  | retries _ dispatched received _ unanswered _ =>
    rw [dispatched, received, unanswered, List.length_cons, List.length_cons]
    omega
  | ends _ _ dispatched received _ unanswered _ =>
    rw [dispatched, received, List.length_cons]
    omega

/-! ## What a run does for the books -/

variable {α β : Type}

/-- What the events of a run come to, the last one first. -/
def collect (g : System → Event → List α) (s : System) : List Event → List α
  | [] => []
  | e :: events => collect g (s.step e) events ++ g s e

theorem collect_concat (g : System → Event → List α) (events : List Event) (e : Event) :
    ∀ s : System, s.collect g (events ++ [e]) = g (s.run events) e ++ s.collect g events := by
  induction events with
  | nil => intro s; simp [collect]
  | cons e' events ih =>
    intro s
    rw [List.cons_append, collect, collect, ih, run_cons, List.append_assoc]

/-- A log that is empty at first holds what the events have put in front of it. -/
theorem collect_eq {q : System → List α} {g : System → Event → List α} (hstart : q s₀ = [])
    (hstep : ∀ events e, q ((s₀.run events).step e) = g (s₀.run events) e ++ q (s₀.run events))
    (events : List Event) : q (s₀.run events) = s₀.collect g events := by
  induction events using List.reverseRecOn with
  | nil => exact hstart
  | append_singleton events e ih => rw [run_concat, collect_concat, hstep, ih]

/-- A number that is zero at first is as many as two kinds of things that the events have come
to. -/
theorem length_collect {q : System → Nat} {g : System → Event → List α}
    {h : System → Event → List β} (hstart : q s₀ = 0)
    (hstep : ∀ events e, q ((s₀.run events).step e) =
      (g (s₀.run events) e).length + (h (s₀.run events) e).length + q (s₀.run events))
    (events : List Event) :
    q (s₀.run events) = (s₀.collect g events).length + (s₀.collect h events).length := by
  induction events using List.reverseRecOn with
  | nil => exact hstart
  | append_singleton events e ih =>
    rw [run_concat, collect_concat, collect_concat, hstep, ih, List.length_append,
      List.length_append]
    omega

/-- What is so for each event is so for the run. -/
theorem countP_collect {g : System → Event → List α} {h : System → Event → List β} {p : α → Bool}
    {q : β → Bool} (hp : ∀ s e, (g s e).countP p = (h s e).countP q) (events : List Event) :
    ∀ s : System, (s.collect g events).countP p = (s.collect h events).countP q := by
  induction events with
  | nil => intro s; rfl
  | cons e events ih =>
    intro s
    rw [collect, collect, List.countP_append, List.countP_append, ih, hp]

theorem forall_mem_collect {g : System → Event → List α} {p : α → Prop}
    (hp : ∀ s e, ∀ x ∈ g s e, p x) (events : List Event) :
    ∀ s : System, ∀ x ∈ s.collect g events, p x := by
  induction events with
  | nil => intro s x hx; cases hx
  | cons e events ih =>
    intro s x hx
    rcases List.mem_append.1 hx with hx | hx
    · exact ih _ x hx
    · exact hp s e x hx

/-! ## One family of counters after the other -/

theorem countP_written (p : Metric → Bool) (s : System) (e : Event) : (s.written e).countP p =
    ((s.endings e).filterMap Conclusion.run?).countP (fun outcome => p (.discoveryRun outcome)) +
    (s.settled e).countP (fun x => p (.request x.1.name x.2)) +
    (s.repeated e).countP (fun kind => p (.retry kind.name)) +
    ((s.receipts e).filterMap Receipt.failure?).countP fun x =>
      p (.attemptFailure x.1.name x.2.base) := by
  simp only [written, List.countP_append, List.countP_map]
  rfl

theorem kind_name_inj {kind kind' : FailureKind} : kind.name = kind'.name ↔ kind = kind' := by
  constructor
  · intro h
    have hname := kind'.ofName?_name
    rw [← h, kind.ofName?_name] at hname
    exact Option.some.inj hname
  · exact congrArg _

theorem method_name_inj {method method' : Method} :
    method.name = method'.name ↔ method = method' := by
  constructor
  · intro h
    have hname := method'.ofExactName?_name
    rw [← h, method.ofExactName?_name] at hname
    exact Option.some.inj hname
  · exact congrArg _

theorem server_base_inj {server server' : Server} :
    server.base = server'.base ↔ server = server' := by
  obtain ⟨base⟩ := server
  obtain ⟨base'⟩ := server'
  simp

theorem count_written_discoveryRun (s : System) (e : Event) (outcome : String) :
    (s.written e).count (.discoveryRun outcome) =
      ((s.endings e).filterMap Conclusion.run?).count outcome := by
  rw [List.count, countP_written]
  simp [List.count, beq_eq_decide]

theorem count_written_request (s : System) (e : Event) (method : Method) (status : String) :
    (s.written e).count (.request method.name status) = (s.settled e).count (method, status) := by
  rw [List.count, countP_written]
  simp [List.count, beq_eq_decide, method_name_inj, Prod.ext_iff]

theorem count_written_retry (s : System) (e : Event) (kind : FailureKind) :
    (s.written e).count (.retry kind.name) = (s.repeated e).count kind := by
  rw [List.count, countP_written]
  simp [List.count, beq_eq_decide, kind_name_inj]

theorem count_written_attemptFailure (s : System) (e : Event) (kind : FailureKind)
    (server : Server) : (s.written e).count (.attemptFailure kind.name server.base) =
      ((s.receipts e).filterMap Receipt.failure?).count (kind, server) := by
  rw [List.count, countP_written]
  simp [List.count, beq_eq_decide, kind_name_inj, server_base_inj, Prod.ext_iff]

theorem countP_written_family (s : System) (e : Event) (family : Metric.Family) :
    (s.written e).countP (fun m => m.family = family) =
      match family with
      | .requests => (s.settled e).length
      | .attemptFailures => ((s.receipts e).filterMap Receipt.failure?).length
      | .retries => (s.repeated e).length
      | .discoveryRuns => ((s.endings e).filterMap Conclusion.run?).length
      | .poolSize => 0 := by
  rw [countP_written]
  cases family <;> simp

/-! ## The accounts -/

/-- The accounts of a run that has led to a state with this ledger. -/
structure Accounts (s₀ : System) (events : List Event) (s : System) (l : Ledger) : Prop where
  /-- Every request that was sent is the first attempt of a logical request, or it was counted
  as a retry. -/
  dispatched : s.dispatched.length =
    (s₀.collect opened events).length + l.sumOf "trellis_retries_total"
  /-- It has failed, and that was counted, or a response was delivered, or it waits, or it was
  cancelled. -/
  resolved : s.dispatched.length = l.sumOf "trellis_attempt_failures_total" +
    s.received.countP Receipt.isDelivered + s.inFlight + s.abandoned.length
  /-- Each failure was counted under its kind and its server. -/
  failures : ∀ (kind : FailureKind) (server : Server),
    l.value "trellis_attempt_failures_total"
        [("kind", Counted.failure kind), ("server", server.base)] =
      (s.received.filterMap Receipt.failure?).count (kind, server)
  /-- Each retry was counted under the kind of the failure before it. -/
  retries : ∀ kind : FailureKind,
    l.value "trellis_retries_total" [("kind", Counted.failure kind)] =
      (s₀.collect repeated events).count kind
  /-- Each logical request that has ended was counted once, or it was refused. -/
  ended : s.concluded.length =
    l.sumOf "trellis_requests_total" + (s₀.collect refused events).length
  /-- It was counted under its method and what it came to. -/
  requests : ∀ (method : Method) (status : String),
    l.value "trellis_requests_total" [("method", Counted.method method), ("status", status)] =
      (s₀.collect settled events).count (method, status)
  settled : l.sumOf "trellis_requests_total" = (s₀.collect settled events).length
  /-- Each iteration that has ended was counted once, under its outcome. -/
  runs : ∀ outcome : String, l.value "trellis_discovery_runs_total" [("outcome", outcome)] =
    (s.concluded.filterMap Conclusion.run?).count outcome
  iterations : l.sumOf "trellis_discovery_runs_total" =
    (s.concluded.filterMap Conclusion.run?).length

theorem total_eq (s : System) {m : Metric} (h : m.family ≠ .poolSize) :
    s.client.roster.ledger.total m = s.counters.count m := by
  rw [Ledger.total, counters, Ledger.counters, List.count_filter (by simpa using h)]

theorem sumOf_counters (s : System) {family : Metric.Family} (h : family ≠ .poolSize) :
    s.client.roster.ledger.sumOf family.name = s.counters.countP fun m => m.family = family := by
  rw [Ledger.sumOf_name _ h, counters, Ledger.counters, List.countP_filter]
  congr 1
  funext m
  by_cases hm : m.family = family <;> simp [hm, h]

theorem length_received (received : List Receipt) : received.length =
    (received.filterMap Receipt.failure?).length + received.countP Receipt.isDelivered := by
  induction received with
  | nil => rfl
  | cons r received ih =>
    rw [List.countP_cons, List.filterMap_cons, List.length_cons, ih, Receipt.isDelivered]
    cases r.failure? <;> simp <;> omega

/-- Every event of a run of a client writes what it should. -/
theorem booking_run {setup : Client.Setup} (h : Client.build setup = .ok s₀)
    (events : List Event) (e : Event) :
    (s₀.run events).Booking ((s₀.run events).step e) e := by
  refine booking (run_stocked events (Client.build_stocked h)).members (fun o work f hp => ?_) e
  rw [(kept_run events s₀).asked]
  exact Encoded.ofAction_method (encoded_of_pending h hp)

/-- The books of a client are empty when it is built. -/
theorem books_of_build {setup : Client.Setup} (h : Client.build setup = .ok s₀) :
    s₀.dispatched = [] ∧ s₀.received = [] ∧ s₀.concluded = [] ∧ s₀.counters = [] ∧
      s₀.unanswered = 0 := by
  obtain ⟨_, _, _, -, -, -, rfl⟩ := Client.build_eq_ok h
  refine ⟨rfl, rfl, rfl, rfl, ?_⟩
  show 0 + (Background.flight? (if _ then _ else _)).toList.length + 0 = 0
  split <;> rfl

/-- Every request that was sent was answered, or it waits, or it was cancelled. -/
theorem answered_run {setup : Client.Setup} (h : Client.build setup = .ok s₀)
    (events : List Event) : (s₀.run events).dispatched.length =
      (s₀.run events).received.length + (s₀.run events).unanswered := by
  induction events using List.reverseRecOn with
  | nil =>
    obtain ⟨hdispatched, hreceived, -, -, hunanswered⟩ := books_of_build h
    rw [run_nil, hdispatched, hreceived, hunanswered]
    rfl
  | append_singleton events e ih =>
    have hstep := (booking_run h events e).unanswered_eq
    rw [run_concat]
    omega

/-- A run has counted what its events should write. -/
theorem counters_run {setup : Client.Setup} (h : Client.build setup = .ok s₀)
    (events : List Event) : (s₀.run events).counters = s₀.collect written events := by
  obtain ⟨-, -, -, hcounters, -⟩ := books_of_build h
  exact collect_eq hcounters (fun events e => (booking_run h events e).counters_eq) events

theorem method_plain (method : Method) : ',' ∉ method.name.toList := by
  cases method <;> decide

theorem kind_plain (kind : FailureKind) : ',' ∉ kind.name.toList := by
  cases kind <;> decide

theorem written_plain (s : System) (e : Event) : ∀ m ∈ s.written e, m.Plain := by
  intro m hm
  simp only [written, List.mem_append, List.mem_map] at hm
  rcases hm with ((⟨_, -, rfl⟩ | ⟨x, -, rfl⟩) | ⟨_, -, rfl⟩) | ⟨x, -, rfl⟩
  · trivial
  · exact method_plain x.1
  · trivial
  · exact kind_plain x.1

/-- The labels of all that a run has counted can be read off. -/
theorem plain_run {setup : Client.Setup} (h : Client.build setup = .ok s₀)
    (events : List Event) : ∀ m ∈ (s₀.run events).client.roster.ledger, m.Plain := by
  intro m hm
  by_cases hpool : m.family = .poolSize
  · cases m with
    | poolSize n => trivial
    | _ => cases hpool
  · have hcounted : m ∈ (s₀.run events).counters := List.mem_filter.2 ⟨hm, by simpa using hpool⟩
    rw [counters_run h] at hcounted
    exact forall_mem_collect written_plain events s₀ m hcounted

/-- A counter shows the number of the things that write it. -/
theorem value_run {setup : Client.Setup} (h : Client.build setup = .ok s₀) (events : List Event)
    [BEq α] {g : System → Event → List α} (m : Metric) {x : α} (hm : m.Plain)
    (hcounter : m.family ≠ .poolSize) (hg : ∀ s e, (written s e).count m = (g s e).count x) :
    (s₀.run events).client.roster.ledger.value m.family.name m.labels =
      (s₀.collect g events).count x := by
  rw [Ledger.value_eq_total (plain_run h events) hm hcounter, total_eq _ hcounter,
    counters_run h]
  exact countP_collect hg events s₀

/-- A family shows the number of the things that write it. -/
theorem sumOf_run {setup : Client.Setup} (h : Client.build setup = .ok s₀) (events : List Event)
    {g : System → Event → List α} (family : Metric.Family) (hfamily : family ≠ .poolSize)
    (hg : ∀ s e, (written s e).countP (fun m => m.family = family) = (g s e).length) :
    (s₀.run events).client.roster.ledger.sumOf family.name = (s₀.collect g events).length := by
  rw [sumOf_counters _ hfamily, counters_run h, ← List.countP_true]
  exact countP_collect (fun s e => (hg s e).trans (congrFun List.countP_true.symm _)) events s₀

theorem received_run {setup : Client.Setup} (h : Client.build setup = .ok s₀)
    (events : List Event) : (s₀.run events).received.filterMap Receipt.failure? =
      s₀.collect (fun s e => (s.receipts e).filterMap Receipt.failure?) events := by
  obtain ⟨-, hreceived, -, -, -⟩ := books_of_build h
  refine collect_eq (q := fun s => s.received.filterMap Receipt.failure?) ?_ ?_ events
  · simp only [hreceived, List.filterMap_nil]
  · intro events e
    simp only [(booking_run h events e).received_eq, List.filterMap_append]

theorem concluded_run {setup : Client.Setup} (h : Client.build setup = .ok s₀)
    (events : List Event) : (s₀.run events).concluded.filterMap Conclusion.run? =
      s₀.collect (fun s e => (s.endings e).filterMap Conclusion.run?) events := by
  obtain ⟨-, -, hconcluded, -, -⟩ := books_of_build h
  refine collect_eq (q := fun s => s.concluded.filterMap Conclusion.run?) ?_ ?_ events
  · simp only [hconcluded, List.filterMap_nil]
  · intro events e
    simp only [(booking_run h events e).concluded_eq, List.filterMap_append]

/-- **The metrics account for every attempt.** In every state that a client can come to, with
requests, iterations and shutdowns in any order, the totals that its report shows are the
numbers of what was done: of the attempts, how they came about and what became of them, and of the
logical requests and the iterations that have ended. -/
theorem run_accounted {setup : Client.Setup} (h : Client.build setup = .ok s₀)
    (events : List Event) :
    Accounts s₀ events (s₀.run events) (s₀.run events).client.roster.ledger := by
  obtain ⟨hdispatched, -, hconcluded, -, -⟩ := books_of_build h
  have hbooking := booking_run h
  have hretries := sumOf_run h events .retries (by simp) fun s e =>
    countP_written_family s e .retries
  have hfailures := sumOf_run h events .attemptFailures (by simp) fun s e =>
    countP_written_family s e .attemptFailures
  have hrequests := sumOf_run h events .requests (by simp) fun s e =>
    countP_written_family s e .requests
  have hruns := sumOf_run h events .discoveryRuns (by simp) fun s e =>
    countP_written_family s e .discoveryRuns
  constructor
  case dispatched =>
    refine .trans ?_ (congrArg _ hretries.symm)
    refine length_collect (q := fun s => s.dispatched.length) ?_ ?_ events
    · simp only [hdispatched, List.length_nil]
    · exact fun events e => (hbooking events e).dispatched_length
  case resolved =>
    -- What was answered has failed or was delivered; the rest waits or was cancelled.
    have hreceived := length_received (s₀.run events).received
    have hanswered := answered_run h events
    rw [received_run h, ← hfailures] at hreceived
    rw [unanswered] at hanswered
    simp only [Metric.Family.name] at hreceived
    omega
  case failures =>
    intro kind server
    rw [received_run h, ← Counted.failure_eq]
    exact value_run h events (.attemptFailure kind.name server.base) (kind_plain kind) (by simp)
      fun s e => count_written_attemptFailure s e kind server
  case retries =>
    intro kind
    rw [← Counted.failure_eq]
    exact value_run h events (.retry kind.name) trivial (by simp)
      fun s e => count_written_retry s e kind
  case ended =>
    -- The books and the log grow by the same event, so they are compared event by event.
    refine .trans ?_ (congrArg (· + _) hrequests.symm)
    refine length_collect (q := fun s => s.concluded.length) ?_ (fun events e => ?_) events
    · simp only [hconcluded, List.length_nil]
    · simp only [(hbooking events e).concluded_eq, List.length_append,
        (hbooking events e).endings_length]
  case requests =>
    intro method status
    rw [← Counted.method_eq]
    exact value_run h events (.request method.name status) (method_plain method) (by simp)
      fun s e => count_written_request s e method status
  case settled => exact hrequests
  case runs =>
    intro outcome
    rw [concluded_run h]
    exact value_run h events (.discoveryRun outcome) trivial (by simp)
      fun s e => count_written_discoveryRun s e outcome
  case iterations =>
    rw [concluded_run h]
    exact hruns

/-- One request fails at both servers, one is answered, and one is answered with a status that
tells of a failure. An iteration of discovery finds nothing new, the next one is refused by a
server and waits for the other when the client is shut down, and one comes too late. -/
theorem run_accounted_cancelled :
    let refused : Reply := .error ⟨.connectRefused, "http://[::1]:9200/", "refused"⟩
    let events : List Event :=
      [.launch (.request ping {}), .begin 0, .reply (.task 0) refused, .wake,
        .reply (.task 0) refused, .launch (.request ping {}), .begin 1, .reply (.task 1) (.ok {}),
        .launch (.request ping {}), .begin 2, .reply (.task 2) (.ok { status := 500 }),
        .reply .background (.ok {}), .wake, .reply .background refused, .shutdown, .stop,
        .launch .discovery, .begin 3]
    ∃ s₀, Client.build
        { config := (Config.withServers ["[::1]:9200", "http://[::2]:9200"]).withDiscovery 0 10000
          retry := some (Retry.upTo 2 FailureKind.usuallyRecoverable).toPolicy } = .ok s₀ ∧
      (s₀.run events).dispatched.length = 7 ∧ (s₀.run events).abandoned.length = 1 ∧
      (s₀.run events).concluded.length = 5 ∧
      let l := (s₀.run events).client.roster.ledger
      Accounts s₀ events (s₀.run events) l ∧
        l.value "trellis_requests_total" [("method", "GET"), ("status", "ok")] = 2 ∧
        l.value "trellis_requests_total" [("method", "GET"), ("status", "failed")] = 1 ∧
        l.value "trellis_requests_total" [("method", "GET"), ("status", "could_not_connect")] = 1 ∧
        l.value "trellis_attempt_failures_total"
          [("kind", "connect_refused"), ("server", "http://[::2]:9200")] = 2 ∧
        l.value "trellis_retries_total" [("kind", "connect_refused")] = 2 ∧
        l.value "trellis_discovery_runs_total" [("outcome", "unchanged")] = 1 ∧
        l.value "trellis_discovery_runs_total" [("outcome", "client_gone")] = 1 := by
  intro refused events
  obtain ⟨s₀, hbuild⟩ : ∃ s₀, Client.build
      { config := (Config.withServers ["[::1]:9200", "http://[::2]:9200"]).withDiscovery 0 10000
        retry := some (Retry.upTo 2 FailureKind.usuallyRecoverable).toPolicy } = .ok s₀ :=
    ⟨_, rfl⟩
  have hlogs : (s₀.run events).dispatched.length = 7 ∧ (s₀.run events).abandoned.length = 1 ∧
      (s₀.run events).concluded.length = 5 := by
    cases hbuild
    decide +kernel
  have hsettled : (s₀.collect settled events).count (.get, "ok") = 2 ∧
      (s₀.collect settled events).count (.get, "failed") = 1 ∧
      (s₀.collect settled events).count (.get, "could_not_connect") = 1 := by
    cases hbuild
    decide +kernel
  have hfailed : ((s₀.run events).received.filterMap Receipt.failure?).count
      (.connectRefused, ⟨"http://[::2]:9200"⟩) = 2 := by
    cases hbuild
    decide +kernel
  have hrepeated : (s₀.collect repeated events).count .connectRefused = 2 := by
    cases hbuild
    decide +kernel
  have hruns : ((s₀.run events).concluded.filterMap Conclusion.run?).count "unchanged" = 1 ∧
      ((s₀.run events).concluded.filterMap Conclusion.run?).count "client_gone" = 1 := by
    cases hbuild
    decide +kernel
  have haccounts := run_accounted hbuild events
  exact ⟨s₀, hbuild, hlogs.1, hlogs.2.1, hlogs.2.2, haccounts,
    (haccounts.requests .get "ok").trans hsettled.1,
    (haccounts.requests .get "failed").trans hsettled.2.1,
    (haccounts.requests .get "could_not_connect").trans hsettled.2.2,
    (haccounts.failures .connectRefused ⟨"http://[::2]:9200"⟩).trans hfailed,
    (haccounts.retries .connectRefused).trans hrepeated,
    (haccounts.runs "unchanged").trans hruns.1, (haccounts.runs "client_gone").trans hruns.2⟩

end System

end Failover
