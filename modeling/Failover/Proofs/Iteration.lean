import Failover.Proofs.Isolation

/-!
# What an iteration of discovery does to the pool

An iteration asks its question like any other request. As long as an attempt follows
another all that happens to the pool is that the turn moves on; with the end of the
request the pool follows the outcome, once. `Discovery.Effect` says which outcome makes
which result, and what becomes of the membership then, whatever others have made of it
while the iteration was waiting.

Two facts come from the course of the request (`Proofs.Isolation`). The outcome of the
question is what the reader of answers makes of a response, so that an answer succeeded
exactly if its status says so. And the server that an error names is the one that the
last request was sent to, since it is read off the attempt that was waiting.
-/

namespace Failover

namespace Discovery

/-! ## The effect -/

/-- The status of an answer is one of those that say that all went well. -/
def HasGoodStatus (answer : Answer) : Prop := 200 ≤ answer.status ∧ answer.status < 300

/-- What becomes of a pool by a result. -/
def Result.poolAfter (pool : Pool) : Result → Pool
  | .applied found => { pool with members := found, cursor := 0 }
  | .unchanged => pool
  | .evicted server =>
    let remaining := pool.members.filter (· ≠ server)
    if server ∈ pool.members then
      { pool with members := if remaining = [] then pool.bootstrap else remaining, cursor := 0 }
    else pool
  | .bootstrap => { pool with members := pool.bootstrap, cursor := 0 }
  | .clientGone => pool

/-- The result of an iteration whose request came to this outcome, with its last attempt
at the server `last`, and what becomes of the pool. -/
structure Effect (scheme : String) (last : Option Server) (pool pool' : Pool)
    (outcome : Outcome) (result : Result) : Prop where
  applied : ∀ found, result = .applied found ↔
    ∃ answer, outcome = .ok answer ∧ HasGoodStatus answer ∧
      servers answer.json scheme = found ∧ found ≠ []
  unchanged : result = .unchanged ↔
    ∃ answer, outcome = .ok answer ∧ HasGoodStatus answer ∧ servers answer.json scheme = []
  evicted : ∀ server, result = .evicted server ↔
    ∃ failure, outcome = .error (.couldNotConnect server failure)
  evictedLast : ∀ server, result = .evicted server → last = some server
  bootstrap : result = .bootstrap ↔
    (∃ answer, outcome = .ok answer ∧ ¬HasGoodStatus answer) ∨
      ∃ err, outcome = .error err ∧ err ≠ .shutdown ∧
        ∀ server failure, err ≠ .couldNotConnect server failure
  clientGone : result = .clientGone ↔ outcome = .error .shutdown
  pool_eq : pool' = result.poolAfter pool

/-- The servers that an answer describes are each described once. -/
theorem servers_nodup (answer : Json.Value) (scheme : String) : (servers answer scheme).Nodup :=
  Server.distinct_nodup _

theorem evicted_pool (r : Roster) (server : Server) :
    (r.evict server).2.pool = (Result.evicted server).poolAfter r.pool := by
  unfold Roster.evict
  by_cases hm : server ∈ r.pool.members
  · rw [if_pos hm]
    show r.pool.evict server = if server ∈ r.pool.members then _ else r.pool
    rw [if_pos hm, Pool.evict_eq]
  · rw [if_neg hm]
    show r.pool = if server ∈ r.pool.members then _ else r.pool
    rw [if_neg hm]

/-- A result that was read off an outcome moves the pool to where it should be. The
deduplication of a pool has nothing to do then. -/
theorem Result.apply_pool (scheme : String) (outcome : Outcome) (r : Roster) :
    ((Result.of scheme outcome).apply r).pool = (Result.of scheme outcome).poolAfter r.pool := by
  cases outcome with
  | error err =>
    cases err with
    | couldNotConnect server failure => exact evicted_pool r server
    | _ => rfl
  | ok answer =>
    unfold Result.of
    by_cases hok : answer.succeeded = true
    · simp only [hok, if_true]
      cases hfound : servers answer.json scheme with
      | nil => rfl
      | cons server more =>
        have hnodup : (server :: more).Nodup := hfound ▸ servers_nodup answer.json scheme
        exact Pool.replace_of_nodup hnodup (List.cons_ne_nil _ _) r.pool
    · simp only [hok]
      rfl

/-! ## Results and outcomes -/

namespace Result

variable {scheme : String} {outcome : Outcome}

theorem of_answer (scheme : String) (answer : Answer) :
    Result.of scheme (.ok answer) =
      if answer.succeeded then
        if servers answer.json scheme = [] then .unchanged
        else .applied (servers answer.json scheme)
      else .bootstrap := by
  unfold Result.of
  by_cases hok : answer.succeeded = true
  · simp only [hok, if_true]
    cases servers answer.json scheme <;> rfl
  · simp only [hok]
    rfl

theorem of_eq_applied {found : List Server} :
    Result.of scheme outcome = .applied found ↔
      ∃ answer, outcome = .ok answer ∧ answer.succeeded = true ∧
        servers answer.json scheme = found ∧ found ≠ [] := by
  cases outcome with
  | error err => cases err <;> simp [Result.of]
  | ok answer =>
    rw [of_answer]
    constructor
    · intro h
      split at h
      next hok =>
        split at h
        · cases h
        next hne =>
          cases h
          exact ⟨answer, rfl, hok, rfl, hne⟩
      · cases h
    · rintro ⟨_, ⟨⟩, hok, rfl, hne⟩
      rw [if_pos hok, if_neg hne]

theorem of_eq_unchanged :
    Result.of scheme outcome = .unchanged ↔
      ∃ answer, outcome = .ok answer ∧ answer.succeeded = true ∧
        servers answer.json scheme = [] := by
  cases outcome with
  | error err => cases err <;> simp [Result.of]
  | ok answer =>
    rw [of_answer]
    constructor
    · intro h
      split at h
      next hok =>
        split at h
        next hnil => exact ⟨answer, rfl, hok, hnil⟩
        · cases h
      · cases h
    · rintro ⟨_, ⟨⟩, hok, hnil⟩
      rw [if_pos hok, if_pos hnil]

theorem of_eq_evicted {server : Server} :
    Result.of scheme outcome = .evicted server ↔
      ∃ failure, outcome = .error (.couldNotConnect server failure) := by
  cases outcome with
  | error err => cases err <;> simp [Result.of]
  | ok answer =>
    rw [of_answer]
    split
    · split <;> simp
    · simp

theorem of_eq_bootstrap :
    Result.of scheme outcome = .bootstrap ↔
      (∃ answer, outcome = .ok answer ∧ ¬answer.succeeded = true) ∨
        ∃ err, outcome = .error err ∧ err ≠ .shutdown ∧
          ∀ server failure, err ≠ .couldNotConnect server failure := by
  cases outcome with
  | error err => cases err <;> simp [Result.of]
  | ok answer =>
    rw [of_answer]
    constructor
    · intro h
      split at h
      · split at h <;> cases h
      next hbad => exact Or.inl ⟨answer, rfl, hbad⟩
    · rintro (⟨_, ⟨⟩, hbad⟩ | ⟨_, ⟨⟩, -⟩)
      rw [if_neg hbad]

theorem of_eq_clientGone :
    Result.of scheme outcome = .clientGone ↔ outcome = .error .shutdown := by
  cases outcome with
  | error err => cases err <;> simp [Result.of]
  | ok answer =>
    rw [of_answer]
    split
    · split <;> simp
    · simp

end Result

/-- Every outcome has the effect that it should have, if an answer succeeded exactly
when its status is a good one, and an error names the last server. -/
theorem effect_of {scheme : String} {last : Option Server} {outcome : Outcome}
    (hstatus : ∀ answer, outcome = .ok answer → (answer.succeeded = true ↔ HasGoodStatus answer))
    (hlast : ∀ server failure, outcome = .error (.couldNotConnect server failure) →
      last = some server) (r : Roster) :
    Effect scheme last r.pool ((Result.of scheme outcome).apply r).pool outcome
      (.of scheme outcome) where
  applied found := by
    rw [Result.of_eq_applied]
    exact exists_congr fun answer => and_congr_right fun h => by rw [hstatus answer h]
  unchanged := by
    rw [Result.of_eq_unchanged]
    exact exists_congr fun answer => and_congr_right fun h => by rw [hstatus answer h]
  evicted _ := Result.of_eq_evicted
  evictedLast server h := by
    obtain ⟨failure, hfailure⟩ := Result.of_eq_evicted.1 h
    exact hlast server failure hfailure
  bootstrap := by
    rw [Result.of_eq_bootstrap]
    exact or_congr_left
      (exists_congr fun answer => and_congr_right fun h => by rw [hstatus answer h])
  clientGone := Result.of_eq_clientGone
  pool_eq := Result.apply_pool scheme outcome r

end Discovery

/-! ## The outcome of the question -/

theorem Answer.ofResponse_eq_ok {r : Response} {url : String} {answer : Answer}
    (h : Answer.ofResponse r url = .ok answer) :
    answer.status = r.status ∧ answer.succeeded = r.isSuccess := by
  unfold ofResponse at h
  split at h
  · cases h
  · cases h
    exact ⟨rfl, rfl⟩

theorem Answer.ofResponse_ne_couldNotConnect {r : Response} {url : String} {server : Server}
    {failure : Failure} : Answer.ofResponse r url ≠ .error (.couldNotConnect server failure) := by
  intro h
  obtain ⟨_, _, he⟩ := ofResponse_eq_error h
  cases he

namespace Flight

variable {f : Flight} {reply : Reply}

/-- An answer to a question that is read in the usual way succeeded exactly if its
status says so. -/
theorem outcome_status (hf : f.interpret = Answer.ofResponse) (answer : Answer)
    (h : f.outcome reply = .ok answer) :
    answer.succeeded = true ↔ Discovery.HasGoodStatus answer := by
  cases reply with
  | error failure => cases h
  | ok response =>
    have hr : Answer.ofResponse response f.request.url = .ok answer := hf ▸ h
    obtain ⟨hstatus, hok⟩ := Answer.ofResponse_eq_ok hr
    rw [Discovery.HasGoodStatus, hok, hstatus, Response.isSuccess, Bool.and_eq_true,
      decide_eq_true_eq, decide_eq_true_eq]

/-- A server that could not be connected to is the one of the attempt. -/
theorem outcome_server (hf : f.interpret = Answer.ofResponse) (server : Server)
    (failure : Failure) (h : f.outcome reply = .error (.couldNotConnect server failure)) :
    f.server = server := by
  cases reply with
  | error cause =>
    simp only [outcome, Client.failureError] at h
    split at h
    · cases h; rfl
    · cases h
  | ok response =>
    have hr : Answer.ofResponse response f.request.url =
        .error (.couldNotConnect server failure) := hf ▸ h
    exact absurd hr Answer.ofResponse_ne_couldNotConnect

end Flight

/-! ## One step of an iteration -/

namespace System

/-- How far an event brings the request of the origin that it goes on with, if it goes
on with one. -/
def progress? (s : System) : Event → Option Progress
  | .reply o reply => (s.pending? o).map fun wf => (s.client.resume wf.2 reply).2
  | e => e.actor?.bind fun o =>
    (s.ready? o).map fun work => (s.client.start (s.asked work).1 (s.asked work).2).2

theorem progress?_start (s : System) (o : Origin) :
    s.progress? o.start =
      (s.ready? o).map fun work => (s.client.start (s.asked work).1 (s.asked work).2).2 := by
  cases o <;> rfl

/-- What an event of its own does in an iteration. It is of no use to it, or it makes
the next attempt, at the server whose turn it is, or it ends the request, and the pool
follows the outcome. -/
def IterationStep (s : System) (o : Origin) (e : Event) : Prop :=
  match s.progress? e with
  | none => s.step e = s
  | some (.waiting f) =>
    s.client.roster.pool.turn? 0 = some f.server ∧
    (s.step e).client.roster.pool = s.client.roster.pool.advance ∧
    ((s.step e).history o).sent = (s.history o).sent ++ [f.request] ∧
    ((s.step e).history o).concluded = (s.history o).concluded ∧
    (s.step e).pending? o = some (.discovery, f)
  | some (.ended outcome) =>
    ∃ result, (s.step e).pending? o = none ∧
      ((s.step e).history o).sent = (s.history o).sent ∧
      ((s.step e).history o).concluded =
        (s.history o).concluded ++ [.discovery outcome result] ∧
      Discovery.Effect s.scheme ((s.history o).sent.getLast?.map Request.server)
        s.client.roster.pool (s.step e).client.roster.pool outcome result

variable {s₁ s s₂ : System} {o : Origin} {e : Event} {own : History}

theorem iterationStep_of_none (hp : s.progress? e = none) (he : s.step e = s) :
    s.IterationStep o e := by
  unfold IterationStep
  rw [hp]
  exact he

/-- A step after which an attempt waits. In `s₂` the reply was noted, if there was
one. -/
theorem iterationStep_of_waiting {c : Client} {f : Flight} (hp : s.progress? e = some (.waiting f))
    (he : s.step e = s₂.advance o .discovery c (.waiting f))
    (hturn : s.client.roster.pool.turn? 0 = some f.server)
    (hstep : s.client.Stepped c s.client.roster.pool.advance) {stage : Stage}
    (htask : s₂.task? o = some ⟨.discovery, stage⟩)
    (hsent : (s₂.history o).sent = (s.history o).sent)
    (hconcluded : (s₂.history o).concluded = (s.history o).concluded) :
    s.IterationStep o e := by
  unfold IterationStep
  rw [hp]
  refine ⟨hturn, ?_, ?_, ?_, ?_⟩
  · rw [he, advance_waiting_client, hstep.pool_eq]
  · rw [he, history_advance_waiting, History.append_sent, hsent]
  · rw [he, history_advance_waiting, History.append_concluded, hconcluded]
    exact List.append_nil _
  · rw [he, pending?_eq_some]
    exact task?_advance_waiting htask _ _ _

/-- A step that ends the request. -/
theorem iterationStep_of_ended {c : Client} {outcome : Outcome}
    (hp : s.progress? e = some (.ended outcome))
    (he : s.step e = s₂.advance o .discovery c (.ended outcome))
    (hscheme : s₂.scheme = s.scheme) (hstep : s.client.Stepped c s.client.roster.pool)
    {stage : Stage} (htask : s₂.task? o = some ⟨.discovery, stage⟩)
    (hsent : (s₂.history o).sent = (s.history o).sent)
    (hconcluded : (s₂.history o).concluded = (s.history o).concluded)
    (hstatus : ∀ answer, outcome = .ok answer →
      (answer.succeeded = true ↔ Discovery.HasGoodStatus answer))
    (hlast : ∀ server failure, outcome = .error (.couldNotConnect server failure) →
      (s.history o).sent.getLast?.map Request.server = some server) :
    s.IterationStep o e := by
  unfold IterationStep
  rw [hp]
  refine ⟨.of s.scheme outcome, ?_, ?_, ?_, ?_⟩
  · rw [he]
    exact pending?_advance_ended htask _ _ _
  · rw [he, history_advance_ended, History.append_sent, hsent]
    exact List.append_nil _
  · rw [he, history_advance_ended, History.append_concluded, hconcluded, conclude_result,
      hscheme]
    rfl
  · have hpool : (s.step e).client.roster.pool =
        ((Discovery.Result.of s.scheme outcome).apply c.roster).pool := by
      rw [he, advance_ended_client, ← hscheme]
      rfl
    rw [hpool, ← hstep.pool_eq]
    exact Discovery.effect_of hstatus hlast c.roster

theorem question_encoded (settings : Settings) (s : System) :
    ∃ e, Encoded.ofAction settings s.question {} = .ok e :=
  ⟨_, rfl⟩

/-- The first step of an iteration. -/
theorem iterationStep_start (hready : s.ready? o = some .discovery)
    (hmembers : s.client.roster.pool.members ≠ []) : s.IterationStep o o.start := by
  have htask := ready?_eq_some.1 hready
  have hp : s.progress? o.start = some (s.client.start s.question {}).2 := by
    rw [progress?_start, hready]
    rfl
  have he : s.step o.start = s.advance o .discovery (s.client.start s.question {}).1
      (s.client.start s.question {}).2 := (step_start s o).trans (begin_of_ready? hready)
  rcases Client.start_cases hmembers s.question {} with
    ⟨-, hstart⟩ | ⟨err, _, -, herr, -⟩ | ⟨_, _, _, -, -, hturn, hstart, hstep⟩
  · rw [hstart] at hp he
    exact iterationStep_of_ended hp he rfl ⟨rfl, rfl, rfl, rfl⟩ htask rfl rfl
      (fun answer h => by cases h) fun server failure h => by cases h
  · -- The question has no body that could be missing.
    obtain ⟨e, hok⟩ := question_encoded s.client.settings s
    rw [herr] at hok
    cases hok
  · rw [hstart] at hp he
    exact iterationStep_of_waiting hp he hturn hstep htask rfl rfl

/-- Every other step of its own. -/
theorem Stands.iterationStep (h : Stands s₁ s o .discovery own) {before : History}
    (hhist : s.history o = before ++ own) (hmembers : s.client.roster.pool.members ≠ [])
    (hnone : e = o.start → s.ready? o = none) (he : e.actor? = some o) :
    s.IterationStep o e := by
  rcases Event.eq_of_actor? he with rfl | ⟨reply, rfl⟩
  · have hidle := hnone rfl
    apply iterationStep_of_none
    · rw [progress?_start, hidle]
      rfl
    · exact (step_start s o).trans (begin_of_not_ready? hidle)
  · cases hpending : s.pending? o with
    | none =>
      apply iterationStep_of_none
      · rw [progress?, hpending]
        rfl
      · exact takeReply_of_not_pending? hpending reply
    | some wf =>
      cases h with
      | abandoned _ _ idle => rw [hpending] at idle; cases idle
      | ended _ idle _ => rw [hpending] at idle; cases idle
      | @waiting xs f course task =>
        rw [pending?_eq_some.2 task] at hpending
        cases hpending
        have hpending : s.pending? o = some (.discovery, f) := pending?_eq_some.2 task
        have hp : s.progress? (.reply o reply) = some (s.client.resume f reply).2 := by
          rw [progress?, hpending]
          rfl
        have he : s.step (.reply o reply) = (s.noteReceipt o f reply).advance o .discovery
            (s.client.resume f reply).1 (s.client.resume f reply).2 :=
          takeReply_of_pending? hpending reply
        have htask : (s.noteReceipt o f reply).task? o = some ⟨.discovery, .waiting f⟩ :=
          (task?_congr rfl rfl o).trans task
        have hsent : ((s.noteReceipt o f reply).history o).sent = (s.history o).sent := by
          rw [history_noteReceipt]
          exact List.append_nil _
        have hconcluded : ((s.noteReceipt o f reply).history o).concluded =
            (s.history o).concluded := by
          rw [history_noteReceipt]
          exact List.append_nil _
        rcases Client.resume_cases hmembers f reply with
          ⟨-, _, hresume, hstep⟩ | ⟨-, _, _, hturn, hresume, hstep⟩
        · -- The request in flight is the last one sent, so its server is the one to name.
          rw [hresume] at hp he
          refine iterationStep_of_ended hp he rfl hstep htask hsent hconcluded
            (fun answer => Flight.outcome_status course.encoded.2 answer) ?_
          intro server failure hfailure
          rw [← Flight.outcome_server course.encoded.2 server failure hfailure, hhist]
          simp [Flight.request, Encoded.bind]
        · rw [hresume] at hp he
          exact iterationStep_of_waiting hp he hturn hstep htask hsent hconcluded

/-! ## A whole iteration -/

/-- **The effect of an iteration.** Let an origin begin an iteration, and let anything
else happen while it waits. Each event of its own makes an attempt, which moves the turn
by one, or ends the request, after which the pool follows the outcome, or does nothing;
and the request ends once. -/
theorem iteration_effect (hready : s₁.ready? o = some .discovery)
    (hstocked : s₁.client.roster.pool.Stocked) (after : List Event)
    (hnone : (s₁.step o.start).BeginsNone o after) :
    (∃ own, (s₁.run (o.start :: after)).history o = s₁.history o ++ own ∧
      own.concluded.length ≤ 1) ∧
    ∀ before e rest, o.start :: after = before ++ e :: rest → e.actor? = some o →
      (s₁.run before).IterationStep o e := by
  constructor
  · obtain ⟨own, hhist, hstands⟩ := stands_run hready hstocked after hnone
    exact ⟨own, hhist, hstands.isolated.once⟩
  · intro before e rest hsplit he
    cases before with
    | nil =>
      obtain ⟨rfl, -⟩ := List.cons.inj hsplit
      exact iterationStep_start hready hstocked.members
    | cons first mid =>
      obtain ⟨rfl, hafter⟩ := List.cons.inj hsplit
      have hnone' : (s₁.step o.start).BeginsNone o mid := by
        rw [hafter] at hnone
        exact hnone.of_append
      obtain ⟨own, hhist, hstands⟩ := stands_run hready hstocked mid hnone'
      have hmembers := (run_stocked (o.start :: mid) hstocked).members
      refine hstands.iterationStep hhist hmembers ?_ he
      rintro rfl
      exact hnone mid rest hafter

/-- The server that was asked refuses, after somebody has taken another one out. -/
theorem iteration_effect_refused :
    let servers : List Server := [⟨"http://a"⟩, ⟨"http://b"⟩, ⟨"http://c"⟩]
    let s : System :=
      { client := { settings := { retry := Retry.never }, roster := .start ⟨servers, servers, 0⟩ }
        tasks := [{ work := .discovery }] }
    let before : List Event := [.begin 0, .removeServer ⟨"http://b"⟩]
    let refusal : Event := .reply (.task 0) (.error ⟨.connectRefused, "http://a/", "refused"⟩)
    s.ready? (.task 0) = some .discovery ∧ s.client.roster.pool.Stocked ∧
      (s.step (.begin 0)).BeginsNone (.task 0) [.removeServer ⟨"http://b"⟩, refusal] ∧
      ((s.run before).step refusal).client.roster.pool.members = [⟨"http://c"⟩] := by
  intro servers s before refusal
  have hstocked : s.client.roster.pool.Stocked := ⟨List.cons_ne_nil _ _, List.cons_ne_nil _ _⟩
  have hnone : (s.step (.begin 0)).BeginsNone (.task 0)
      [.removeServer ⟨"http://b"⟩, refusal] := by
    intro mid rest h
    have hmem : Origin.start (.task 0) ∈ [.removeServer ⟨"http://b"⟩, refusal] := by
      rw [h]
      simp
    simp [Origin.start, refusal] at hmem
  refine ⟨rfl, hstocked, hnone, ?_⟩
  obtain ⟨-, hsteps⟩ := iteration_effect (o := .task 0) rfl hstocked
    [.removeServer ⟨"http://b"⟩, refusal] hnone
  have hstep : (s.run before).IterationStep (.task 0) refusal := hsteps before refusal [] rfl rfl
  have hp : (s.run before).progress? refusal = some (.ended (.error
      (.couldNotConnect ⟨"http://a"⟩ ⟨.connectRefused, "http://a/", "refused"⟩))) := rfl
  unfold IterationStep at hstep
  rw [hp] at hstep
  obtain ⟨result, -, -, -, heffect⟩ := hstep
  have hresult : result = .evicted ⟨"http://a"⟩ := (heffect.evicted _).2 ⟨_, rfl⟩
  rw [heffect.pool_eq, hresult]
  rfl

end System

end Failover
