import Failover.Proofs.Dispatches
import Failover.Proofs.Iteration
import Failover.Proofs.Shutdown

/-!
# The background task of an open client

As long as nobody shuts a client down its background task goes round: it sleeps, an iteration
begins, the iteration makes one attempt or several, it sleeps again. Which event makes
which step of this is `System.BackgroundStep`, and there is no other way to go. In
particular there is no way out: only an iteration that finds the client closed would end the
task, and the outcome of an attempt is never that.

Nothing is said about times here. An event of somebody else leaves the task where it is,
so this may be read as the program of a clock that others cannot reach.
-/

namespace Failover

/-- No attempt comes to the error of a client that was shut down, if its answer is read in the
usual way. -/
theorem Flight.outcome_ne_shutdown {f : Flight} (hf : f.interpret = Answer.ofResponse)
    (reply : Reply) : f.outcome reply ≠ .error .shutdown := by
  intro h
  cases reply with
  | ok response =>
    have hr : Answer.ofResponse response f.request.url = .error .shutdown := hf ▸ h
    obtain ⟨_, _, he⟩ := Answer.ofResponse_eq_error hr
    cases he
  | error failure =>
    simp only [outcome, Client.failureError] at h
    split at h <;> cases h

namespace System

/-- The client is open, and so its background task is there. -/
structure Running (s : System) : Prop where
  handle : s.hasHandle = true
  uncancelled : s.cancelled = false
  opened : s.client.closed = false
  stocked : s.client.roster.pool.Stocked
  active : s.background ≠ .ended
  /-- The answer to its question is read in the usual way. -/
  reader : ∀ f, s.background = .asking f → f.interpret = Answer.ofResponse

variable {s s' : System} {e : Event}

theorem Running.isDiscoveryRunning (h : s.Running) : s.isDiscoveryRunning = true := by
  rw [System.isDiscoveryRunning, h.handle, Background.isActive_eq_true.2 h.active]
  rfl

/-- How many iterations of the background task have ended. -/
def rounds (s : System) : Nat := (s.history .background).concluded.length

/-- What an event does to the background task of an open client, and which request it
sends. -/
inductive BackgroundStep (s s' : System) (e : Event) : Prop where
  /-- The event is none of its business, or of no use to it. -/
  | rests (background : s'.background = s.background) (rounds : s'.rounds = s.rounds)
      (sent : s'.dispatched = s.dispatched ∨
        ∃ d, d.origin ≠ .background ∧ s'.dispatched = d :: s.dispatched)
      (sleepless : e = .wake → s.background ≠ .sleeping)
      (unasked : ∀ reply f, e = .reply .background reply → s.background ≠ .asking f)
  /-- An iteration begins. -/
  | begins {f : Flight} (event : e = .wake) (before : s.background = .sleeping)
      (after : s'.background = .asking f) (rounds : s'.rounds = s.rounds)
      (sent : s'.dispatched = ⟨.background, f.request⟩ :: s.dispatched)
      (reader : f.interpret = Answer.ofResponse)
  /-- Another attempt is made. -/
  | repeats {f f' : Flight} (before : s.background = .asking f)
      (after : s'.background = .asking f') (rounds : s'.rounds = s.rounds)
      (sent : s'.dispatched = ⟨.background, f'.request⟩ :: s.dispatched)
      (fewer : (Progress.waiting f').remaining < (Progress.waiting f).remaining)
      (reader : f'.interpret = f.interpret)
  /-- The iteration ends. -/
  | ends {f : Flight} (before : s.background = .asking f) (after : s'.background = .sleeping)
      (rounds : s'.rounds = s.rounds + 1) (sent : s'.dispatched = s.dispatched)

theorem background_of_task? (h : s'.task? .background = s.task? .background) :
    s'.background = s.background := by
  simp only [task?] at h
  cases hs : s.background <;> cases hs' : s'.background <;> simp_all

theorem ready?_background {work : Work} (h : s.ready? .background = some work) :
    s.background = .sleeping ∧ work = .discovery := by
  simp only [ready?] at h
  split at h
  next hs => exact ⟨hs, (Option.some.inj h).symm⟩
  · cases h

theorem pending?_background {work : Work} {f : Flight}
    (h : s.pending? .background = some (work, f)) :
    s.background = .asking f ∧ work = .discovery := by
  simp only [pending?] at h
  split at h
  next hs =>
    cases h
    exact ⟨hs, rfl⟩
  · cases h

/-! ## One event -/

theorem background_step_of_ne (h : e.actor? ≠ some .background)
    (huncancelled : s.cancelled = false) : (s.step e).background = s.background := by
  cases e with
  | begin id => exact background_of_task? (s.begin_of_ne (by simp)).2
  | wake => exact absurd rfl h
  | reply o reply =>
    exact background_of_task? (s.takeReply_of_ne (fun ho => h (congrArg some ho)) reply).2
  | stop => simp only [step, huncancelled, Bool.false_eq_true, if_false]
  | setServers addresses => simp only [step]; split <;> rfl
  | nextServer => simp only [step]; split <;> rfl
  | release call => simp only [step]; split <;> rfl
  | _ => rfl

theorem backgroundStep_of_ne (h : s.Running) (hactor : e.actor? ≠ some .background) :
    s.BackgroundStep (s.step e) e := by
  refine .rests (background_step_of_ne hactor h.uncancelled)
    (by rw [rounds, history_step_of_ne hactor]; rfl) ?_
    (fun hwake => absurd (hwake ▸ rfl) hactor) fun _ _ hreply => absurd (hreply ▸ rfl) hactor
  cases turnStep h.stocked.members e with
  | rests _ _ dispatched _ => exact Or.inl dispatched
  | asks _ _ dispatched _ => exact Or.inl dispatched
  | alters _ dispatched _ => exact Or.inl dispatched
  | @sends o _ f _ sent =>
    refine Or.inr ⟨⟨o, f.request⟩, ?_, sent.dispatched⟩
    rintro rfl
    exact hactor sent.actor

/-- The event finds the task in a state where it is of no use. -/
theorem BackgroundStep.of_idle (hsame : s' = s) (hsleepless : e = .wake → s.background ≠ .sleeping)
    (hunasked : ∀ reply f, e = .reply .background reply → s.background ≠ .asking f) :
    s.BackgroundStep s' e :=
  .rests (by rw [hsame]) (by rw [hsame]) (Or.inl (by rw [hsame])) hsleepless hunasked

theorem backgroundStep_wake (h : s.Running) : s.BackgroundStep (s.step .wake) .wake := by
  cases hr : s.ready? .background with
  | none =>
    refine .of_idle (begin_of_not_ready? hr) (fun _ hs => ?_) (by simp)
    simp only [ready?, hs, reduceCtorEq] at hr
  | some work =>
    obtain ⟨hsleeping, rfl⟩ := ready?_background hr
    have hbegin : s.step .wake = _ := begin_of_ready? hr
    rcases Client.start_cases h.stocked.members s.question {} with
      ⟨hclosed, -⟩ | ⟨_, _, -, herr, -⟩ | ⟨e, server, c, -, -, -, hstart, -⟩
    · rw [h.opened] at hclosed
      cases hclosed
    · -- The question has no body that could be missing.
      obtain ⟨_, hok⟩ := question_encoded s.client.settings s
      rw [herr] at hok
      cases hok
    · simp only [asked, hstart] at hbegin
      refine .begins (f := ⟨e, s.question.interpret, server, 1⟩) rfl hsleeping ?_ ?_ ?_ rfl
      · rw [hbegin]; rfl
      · rw [hbegin, rounds, history_advance_waiting, History.append_concluded, List.append_nil]
        rfl
      · rw [hbegin, advance_waiting_dispatched]

theorem backgroundStep_reply (h : s.Running) (reply : Reply) :
    s.BackgroundStep (s.step (.reply .background reply)) (.reply .background reply) := by
  cases hp : s.pending? .background with
  | none =>
    refine .of_idle (takeReply_of_not_pending? hp reply) nofun fun _ _ _ hs => ?_
    simp only [pending?, hs, reduceCtorEq] at hp
  | some wf =>
    obtain ⟨work, f⟩ := wf
    obtain ⟨hasking, rfl⟩ := pending?_background hp
    have htake : s.step (.reply .background reply) = _ := takeReply_of_pending? hp reply
    have hfewer := Client.resume_remaining s.client f reply
    rcases Client.resume_cases h.stocked.members f reply with
      ⟨-, c, hres, -⟩ | ⟨-, server, c, -, hres, -⟩
    · rw [hres] at htake
      have hne := Flight.outcome_ne_shutdown (h.reader f hasking) reply
      have hresult : (s.conclude .discovery c (f.outcome reply)).2 =
          .discovery (f.outcome reply) (.of s.scheme (f.outcome reply)) := rfl
      refine .ends hasking ?_ ?_ ?_
      · rw [htake]
        show Background.ofStage (.done (s.conclude .discovery c (f.outcome reply)).2) = _
        rw [hresult]
        cases hr : Discovery.Result.of s.scheme (f.outcome reply) with
        | clientGone => exact absurd (Discovery.Result.of_eq_clientGone.1 hr) hne
        | _ => rfl
      · rw [htake, rounds, history_advance_ended, History.append_concluded, List.length_append]
        rfl
      · rw [htake, advance_ended_dispatched]
        rfl
    · rw [hres] at htake hfewer
      refine .repeats hasking ?_ ?_ ?_ hfewer rfl
      · rw [htake]; rfl
      · rw [htake, rounds, history_advance_waiting, History.append_concluded, List.append_nil]
        rfl
      · rw [htake, advance_waiting_dispatched]
        rfl

/-- **The background task goes round.** In an open client every event makes one of these
steps. -/
theorem Running.backgroundStep (h : s.Running) (e : Event) : s.BackgroundStep (s.step e) e := by
  by_cases hactor : e.actor? = some .background
  · rcases Event.eq_of_actor? hactor with rfl | ⟨reply, rfl⟩
    · exact backgroundStep_wake h
    · exact backgroundStep_reply h reply
  · exact backgroundStep_of_ne h hactor

/-- Nothing but a shutdown ends the task. -/
theorem Running.step (h : s.Running) (hne : e ≠ .shutdown) : (s.step e).Running := by
  have hstocked : (s.step e).client.roster.pool.Stocked := run_stocked [e] h.stocked
  have hkept : (∃ call, e = .release call) ∨ s.Undisturbed (s.step e) :=
    (undisturbed_step h.stocked.members e).resolve_left hne
  rcases hkept with ⟨call, rfl⟩ | hs
  · rw [step_release_of_active (Background.isActive_eq_true.2 h.active)]
    exact h
  · refine ⟨hs.handle.trans h.handle, hs.cancelled.trans h.uncancelled,
      hs.closed.trans h.opened, hstocked, ?_, ?_⟩
    · cases h.backgroundStep e with
      | rests background _ _ _ _ => rw [background]; exact h.active
      | begins _ _ after _ _ _ => rw [after]; simp
      | repeats _ after _ _ _ _ => rw [after]; simp
      | ends _ after _ _ => rw [after]; simp
    · intro f hf
      cases h.backgroundStep e with
      | rests background _ _ _ _ => exact h.reader f (background.symm.trans hf)
      | begins _ _ after _ _ reader =>
        rw [after] at hf
        cases hf
        exact reader
      | repeats before after _ _ _ reader =>
        rw [after] at hf
        cases hf
        exact reader.trans (h.reader _ before)
      | ends _ after _ _ =>
        rw [after] at hf
        cases hf

theorem running_of_build {setup : Client.Setup} {s₀ : System} (h : Client.build setup = .ok s₀)
    (henabled : setup.config.discovery.enabled = true) :
    s₀.Running ∧ s₀.background = .sleeping ∧ s₀.rounds = 0 := by
  have hstocked := Client.build_stocked h
  obtain ⟨_, _, _, -, -, -, rfl⟩ := Client.build_eq_ok h
  have hsleeping : (if setup.config.discovery.enabled then Background.sleeping else .ended) =
      .sleeping := if_pos henabled
  refine ⟨⟨henabled, rfl, rfl, hstocked, ?_, fun f hf => ?_⟩, hsleeping, rfl⟩
  · show (if setup.config.discovery.enabled then Background.sleeping else .ended) ≠ .ended
    rw [hsleeping]
    nofun
  · rw [hsleeping] at hf
    cases hf

end System

end Failover
