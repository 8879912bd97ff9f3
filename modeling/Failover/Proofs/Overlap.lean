import Failover.Proofs.Dispatches
import Failover.Proofs.Shutdown

/-!
# What a shutdown does not wait for

A shutdown takes its time: the client is closed at once, but the call that has found the
handle waits for the background task. Meanwhile others may call shutdown, too, and
iterations of discovery may be under way that callers have begun.

Another call finds no handle, and has nothing to wait for. It returns at once, whatever the
background task is doing (`System.shutdown_overlap`), so only the return of the first call
says that the background task has ended.

An iteration that waits for its reply was let in before the client was closed, and nobody
looks at that again. Its reply may come long after the shutdown, and the membership then
follows it as ever. But that is all that can still happen to the membership, apart from
what callers do to it with their own hands (`System.discovery_after_shutdown`): the
background task has ended, and every request and every iteration that had no attempt under
way is refused (`System.Quiet`).
-/

namespace Failover

/-- A caller changes the membership with this event. -/
def Event.isChange : Event → Bool
  | .setServers _ => true
  | .replaceServers _ => true
  | .removeServer _ => true
  | .resetServers => true
  | _ => false

namespace System

variable {s s₁ : System} {e : Event} {o : Origin} {work : Work}

/-! ## Calls that overlap -/

/-- Once there was a call nobody has to take charge of ending the background task any
more. -/
theorem Phase.handle_of_called (h : s.Phase) (hcalled : s.shutdowns ≠ []) :
    s.hasHandle = false := by
  cases h with
  | uncalled calls _ => exact absurd calls hcalled
  | waiting _ _ handle _ => exact handle
  | returned _ shut => exact shut.handle

theorem Phase.ended_of_returned (h : s.Phase) (hreturned : s.shutdowns.head? = some true) :
    s.Shut := by
  cases h with
  | uncalled calls _ => rw [calls] at hreturned; cases hreturned
  | waiting first _ _ _ => rw [first] at hreturned; cases hreturned
  | returned _ shut => exact shut

/-- Every call but the first has returned. -/
def LaterReturned (s : System) : Prop :=
  ∀ (i : Nat) (b : Bool), s.shutdowns[i + 1]? = some b → b = true

theorem LaterReturned.step (h : s.LaterReturned) (hphase : s.Phase)
    (hmembers : s.client.roster.pool.members ≠ []) (e : Event) : (s.step e).LaterReturned := by
  rcases undisturbed_step hmembers e with rfl | ⟨call, rfl⟩ | hs
  · intro i b hb
    have hb : (s.shutdowns ++ [!s.hasHandle])[i + 1]? = some b := hb
    rw [List.getElem?_append] at hb
    split at hb
    · exact h i b hb
    next hi =>
      -- The call is not the first, so it finds no handle.
      obtain ⟨hlt, rfl⟩ := List.getElem?_eq_some_iff.1 hb
      rw [List.length_singleton] at hlt
      have hcalled : s.shutdowns ≠ [] := by
        rw [← List.length_pos_iff]
        omega
      rw [List.getElem_singleton, hphase.handle_of_called hcalled]
      rfl
  · by_cases hended : s.background = .ended
    · intro i b hb
      rw [step_release_of_ended hended, List.getElem?_modify] at hb
      obtain ⟨b', hb', rfl⟩ := Option.map_eq_some_iff.1 hb
      rw [h i b' hb', ite_self]
    · rw [step_release_of_active (Background.isActive_eq_true.2 hended)]
      exact h
  · intro i b hb
    rw [hs.calls] at hb
    exact h i b hb

theorem LaterReturned.run (events : List Event) : ∀ {s : System},
    s.client.roster.pool.Stocked → s.Phase → s.LaterReturned → (s.run events).LaterReturned := by
  induction events with
  | nil => intro s _ _ h; exact h
  | cons e r ih =>
    intro s hstocked hphase h
    exact ih (run_stocked [e] hstocked) (hphase.step hstocked.members e)
      (h.step hphase hstocked.members e)

/-- **Only the first call waits.** Let any number of calls of shutdown overlap. If the first
has returned the background task has ended. Every other call has returned already, and a
call that comes now returns at once, leaving the background task as it is: it can say that
the task has ended only if that was so before it was made. -/
theorem shutdown_overlap {setup : Client.Setup} {s₀ : System} (h : Client.build setup = .ok s₀)
    (events : List Event) :
    let s := s₀.run events
    (s.shutdowns.head? = some true → s.background = .ended) ∧
    (∀ (i : Nat) (b : Bool), s.shutdowns[i + 1]? = some b → b = true) ∧
    (s.shutdowns ≠ [] → (s.step .shutdown).shutdowns = s.shutdowns ++ [true] ∧
      (s.step .shutdown).background = s.background) := by
  intro s
  have hstocked := Client.build_stocked h
  have hphase : s.Phase := (phase_of_build h).run events hstocked
  have hlater₀ : s₀.LaterReturned := by
    obtain ⟨_, _, _, -, -, -, rfl⟩ := Client.build_eq_ok h
    intro i b hb
    cases hb
  have hlater : s.LaterReturned := hlater₀.run events hstocked (phase_of_build h)
  refine ⟨fun hreturned => (hphase.ended_of_returned hreturned).background, hlater,
    fun hcalled => ⟨?_, rfl⟩⟩
  show s.shutdowns ++ [!s.hasHandle] = _
  rw [hphase.handle_of_called hcalled]
  rfl

/-- Two calls, and both have returned. For the first that took until the task had ended. -/
theorem shutdown_overlap_joined :
    let events : List Event := [.wake, .shutdown, .shutdown, .stop, .release 0]
    ∃ s₀, Client.build
        { config := (Config.withServers ["[::1]:9200"]).withDiscovery 0 10000 } = .ok s₀ ∧
      (s₀.run events).shutdowns = [true, true] ∧ (s₀.run events).background = .ended := by
  intro events
  obtain ⟨s₀, hbuild⟩ : ∃ s₀, Client.build
      { config := (Config.withServers ["[::1]:9200"]).withDiscovery 0 10000 } = .ok s₀ :=
    ⟨_, rfl⟩
  have hreturned : (s₀.run events).shutdowns = [true, true] := by
    cases hbuild
    rfl
  refine ⟨s₀, hbuild, hreturned, (shutdown_overlap hbuild events).1 ?_⟩
  rw [hreturned]
  rfl

/-- Two calls, while the first iteration of the background task waits for its reply. The
second has returned, and the task has not ended. -/
theorem shutdown_overlap_unjoined :
    ∃ s₀, Client.build
        { config := (Config.withServers ["[::1]:9200"]).withDiscovery 0 10000 } = .ok s₀ ∧
      let s := s₀.run [.wake, .shutdown, .shutdown]
      s.shutdowns = [false, true] ∧ s.background.isActive = true ∧
        ¬∀ i : Nat, s.shutdowns[i]? = some true → s.background = .ended := by
  refine ⟨_, rfl, rfl, rfl, fun hall => ?_⟩
  cases hall 1 rfl

/-! ## Iterations that a shutdown overtakes -/

/-- An event that is neither a change that a caller makes nor the reply to an iteration
leaves the members alone in a client that is shut down. -/
theorem Shut.members_step (h : s.Shut) (hmembers : s.client.roster.pool.members ≠ [])
    (hchange : e.isChange = false)
    (hreply : ∀ id reply f, e = .reply (.task id) reply →
      s.pending? (.task id) ≠ some (.discovery, f)) :
    (s.step e).client.roster.pool.members = s.client.roster.pool.members := by
  have hbegin : ∀ id, (s.begin (.task id)).client.roster.pool.members =
      s.client.roster.pool.members := by
    intro id
    cases hr : s.ready? (.task id) with
    | none => rw [begin_of_not_ready? hr]
    | some work => rw [h.begin hr, advance_ended_client, conclude_shutdown_pool]
  cases e with
  | setServers addresses => cases hchange
  | replaceServers servers => cases hchange
  | removeServer server => cases hchange
  | resetServers => cases hchange
  | begin id => exact hbegin id
  | wake => rw [h.step_background (Or.inl rfl)]
  | stop => rw [h.step_background (Or.inr rfl)]
  | launch work => rfl
  | shutdown => rfl
  | nextServer => rw [step_nextServer hmembers]; rfl
  | release call => rw [step_release_of_ended h.background]
  | reply o reply =>
    cases o with
    | background => rw [h.step_background (Or.inl rfl)]
    | task id =>
      show (s.takeReply (.task id) reply).client.roster.pool.members = _
      cases hp : s.pending? (.task id) with
      | none => rw [takeReply_of_not_pending? hp]
      | some wf =>
        obtain ⟨work, f⟩ := wf
        cases work with
        | discovery => exact absurd hp (hreply id reply f rfl)
        | request action options =>
          rw [takeReply_of_pending? hp, advance_request_client,
            (Client.resume_stepped hmembers _ _).pool_eq]
          exact Client.poolAfter_members _ _

/-- What an event can still do in the state `s` of a client whose first call of shutdown had
returned in the state `s₁` before. -/
structure Overtaken (s₁ s : System) (e : Event) : Prop where
  /-- The members stay, unless a caller changes them or the event is the reply to an
  iteration of a caller that was waiting for one in `s₁`. -/
  members : (s.step e).client.roster.pool.members ≠ s.client.roster.pool.members →
    e.isChange = true ∨ ∃ id reply f, e = .reply (.task id) reply ∧
      s₁.pending? (.task id) = some (.discovery, f)
  /-- Whoever was not waiting then sends nothing, leaves the pool alone, and if the event is
  the end of the work it is a refusal. -/
  refused : ∀ o work, e.actor? = some o → s.work? o = some work → s₁.pending? o = none →
    (s.step e).dispatched = s.dispatched ∧
    (s.step e).client.roster.pool = s.client.roster.pool ∧
    ∀ c ∈ s.endings e, c = ⟨o, work.refusal⟩

theorem Shut.refused_step (h : s.Shut) (hactor : e.actor? = some o)
    (hwork : s.work? o = some work) (hidle : s.pending? o = none) :
    (s.step e).dispatched = s.dispatched ∧
    (s.step e).client.roster.pool = s.client.roster.pool ∧
    ∀ c ∈ s.endings e, c = ⟨o, work.refusal⟩ := by
  have hsame : s.step e = s → _ ∧ _ ∧ ∀ c ∈ s.endings e, c = ⟨o, work.refusal⟩ := fun hs =>
    ⟨congrArg System.dispatched hs, congrArg (·.client.roster.pool) hs, fun c hc => by
      rw [endings_of_concluded (congrArg System.concluded hs)] at hc
      cases hc⟩
  rcases Event.eq_of_actor? hactor with rfl | ⟨reply, rfl⟩
  · cases hr : s.ready? o with
    | none => exact hsame ((step_start s o).trans (begin_of_not_ready? hr))
    | some work' =>
      obtain rfl : work' = work :=
        Option.some.inj ((work?_of_task? (ready?_eq_some.1 hr)).symm.trans hwork)
      have hstep : s.step o.start = s.advance o work' s.client (.ended (.error .shutdown)) :=
        (step_start s o).trans (h.begin hr)
      refine ⟨?_, ?_, fun c hc => ?_⟩
      · rw [hstep, advance_ended_dispatched]
      · rw [hstep, advance_ended_client, conclude_shutdown_pool]
      · have hone : s.endings o.start = [⟨o, work'.refusal⟩] := by
          apply endings_of_concluded_cons
          rw [hstep, advance_ended_concluded, conclude_shutdown]
        rw [hone, List.mem_singleton] at hc
        exact hc
  · exact hsame (takeReply_of_not_pending? hidle reply)

/-- **Discovery after a shutdown.** Once the first call of shutdown has returned the members
change in two ways only: a caller changes them, or a reply comes to an iteration that a
caller had begun and that was waiting for it by then. No other iteration touches the pool
or sends anything, and those that begin from then on find that the client is gone. -/
theorem discovery_after_shutdown {setup : Client.Setup} {s₀ : System}
    (h : Client.build setup = .ok s₀) (events : List Event)
    (hreturned : (s₀.run events).shutdowns.head? = some true) (more : List Event) (e : Event) :
    Overtaken (s₀.run events) (s₀.run (events ++ more)) e := by
  have hstocked := Client.build_stocked h
  have hstocked₁ := run_stocked events hstocked
  have hshut₁ := ((phase_of_build h).run events hstocked).ended_of_returned hreturned
  have hmembers := (run_stocked (events ++ more) hstocked).members
  have hshut : (s₀.run (events ++ more)).Shut := by
    rw [run_append]
    exact (hshut₁.run (P := fun _ => True) (fun _ _ _ _ => trivial) more hstocked₁ trivial).1
  have hquiet : ∀ o, (s₀.run events).pending? o = none →
      Quiet (s₀.run events) (s₀.run (events ++ more)) o := by
    intro o hidle
    rw [run_append]
    exact Quiet.run hstocked₁ hshut₁ hidle more
  constructor
  case members =>
    intro hne
    by_contra hno
    rw [not_or, Bool.not_eq_true] at hno
    refine hne (hshut.members_step hmembers hno.1 fun id reply f he hp => ?_)
    -- The iteration waits now, so it was waiting then, and its work has not changed.
    cases hp₁ : (s₀.run events).pending? (.task id) with
    | none =>
      rw [(hquiet _ hp₁).idle] at hp
      cases hp
    | some wf =>
      obtain ⟨work₁, f₁⟩ := wf
      have hwork₁ := work?_of_task? (pending?_eq_some.1 hp₁)
      have hwork := work?_of_task? (pending?_eq_some.1 hp)
      rw [run_append] at hwork
      rw [work?_run more hstocked₁ hwork₁] at hwork
      cases hwork
      exact hno.2 ⟨id, reply, f₁, he, hp₁⟩
  case refused =>
    intro o work hactor hwork hidle
    exact hshut.refused_step hactor hwork (hquiet o hidle).idle

/-- The background task is told to end while a reply is on its way to it, and another
iteration begins later. -/
theorem discovery_after_shutdown_late :
    let events : List Event := [.wake, .shutdown, .stop, .release 0]
    ∃ s₀, Client.build
        { config := (Config.withServers ["[::1]:9200"]).withDiscovery 0 10000 } = .ok s₀ ∧
      (s₀.run events).shutdowns.head? = some true ∧
      (s₀.run (events ++ [.launch .discovery])).ready? (.task 0) = some .discovery ∧
      Overtaken (s₀.run events) (s₀.run (events ++ [.launch .discovery])) (.begin 0) := by
  intro events
  obtain ⟨s₀, hbuild⟩ : ∃ s₀, Client.build
      { config := (Config.withServers ["[::1]:9200"]).withDiscovery 0 10000 } = .ok s₀ :=
    ⟨_, rfl⟩
  have hreturned : (s₀.run events).shutdowns.head? = some true := by
    cases hbuild
    rfl
  have hready : (s₀.run (events ++ [.launch .discovery])).ready? (.task 0) =
      some .discovery := by
    cases hbuild
    rfl
  exact ⟨s₀, hbuild, hreturned, hready,
    discovery_after_shutdown hbuild events hreturned [.launch .discovery] (.begin 0)⟩

/-- A caller has begun an iteration when the client is shut down, and the call of shutdown
has returned. The reply comes after that, and still the server that was asked is taken
out. -/
theorem discovery_after_shutdown_evicts :
    ∃ s₀, Client.build { config := .withServers ["[::1]:9200", "http://[::2]:9200"] } = .ok s₀ ∧
      let s := s₀.run [.launch .discovery, .begin 0, .shutdown]
      let refusal : Event :=
        .reply (.task 0) (.error ⟨.connectRefused, "http://[::1]:9200/_nodes/_all/http", "refused"⟩)
      s.shutdowns = [true] ∧
        s.client.roster.pool.members = [⟨"http://[::1]:9200"⟩, ⟨"http://[::2]:9200"⟩] ∧
        (s.step refusal).client.roster.pool.members = [⟨"http://[::2]:9200"⟩] ∧
        ((s.step refusal).concluded.map Conclusion.result).head? ≠
          some (.discovery (.error .shutdown) .clientGone) := by
  refine ⟨_, rfl, rfl, rfl, rfl, fun h => ?_⟩
  cases h

end System

end Failover
