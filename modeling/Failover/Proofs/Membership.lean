import Failover.Proofs.Build
import Failover.Proofs.Ledger
import Failover.Proofs.Run

/-!
# The pool over a whole run

Whatever goes on in a client, one event can do only four things to its roster: leave
the membership alone, replace it as a whole, bring the bootstrap servers back, or take
one server out (`Roster.Change`). Requests never do more than the first
(`Client.Stepped`), and so the change that an event makes is told by the event itself
or, where it ends an iteration of discovery, by what the iteration came to.

What holds of a pool at all times, `Roster.Sound`, speaks of the last list that the
membership was replaced by as a whole. That list is not part of the state; it is read
off the events of a run (`System.lastReplacement?`). Each change keeps a roster sound
(`Roster.Change.sound`), by cases on the change and without a look at the event.

The reason why nothing ever finds an empty pool is in `Pool.Stocked`, a part of that:
whenever a change would leave no members the bootstrap servers take their place, and of
those there are some.
-/

namespace Failover

/-! ## One change -/

/-- What an event may have made of a roster. If it replaces the whole membership, this
is the list that it replaces it by. -/
inductive Roster.Change (r r' : Roster) : Option (List Server) → Prop where
  | kept (members : r'.pool.members = r.pool.members)
      (bootstrap : r'.pool.bootstrap = r.pool.bootstrap)
      (gauge : r'.ledger.poolSize? = r.ledger.poolSize?) : Change r r' none
  | replaced {servers : List Server} (pool : r'.pool = r.pool.replace servers)
      (gauge : r'.ledger.poolSize? = some r'.pool.members.length) : Change r r' (some servers)
  | reset (pool : r'.pool = r.pool.reset)
      (gauge : r'.ledger.poolSize? = some r'.pool.members.length) : Change r r' none
  | evicted {server : Server} (pool : r'.pool = r.pool.evict server)
      (gauge : r'.ledger.poolSize? = some r'.pool.members.length) : Change r r' none

/-- What holds of a roster at all times: the first servers are those of `initial`, and
the members are some of them or of the list `latest` that came in their place, in the
same order and none of them twice. -/
structure Roster.Sound (r : Roster) (initial : List Server) (latest : Option (List Server)) :
    Prop where
  bootstrap_eq : r.pool.bootstrap = initial.eraseDups
  stocked : r.pool.Stocked
  members_nodup : r.pool.members.Nodup
  members_sublist : r.pool.members.Sublist r.pool.bootstrap ∨
    ∃ servers, latest = some servers ∧ r.pool.members.Sublist servers.eraseDups
  gauge : r.ledger.poolSize? = some r.pool.members.length

namespace Roster

theorem eraseDups_nodup (servers : List Server) : servers.eraseDups.Nodup := by
  rw [← Server.distinct_eq_eraseDups]
  exact Server.distinct_nodup servers

variable {r r' : Roster} {initial : List Server} {latest change : Option (List Server)}

theorem Change.bootstrap (hc : r.Change r' change) : r'.pool.bootstrap = r.pool.bootstrap := by
  cases hc with
  | kept _ bootstrap _ => exact bootstrap
  | replaced pool _ => rw [pool, Pool.replace_bootstrap]
  | reset pool _ => rw [pool, Pool.reset_bootstrap]
  | evicted pool _ => rw [pool, Pool.evict_bootstrap]

/-- No change empties a pool. -/
theorem Change.stocked (hc : r.Change r' change) (h : r.pool.Stocked) : r'.pool.Stocked := by
  cases hc with
  | kept members bootstrap _ => exact ⟨members ▸ h.members, bootstrap ▸ h.bootstrap⟩
  | replaced pool _ => exact pool ▸ h.replace _
  | reset pool _ => exact pool ▸ h.reset
  | evicted pool _ => exact pool ▸ h.evict _

/-- Where the members come from: from the former ones, from the bootstrap servers, or
from the list that takes their place. -/
theorem Change.members (hc : r.Change r' change) :
    (change = none ∧ r'.pool.members.Sublist r.pool.members) ∨
      r'.pool.members = r.pool.bootstrap ∨
      ∃ servers, change = some servers ∧ r'.pool.members = servers.eraseDups := by
  cases hc with
  | kept members _ _ =>
    rw [members]
    exact Or.inl ⟨rfl, List.Sublist.refl _⟩
  | @replaced servers pool _ =>
    rw [pool]
    rcases r.pool.replace_members_cases servers with h | h
    · exact Or.inr (Or.inl h)
    · exact Or.inr (Or.inr ⟨servers, rfl, h⟩)
  | reset pool _ =>
    rw [pool]
    exact Or.inr (Or.inl rfl)
  | @evicted server pool _ =>
    rw [pool]
    rcases r.pool.evict_members_cases server with h | h
    · exact Or.inr (Or.inl h)
    · exact Or.inl ⟨rfl, h⟩

theorem Change.members_of_replaced {servers : List Server} (hc : r.Change r' (some servers)) :
    r'.pool.members = if servers = [] then r.pool.bootstrap else servers.eraseDups := by
  cases hc with
  | replaced pool _ =>
    rw [pool]
    by_cases h : servers = []
    · subst h
      rfl
    · rw [if_neg h, Pool.replace_members h]

theorem Change.gauge (hc : r.Change r' change)
    (h : r.ledger.poolSize? = some r.pool.members.length) :
    r'.ledger.poolSize? = some r'.pool.members.length := by
  cases hc with
  | kept members _ gauge => rw [gauge, h, members]
  | replaced _ gauge => exact gauge
  | reset _ gauge => exact gauge
  | evicted _ gauge => exact gauge

/-- **Every change keeps a roster sound**, and only the replacement of the whole
membership changes what its members are compared with. -/
theorem Change.sound (hc : r.Change r' change) (h : r.Sound initial latest) :
    r'.Sound initial (change.or latest) := by
  have hboot : r.pool.bootstrap.Nodup := by
    rw [h.bootstrap_eq]
    exact eraseDups_nodup initial
  refine ⟨hc.bootstrap.trans h.bootstrap_eq, hc.stocked h.stocked, ?_, ?_, hc.gauge h.gauge⟩
  · -- Members that were left out leave no two of the others alike.
    rcases hc.members with ⟨-, hsub⟩ | hm | ⟨servers, -, hm⟩
    · exact h.members_nodup.sublist hsub
    · rw [hm]
      exact hboot
    · rw [hm]
      exact eraseDups_nodup servers
  · rw [hc.bootstrap]
    rcases hc.members with ⟨rfl, hsub⟩ | hm | ⟨servers, rfl, hm⟩
    · rcases h.members_sublist with hs | ⟨servers, hl, hs⟩
      · exact Or.inl (hsub.trans hs)
      · exact Or.inr ⟨servers, hl, hsub.trans hs⟩
    · rw [hm]
      exact Or.inl (List.Sublist.refl _)
    · rw [hm]
      exact Or.inr ⟨servers, rfl, List.Sublist.refl _⟩

/-- Counters aside, a change is the same. -/
theorem Change.congr {r₁ r₁' : Roster} (hc : r₁.Change r₁' change)
    (hpool : r₁.pool = r.pool) (hgauge : r₁.ledger.poolSize? = r.ledger.poolSize?)
    (hpool' : r'.pool = r₁'.pool) (hgauge' : r'.ledger.poolSize? = r₁'.ledger.poolSize?) :
    r.Change r' change := by
  cases hc with
  | kept members bootstrap gauge =>
    exact .kept (by rw [hpool', members, hpool]) (by rw [hpool', bootstrap, hpool])
      (hgauge'.trans (gauge.trans hgauge))
  | replaced pool gauge =>
    exact .replaced (by rw [hpool', pool, hpool]) (by rw [hgauge', gauge, hpool'])
  | reset pool gauge =>
    exact .reset (by rw [hpool', pool, hpool]) (by rw [hgauge', gauge, hpool'])
  | evicted pool gauge =>
    exact .evicted (by rw [hpool', pool, hpool]) (by rw [hgauge', gauge, hpool'])

theorem Change.refl (r : Roster) : r.Change r none := .kept rfl rfl rfl

theorem change_replace (r : Roster) (servers : List Server) :
    r.Change (r.replace servers) (some servers) := .replaced rfl rfl

theorem change_reset (r : Roster) : r.Change r.reset none := .reset rfl rfl

theorem change_evict (r : Roster) (server : Server) : r.Change (r.evict server).2 none := by
  unfold evict
  split
  · exact .evicted rfl rfl
  · exact .refl r

theorem change_advance (r : Roster) : r.Change { r with pool := r.pool.advance } none :=
  .kept rfl rfl rfl

end Roster

/-! ## What discovery changes -/

/-- The list that a result replaces the whole membership by. -/
def Discovery.Result.replacement? : Discovery.Result → Option (List Server)
  | .applied servers => some servers
  | _ => none

/-- The list that the end of work replaces the whole membership by. -/
def WorkResult.replacement? : WorkResult → Option (List Server)
  | .request _ => none
  | .discovery _ result => result.replacement?

theorem Discovery.Result.change_apply (result : Discovery.Result) (r : Roster) :
    r.Change (result.apply r) result.replacement? := by
  cases result with
  | applied servers => exact r.change_replace servers
  | unchanged => exact .refl r
  | evicted server => exact r.change_evict server
  | bootstrap => exact r.change_reset
  | clientGone => exact .refl r

namespace System

theorem change_conclude (s : System) (work : Work) (c : Client) (outcome : Outcome) :
    c.roster.Change (s.conclude work c outcome).1.roster
      (s.conclude work c outcome).2.replacement? := by
  cases work with
  | request action options => exact .refl _
  | discovery =>
    -- The run of discovery is counted last, which the size of the pool does not see.
    exact ((Discovery.Result.of s.scheme outcome).change_apply c.roster).congr rfl rfl rfl rfl

/-! ## One event -/

/-- The conclusions that an event comes to. -/
def endings (s : System) (e : Event) : List Conclusion :=
  (s.step e).concluded.take ((s.step e).concluded.length - s.concluded.length)

/-- The list that an iteration of discovery has found which ends with an event. -/
def found? (s : System) (e : Event) : Option (List Server) :=
  (s.endings e).findSome? fun c => c.result.replacement?

/-- The list that an event replaces the whole membership by, if it does: one that a
caller gives, or one that discovery has found. -/
def replacement? (s : System) : Event → Option (List Server)
  | .setServers addresses => (addresses.mapM Server.parse).toOption
  | .replaceServers servers => some servers
  | e => s.found? e

/-- The last list in a run that the whole membership was replaced by. -/
def lastReplacement? (s : System) : List Event → Option (List Server)
  | [] => none
  | e :: r => ((s.step e).lastReplacement? r).or (s.replacement? e)

theorem lastReplacement?_cons (s : System) (e : Event) (r : List Event) :
    s.lastReplacement? (e :: r) = ((s.step e).lastReplacement? r).or (s.replacement? e) := rfl

variable {s : System} {e : Event}

theorem endings_of_concluded (h : (s.step e).concluded = s.concluded) : s.endings e = [] := by
  unfold endings
  rw [h, Nat.sub_self, List.take_zero]

theorem endings_of_concluded_cons {c : Conclusion}
    (h : (s.step e).concluded = c :: s.concluded) : s.endings e = [c] := by
  unfold endings
  rw [h, List.length_cons, Nat.add_sub_cancel_left]
  rfl

/-- An event that ends nothing has found nothing. -/
theorem change_of_concluded (hc : (s.step e).concluded = s.concluded)
    (hr : s.client.roster.Change (s.step e).client.roster none) :
    s.client.roster.Change (s.step e).client.roster (s.found? e) := by
  unfold found?
  rw [endings_of_concluded hc]
  exact hr

/-- The step of a request is a change only where it ends an iteration of discovery. -/
theorem change_of_advance {s₁ : System} {o : Origin} {work : Work} {c : Client} {p : Progress}
    (he : s.step e = s₁.advance o work c p) (hconcluded : s₁.concluded = s.concluded)
    (hstep : s.client.Stepped c (Client.poolAfter s.client.roster.pool p)) :
    s.client.roster.Change (s.step e).client.roster (s.found? e) := by
  unfold found?
  cases p with
  | waiting f =>
    have hnone : s.endings e = [] :=
      endings_of_concluded (by rw [he, advance_waiting_concluded, hconcluded])
    rw [hnone, he, advance_waiting_client]
    exact .kept (by rw [hstep.pool_eq]; rfl) (by rw [hstep.pool_eq]; rfl) hstep.gauge
  | ended outcome =>
    have hone : s.endings e = [⟨o, (s₁.conclude work c outcome).2⟩] :=
      endings_of_concluded_cons (by rw [he, advance_ended_concluded, hconcluded])
    rw [hone, he, advance_ended_client, List.findSome?_singleton]
    exact (s₁.change_conclude work c outcome).congr hstep.pool_eq hstep.gauge rfl rfl

theorem change_of_actor {o : Origin} (hmembers : s.client.roster.pool.members ≠ [])
    (h : e.actor? = some o) :
    s.client.roster.Change (s.step e).client.roster (s.found? e) := by
  cases ownStep hmembers h with
  | idle same => exact change_of_concluded (by rw [same]) (by rw [same]; exact .refl _)
  | stepped step _ client _ => exact change_of_advance step rfl client

theorem step_nextServer (hmembers : s.client.roster.pool.members ≠ []) :
    s.step .nextServer =
      s.withRoster { s.client.roster with pool := s.client.roster.pool.advance } := by
  obtain ⟨server, hnext⟩ := Roster.next_of_members hmembers
  simp only [step, hnext]

/-- Every event is a change, by the list that it tells. -/
theorem change_step (hmembers : s.client.roster.pool.members ≠ []) (e : Event) :
    s.client.roster.Change (s.step e).client.roster (s.replacement? e) := by
  cases e with
  | begin id => exact change_of_actor hmembers rfl
  | wake => exact change_of_actor hmembers rfl
  | reply o reply => exact change_of_actor hmembers rfl
  | setServers addresses =>
    show s.client.roster.Change _ (addresses.mapM Server.parse).toOption
    simp only [step, Roster.replaceAll, Server.parseAll]
    cases addresses.mapM Server.parse with
    | error err => exact .refl _
    | ok named => exact .replaced (Pool.replace_distinct _ named) rfl
  | replaceServers servers => exact s.client.roster.change_replace servers
  | nextServer =>
    have hs := step_nextServer hmembers
    exact change_of_concluded (by rw [hs]; rfl) (by rw [hs]; exact s.client.roster.change_advance)
  | removeServer server => exact change_of_concluded rfl (s.client.roster.change_evict server)
  | resetServers => exact change_of_concluded rfl s.client.roster.change_reset
  | stop =>
    refine change_of_concluded ?_ ?_
    · simp only [step]; split <;> rfl
    · simp only [step]; split <;> exact .refl _
  | release call =>
    refine change_of_concluded ?_ ?_
    · simp only [step]; split <;> rfl
    · simp only [step]; split <;> exact .refl _
  | launch work => exact change_of_concluded rfl (.refl _)
  | shutdown => exact change_of_concluded rfl (.refl _)

/-- Work that is a request leaves the client as its last step has left it. -/
theorem advance_request_client (s : System) (o : Origin) (action : Action) (options : Options)
    (c : Client) (p : Progress) : (s.advance o (.request action options) c p).client = c := by
  cases p <;> exact setStage_client _ _ _

/-! ## All events -/

/-- A client never runs out of servers. -/
theorem run_stocked (events : List Event) :
    ∀ {s : System}, s.client.roster.pool.Stocked → (s.run events).client.roster.pool.Stocked := by
  induction events with
  | nil => intro s h; exact h
  | cons e r ih => intro s h; exact ih ((change_step h.members e).stocked h)

/-- What is true of a sound roster stays true of it over a run, with the last list that
took the place of the membership in between. -/
theorem run_sound {initial : List Server} (events : List Event) :
    ∀ {s : System} {latest : Option (List Server)}, s.client.roster.Sound initial latest →
      (s.run events).client.roster.Sound initial ((s.lastReplacement? events).or latest) := by
  induction events with
  | nil => intro s latest h; exact h
  | cons e r ih =>
    intro s latest h
    have hstep := ih ((change_step h.stocked.members e).sound h)
    rw [lastReplacement?_cons, Option.or_assoc]
    exact hstep

end System

/-! ## From the start -/

namespace Client

/-- A client that has just been built has the configured servers as its pool. -/
theorem build_sound {setup : Setup} {s₀ : System} (h : build setup = .ok s₀) :
    ∃ named, setup.config.servers.mapM Server.parse = .ok named ∧
      s₀.client.roster.Sound named none := by
  obtain ⟨servers, pool, retry, hservers, hpool, -, rfl⟩ := build_eq_ok h
  obtain ⟨-, named, hnamed, rfl⟩ := Config.bootstrapServers_eq_ok hservers
  obtain ⟨hne, rfl⟩ := Pool.ofServers?_eq_ok hpool
  rw [Server.distinct_distinct] at hne
  refine ⟨named, hnamed, ?_⟩
  rw [Server.distinct_distinct]
  exact ⟨Server.distinct_eq_eraseDups named, ⟨hne, hne⟩, Server.distinct_nodup named,
    Or.inl (List.Sublist.refl _), rfl⟩

theorem build_stocked {setup : Setup} {s₀ : System} (h : build setup = .ok s₀) :
    s₀.client.roster.pool.Stocked := by
  obtain ⟨_, -, h₀⟩ := build_sound h
  exact h₀.stocked

end Client

namespace System

/-- **The pool over a whole run.** At any time in the run of a client there are members,
none of them twice, and the bootstrap servers are the configured ones. The members are
some of those, or of the last list that took their place, in its order; when it does, they
are that list, without its duplicates. The gauge shows how many there are. No step of a
request changes them. Whoever asks for a server gets one: a caller, an open client at the
start of a request that can be encoded, and every request that is to be repeated. -/
theorem run_pool {setup : Client.Setup} {s₀ : System} (h : Client.build setup = .ok s₀)
    (events : List Event) :
    let s := s₀.run events
    let pool := s.client.roster.pool
    pool.members ≠ [] ∧ pool.members.Nodup ∧
    (∃ named, setup.config.servers.mapM Server.parse = .ok named ∧
      pool.bootstrap = named.eraseDups) ∧
    (pool.members.Sublist pool.bootstrap ∨
      ∃ servers, s₀.lastReplacement? events = some servers ∧
        pool.members.Sublist servers.eraseDups) ∧
    (∀ e servers, s.replacement? e = some servers →
      (s.step e).client.roster.pool.members =
        if servers = [] then pool.bootstrap else servers.eraseDups) ∧
    s.client.roster.ledger.report.lookup (seriesName "trellis_pool_size" []) =
      some pool.members.length ∧
    (∀ o action options, s.ready? o = some (.request action options) →
      (s.step o.start).client.roster.pool.members = pool.members) ∧
    (∀ o action options f reply, s.pending? o = some (.request action options, f) →
      (s.step (.reply o reply)).client.roster.pool.members = pool.members) ∧
    (∃ server roster, s.client.roster.next = .ok (server, roster)) ∧
    (∀ action options e, s.client.closed = false →
      Encoded.ofAction s.client.settings action options = .ok e →
      ∃ c f, s.client.start action options = (c, .waiting f)) ∧
    ∀ f reply, s.client.settings.retry.repeats f.attempts f.request reply = true →
      ∃ c f', s.client.resume f reply = (c, .waiting f') := by
  intro s pool
  obtain ⟨named, hnamed, h₀⟩ := Client.build_sound h
  have hs : s.client.roster.Sound named (s₀.lastReplacement? events) := by
    have hrun := run_sound events h₀
    rwa [Option.or_none] at hrun
  have hm : pool.members ≠ [] := hs.stocked.members
  refine ⟨hm, hs.members_nodup, ⟨named, hnamed, hs.bootstrap_eq⟩, hs.members_sublist, ?_,
    (Ledger.lookup_report_poolSize _).trans hs.gauge, ?_, ?_, ?_, ?_, ?_⟩
  · intro e servers hreplace
    have hc := change_step hm e
    rw [hreplace] at hc
    exact hc.members_of_replaced
  · intro o action options hready
    rw [step_start, begin_of_ready? hready, advance_request_client,
      (Client.start_stepped hm _ _).pool_eq]
    exact Client.poolAfter_members _ _
  · intro o action options f reply hpending
    show (s.takeReply o reply).client.roster.pool.members = _
    rw [takeReply_of_pending? hpending, advance_request_client,
      (Client.resume_stepped hm _ _).pool_eq]
    exact Client.poolAfter_members _ _
  · obtain ⟨server, hnext⟩ := Roster.next_of_members hm
    exact ⟨server, _, hnext⟩
  · intro action options e hopen he
    obtain ⟨server, hturn⟩ := Pool.exists_turn? hm 0
    obtain ⟨c, hdispatch, -⟩ := Client.dispatch_of_turn? hturn e action.interpret 0
    exact ⟨c, _, (Client.start_of_ok hopen he).trans hdispatch⟩
  · intro f reply hrep
    obtain ⟨server, hturn⟩ := Pool.exists_turn? hm 0
    obtain ⟨c, hresume, -⟩ := Client.resume_of_turn? hrep hturn
    exact ⟨c, _, hresume⟩

/-- The first request of a client, one of whose two servers is taken out while the
request waits. -/
theorem run_pool_evicted_midway :
    let events : List Event :=
      [.launch (.request ping {}), .begin 0, .removeServer ⟨"http://[::1]:9200"⟩,
        .reply (.task 0) (.error ⟨.connectRefused, "http://[::1]:9200/", "refused"⟩)]
    ∃ s₀, Client.build { config := .withServers ["[::1]:9200", "http://[::2]:9200"] } = .ok s₀ ∧
      (s₀.run events).client.roster.pool.members ≠ [] ∧
      (s₀.run events).client.roster.pool.bootstrap =
        [⟨"http://[::1]:9200"⟩, ⟨"http://[::2]:9200"⟩] := by
  intro events
  have hnamed : ["[::1]:9200", "http://[::2]:9200"].mapM Server.parse =
      .ok [⟨"http://[::1]:9200"⟩, ⟨"http://[::2]:9200"⟩] := rfl
  obtain ⟨s₀, hbuild⟩ :
      ∃ s₀, Client.build { config := .withServers ["[::1]:9200", "http://[::2]:9200"] } = .ok s₀ :=
    ⟨_, rfl⟩
  obtain ⟨hmembers, -, ⟨named, hparse, hboot⟩, -⟩ := run_pool hbuild events
  obtain rfl : _ = named := Except.ok.inj (hnamed.symm.trans hparse)
  exact ⟨s₀, hbuild, hmembers, hboot⟩

end System

end Failover
