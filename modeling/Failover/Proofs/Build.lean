import Failover.Client.Build
import Failover.Proofs.Attempts

/-!
# What a client is that was built

Building a client checks a number of things one after the other, and all of them have
been found in order when there is a client. `Client.build_eq_ok` says so once, with the
client in full, so that no other proof has to go through the checks again: the pool is
the one made of the configured servers, no task has been launched and the logs are empty.
-/

namespace Failover

theorem Config.bootstrapServers_eq_ok {c : Config} {servers : List Server}
    (h : c.bootstrapServers = .ok servers) :
    servers ≠ [] ∧ ∃ named, c.servers.mapM Server.parse = .ok named ∧
      servers = Server.distinct named := by
  unfold bootstrapServers at h
  split at h
  · cases h
  · cases h
  next l hne hp =>
    cases h
    exact ⟨hne, Server.parseAll_eq_ok hp⟩

theorem Pool.ofServers?_eq_ok {servers : List Server} {p : Pool}
    (h : ofServers? servers = .ok p) :
    Server.distinct servers ≠ [] ∧ p = ⟨Server.distinct servers, Server.distinct servers, 0⟩ := by
  simp only [ofServers?] at h
  split at h
  · cases h
  next hne =>
    cases h
    exact ⟨by simpa using hne, rfl⟩

/-- A pool takes the configured servers as they are: none of them is there twice. -/
theorem Config.ofServers?_bootstrapServers {c : Config} {servers : List Server}
    (h : c.bootstrapServers = .ok servers) :
    Pool.ofServers? servers = .ok ⟨servers, servers, 0⟩ := by
  obtain ⟨hne, named, -, rfl⟩ := bootstrapServers_eq_ok h
  unfold Pool.ofServers?
  rw [Server.distinct_distinct]
  exact if_neg (by simpa using hne)

theorem Config.bootstrapServers_of_check {c : Config} (h : c.check = .ok ()) :
    ∃ servers, c.bootstrapServers = .ok servers := by
  unfold check at h
  cases hservers : c.bootstrapServers with
  | ok servers => exact ⟨servers, rfl⟩
  | error e =>
    rw [hservers] at h
    cases h

theorem Client.Setup.exists_policy (s : Client.Setup) : ∃ retry, s.policy = .ok retry := by
  unfold policy
  split
  · exact ⟨_, rfl⟩
  · obtain ⟨retry, h, -⟩ := s.config.retry.policy_again
    rw [h]
    exact ⟨_, rfl⟩

/-- Iterations of discovery that follow one another at once are refused. -/
theorem Config.interval_ne_zero_of_check {c : Config} (h : c.check = .ok ())
    (henabled : c.discovery.enabled = true) : c.discovery.interval ≠ 0 := by
  intro hzero
  unfold check at h
  simp only [bind, Except.bind, throw, throwThe, MonadExceptOf.throw, henabled, hzero,
    and_self, if_true] at h
  split at h
  · cases h
  · split at h <;> cases h

namespace Client

variable {setup : Setup} {s₀ : System}

theorem construct_of_error {e : ClientError} (h : setup.config.check = .error e) (t : Traces) :
    (construct setup).outcome t = (.error e, t) := by
  unfold construct
  rw [Building.outcome_bind, Building.outcome_ofExcept, h]

theorem construct_of_not_hasRuntime (h : setup.config.check = .ok ())
    (hruntime : setup.hasRuntime = false) (t : Traces) :
    (construct setup).outcome t = (.error (.config .noRuntime), t) := by
  unfold construct
  rw [Building.outcome_bind, Building.outcome_ofExcept, h, hruntime]
  rfl

/-- No step after the check fails where there is something to run tasks on. -/
theorem construct_of_check (h : setup.config.check = .ok ()) (hruntime : setup.hasRuntime = true)
    (t : Traces) :
    ∃ servers retry, setup.config.bootstrapServers = .ok servers ∧
      Pool.ofServers? servers = .ok ⟨servers, servers, 0⟩ ∧ setup.policy = .ok retry ∧
      (construct setup).outcome t =
        (.ok
          { client :=
              { settings :=
                  { retry
                    defaultHeaders := setup.config.defaultHeaders
                    credentials := setup.config.credentials
                    compression := setup.config.requestCompression
                    gzip := setup.gzip }
                roster := ⟨⟨servers, servers, 0⟩, .poolSize servers.length :: t.ledger⟩ }
            filter := setup.config.discovery.filter
            scheme := setup.config.discovery.defaultScheme
            background := if setup.config.discovery.enabled then .sleeping else .ended
            hasHandle := setup.config.discovery.enabled },
          { ledger := .poolSize servers.length :: t.ledger
            started := if setup.config.discovery.enabled then t.started + 1 else t.started }) := by
  obtain ⟨servers, hservers⟩ := Config.bootstrapServers_of_check h
  have hpool := Config.ofServers?_bootstrapServers hservers
  obtain ⟨retry, hretry⟩ := setup.exists_policy
  refine ⟨servers, retry, hservers, hpool, hretry, ?_⟩
  unfold construct
  simp only [Building.outcome_bind, Building.outcome_ofExcept, Building.outcome_noteSize,
    Building.outcome_get, Building.outcome_startTask, Building.outcome_pure, h, hruntime,
    hservers, hpool, hretry, Except.mapError, Bool.not_true, Bool.false_eq_true, if_false]
  rfl

theorem check_of_build (h : build setup = .ok s₀) : setup.config.check = .ok () := by
  cases hcheck : setup.config.check with
  | ok u => rfl
  | error e =>
    rw [build, construct_of_error hcheck] at h
    cases h

theorem interval_pos_of_build (h : build setup = .ok s₀)
    (henabled : setup.config.discovery.enabled = true) :
    0 < setup.config.discovery.interval.toNat := by
  have hne := Config.interval_ne_zero_of_check (check_of_build h) henabled
  rw [Nat.pos_iff_ne_zero]
  exact fun hzero => hne (UInt64.toNat_inj.1 hzero)

/-- What a client is that was built. -/
theorem build_eq_ok (h : build setup = .ok s₀) :
    ∃ servers pool retry, setup.config.bootstrapServers = .ok servers ∧
      Pool.ofServers? servers = .ok pool ∧ setup.policy = .ok retry ∧
      s₀ =
        { client :=
            { settings :=
                { retry
                  defaultHeaders := setup.config.defaultHeaders
                  credentials := setup.config.credentials
                  compression := setup.config.requestCompression
                  gzip := setup.gzip }
              roster := .start pool }
          filter := setup.config.discovery.filter
          scheme := setup.config.discovery.defaultScheme
          background := if setup.config.discovery.enabled then .sleeping else .ended
          hasHandle := setup.config.discovery.enabled } := by
  have hcheck := check_of_build h
  cases hruntime : setup.hasRuntime with
  | false =>
    rw [build, construct_of_not_hasRuntime hcheck hruntime] at h
    cases h
  | true =>
    obtain ⟨servers, retry, hservers, hpool, hretry, hconstruct⟩ :=
      construct_of_check hcheck hruntime {}
    rw [build, hconstruct] at h
    cases h
    exact ⟨servers, _, retry, hservers, hpool, hretry, rfl⟩

end Client

end Failover
