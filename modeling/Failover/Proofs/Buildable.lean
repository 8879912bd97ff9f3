import Failover.Config.File
import Failover.Proofs.Build

/-!
# Which clients can be built

`Config.check` looks at a configuration before anything else is done, and it is meant to be
the last word: whatever it lets pass can be built, though the pool and the retry policy are
made later and by functions that refuse things of their own accord. They refuse nothing
that is left by then. The servers that passed the check are distinct and not none
(`Config.ofServers?_bootstrapServers`), and the settings of retries make a policy whatever
they are (`RetrySettings.policy_again`).

So a build either stops at the check and leaves no traces, or goes through to the end and
leaves all of them (`Client.Built`). Whatever was read from a text or a file has been
checked (`Config.Loaded.check`).
-/

namespace Failover

/-! ## Configurations that were read -/

/-- The configuration was read from a text or loaded from a file. -/
inductive Config.Loaded (c : Config) : Prop where
  | toml {text : String} (read : ofToml text = .ok c)
  | yaml {text : String} (read : ofYaml text = .ok c)
  | file {files : Files} {path : String} (loaded : load files path = .ok c)

namespace Config

variable {c d : Config}

theorem checked_eq_ok (h : c.checked = .ok d) : d = c ∧ c.check = .ok () := by
  unfold checked at h
  cases hcheck : c.check with
  | ok u =>
    rw [hcheck] at h
    cases h
    exact ⟨rfl, rfl⟩
  | error e =>
    rw [hcheck] at h
    cases h

theorem check_of_ofToml {text : String} (h : ofToml text = .ok c) : c.check = .ok () := by
  unfold ofToml at h
  split at h
  · cases h
  · obtain ⟨rfl, hcheck⟩ := checked_eq_ok h
    exact hcheck

theorem check_of_ofYaml {text : String} (h : ofYaml text = .ok c) : c.check = .ok () := by
  unfold ofYaml at h
  split at h
  · cases h
  · obtain ⟨rfl, hcheck⟩ := checked_eq_ok h
    exact hcheck

theorem check_of_ofText {path text : String} (h : ofText path text = .ok c) :
    c.check = .ok () := by
  unfold ofText at h
  split at h
  · exact check_of_ofYaml h
  · exact check_of_ofYaml h
  · exact check_of_ofToml h
  · exact check_of_ofToml h
  · cases h

theorem check_of_load {files : Files} {path : String} (h : load files path = .ok c) :
    c.check = .ok () := by
  unfold load at h
  cases hfile : files path with
  | error f =>
    rw [hfile] at h
    cases h
  | ok bytes =>
    simp only [hfile, Except.mapError, bind, Except.bind] at h
    split at h
    · exact check_of_ofText h
    · cases h

theorem Loaded.check (h : c.Loaded) : c.check = .ok () := by
  cases h with
  | toml read => exact check_of_ofToml read
  | yaml read => exact check_of_ofYaml read
  | file loaded => exact check_of_load loaded

end Config

/-! ## Builds -/

namespace Client

/-- What a build has left that came to a client: the first traces are those from before it,
the second those from after it. -/
structure Built (setup : Setup) (before : Traces) (s₀ : System) (after : Traces) : Prop where
  /-- The pool goes back to the configured servers, -/
  bootstrap : setup.config.bootstrapServers = .ok s₀.client.roster.pool.bootstrap
  /-- and begins with them. -/
  members : setup.config.bootstrapServers = .ok s₀.client.roster.pool.members
  /-- Their number is written down, and nothing else. -/
  ledger : after.ledger = .poolSize s₀.client.roster.pool.size :: before.ledger
  /-- The client writes on where the build has left off. -/
  continued : s₀.client.roster.ledger = after.ledger
  /-- A background task was started where discovery is wanted, and only there; -/
  started : after.started = before.started + if setup.config.discovery.enabled then 1 else 0
  /-- and it is there now. -/
  running : s₀.isDiscoveryRunning = setup.config.discovery.enabled

variable {setup : Setup}

theorem construct_built (h : setup.config.check = .ok ()) (hruntime : setup.hasRuntime = true)
    (t : Traces) :
    ∃ s₀ t', (construct setup).outcome t = (.ok s₀, t') ∧ Built setup t s₀ t' := by
  obtain ⟨servers, retry, hservers, -, -, hconstruct⟩ := construct_of_check h hruntime t
  refine ⟨_, _, hconstruct, ?_⟩
  constructor
  · exact hservers
  · exact hservers
  · rfl
  · rfl
  · dsimp only
    split <;> rfl
  · unfold System.isDiscoveryRunning
    cases setup.config.discovery.enabled <;> rfl

theorem build_of_check (h : setup.config.check = .ok ()) (hruntime : setup.hasRuntime = true) :
    ∃ s₀, build setup = .ok s₀ := by
  obtain ⟨s₀, t', hconstruct, -⟩ := construct_built h hruntime {}
  exact ⟨s₀, congrArg Prod.fst hconstruct⟩

/-- **The check of a configuration decides whether a client can be built.** Where there is
something to run tasks on, a build comes to a client exactly if the configuration passes. If
it does not, the error is that of the check and the build leaves no traces. If it does,
neither the pool nor the policy of retries fails afterwards, and the traces are those of
`Built`. A configuration that was read from a text or a file always passes. -/
theorem build_decided (setup : Setup) (hruntime : setup.hasRuntime = true) :
    ((∃ s₀, build setup = .ok s₀) ↔ setup.config.check = .ok ()) ∧
      (∀ e, setup.config.check = .error e →
        ∀ t, (construct setup).outcome t = (.error e, t)) ∧
      (setup.config.check = .ok () →
        (∃ servers pool, setup.config.bootstrapServers = .ok servers ∧
          Pool.ofServers? servers = .ok pool) ∧
        (∀ retry : RetrySettings, ∃ policy, retry.policy = .ok policy) ∧
        ∀ t, ∃ s₀ t', (construct setup).outcome t = (.ok s₀, t') ∧ Built setup t s₀ t') ∧
      ∀ c : Config, c.Loaded →
        c.check = .ok () ∧ ∀ retry, ∃ s₀, build { config := c, retry } = .ok s₀ := by
  refine ⟨⟨?_, ?_⟩, ?_, ?_, ?_⟩
  · rintro ⟨s₀, hbuild⟩
    exact check_of_build hbuild
  · intro hcheck
    exact build_of_check hcheck hruntime
  · intro e hcheck t
    exact construct_of_error hcheck t
  · intro hcheck
    obtain ⟨servers, hservers⟩ := Config.bootstrapServers_of_check hcheck
    refine ⟨⟨servers, _, hservers, Config.ofServers?_bootstrapServers hservers⟩, ?_, ?_⟩
    · intro retry
      obtain ⟨policy, hpolicy, -⟩ := retry.policy_again
      exact ⟨policy, hpolicy⟩
    · exact construct_built hcheck hruntime
  · intro c hloaded
    refine ⟨hloaded.check, fun retry => ?_⟩
    have hcheck : ({ config := c, retry } : Setup).config.check = .ok () := hloaded.check
    exact build_of_check hcheck rfl

/-- A setup with three addresses of two servers. -/
def Setup.ofThreeAddresses : Setup :=
  { config :=
      { servers := ["[::1]:9200", "http://[::1]:9200/", "[::2]"]
        discovery := { enabled := true }
        retry := { maxAttempts := 3 } } }

/-- It passes the check, so a client of two servers is built from it and discovery begins. -/
theorem build_decided_three_addresses :
    Setup.ofThreeAddresses.hasRuntime = true ∧
      ∃ s₀ t', (construct .ofThreeAddresses).outcome {} = (.ok s₀, t') ∧
        t' = { ledger := [.poolSize 2], started := 1 } ∧ s₀.isDiscoveryRunning = true := by
  obtain ⟨-, -, hbuilt, -⟩ := build_decided .ofThreeAddresses rfl
  obtain ⟨-, -, hconstruct⟩ := hbuilt rfl
  obtain ⟨s₀, ⟨ledger, started⟩, h, built⟩ := hconstruct {}
  refine ⟨rfl, s₀, _, h, ?_, built.running⟩
  have hservers : Config.bootstrapServers Setup.ofThreeAddresses.config =
      .ok [⟨"http://[::1]:9200"⟩, ⟨"http://[::2]"⟩] := rfl
  have hmembers := Except.ok.inj (built.members.symm.trans hservers)
  have hledger := built.ledger
  rw [Pool.size, hmembers] at hledger
  rw [Traces.mk.injEq]
  exact ⟨hledger, built.started⟩

end Client

end Failover
