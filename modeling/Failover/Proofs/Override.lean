import Failover.Command.Run
import Failover.Proofs.Buildable

/-!
# Servers on the command line

The servers of a command line take the place of those in the configuration file, but not
before the file has been checked as it stands. So the servers of the file go without a trace
only if they are usable: then two files that differ in nothing else give the same
configuration, or the same trouble. Servers that are not usable spoil the file, though
nobody would ever have asked them (`Invocation.configuration_of_unusable`).

The check looks at the servers first and at nothing else together with them
(`Config.check_eq`), so what they can do to an outcome is told by what is wrong with them
(`Config.serversFault?`), and two files give the same outcome exactly if that is the same
for both.
-/

namespace Failover

namespace Config

/-! ## What a file writes -/

/-- The configuration that a file writes, usable or not. -/
def written? (files : Files) (path : String) : Option Config :=
  match files path with
  | .error _ => none
  | .ok bytes =>
    (Text.Utf8.decode? bytes).bind fun cs =>
      match extension? path with
      | some "yaml" | some "yml" => readYaml? (String.ofList cs)
      | some "toml" | none => readToml? (String.ofList cs)
      | some _ => none

/-- What is wrong with the servers of a configuration. -/
def serversFault? (c : Config) : Option ClientError :=
  match c.bootstrapServers with
  | .ok _ => none
  | .error e => some e

/-- The part of the check that does not look at the servers. -/
def checkSettings (c : Config) : Except ClientError Unit := do
  if c.password.isSome ∧ c.username.isNone then throw (.config .passwordAlone)
  if c.discovery.enabled ∧ c.discovery.interval = 0 then throw (.config .noInterval)
  if !isSchemeText c.discovery.defaultScheme then
    throw (.config (.scheme c.discovery.defaultScheme))

variable {c : Config} {files : Files} {path : String}

theorem ofToml_of_readToml? {text : String} (h : readToml? text = some c) :
    ofToml text = c.checked := by
  unfold ofToml
  rw [h]

theorem ofYaml_of_readYaml? {text : String} (h : readYaml? text = some c) :
    ofYaml text = c.checked := by
  unfold ofYaml
  rw [h]

/-- A file is loaded by checking what it writes. -/
theorem load_of_written? (h : written? files path = some c) : load files path = c.checked := by
  unfold written? at h
  unfold load
  split at h
  · cases h
  next bytes hbytes =>
    simp only [hbytes, Except.mapError, bind, Except.bind]
    cases hdecode : Text.Utf8.decode? bytes with
    | none => rw [hdecode] at h; cases h
    | some cs =>
      rw [hdecode, Option.bind_some] at h
      show ofText path (String.ofList cs) = c.checked
      split at h
      next hextension => unfold ofText; rw [hextension]; exact ofYaml_of_readYaml? h
      next hextension => unfold ofText; rw [hextension]; exact ofYaml_of_readYaml? h
      next hextension => unfold ofText; rw [hextension]; exact ofToml_of_readToml? h
      next hextension => unfold ofText; rw [hextension]; exact ofToml_of_readToml? h
      · cases h

theorem check_eq (c : Config) :
    c.check = match c.serversFault? with
      | some e => .error e
      | none => c.checkSettings := by
  unfold check serversFault?
  cases c.bootstrapServers <;> rfl

/-- Servers are refused because there are none or because an address is none. -/
theorem serversFault?_eq_some {e : ClientError} (h : c.serversFault? = some e) :
    e = .config .noServers ∨ ∃ reason, e = .invalidServer reason := by
  unfold serversFault? bootstrapServers at h
  split at h
  · cases h
  next he =>
    cases h
    split at he
    · cases he
      exact .inr ⟨_, rfl⟩
    · cases he
      exact .inl rfl
    · cases he

/-- What else can be refused has nothing to do with servers. -/
theorem checkSettings_cases (c : Config) :
    c.checkSettings = .ok () ∨ ∃ fault, c.checkSettings = .error (.config fault) ∧
      fault ≠ .noServers := by
  unfold checkSettings
  simp only [bind, Except.bind, throw, throwThe, MonadExceptOf.throw, pure, Except.pure]
  split
  next => exact .inr ⟨.passwordAlone, rfl, by simp⟩
  next =>
    split
    next => exact .inr ⟨.noInterval, rfl, by simp⟩
    next =>
      split
      next => exact .inr ⟨.scheme c.discovery.defaultScheme, rfl, by simp⟩
      next => exact .inl rfl

/-- A configuration whose servers are refused is refused differently from one whose servers
are not. -/
theorem check_ne_of_serversFault? {d : Config} {e : ClientError}
    (h : c.serversFault? = some e) (hd : d.serversFault? = none) : c.check ≠ d.check := by
  rw [check_eq c, check_eq d, h, hd]
  rcases checkSettings_cases d with hok | ⟨fault, herror, hne⟩
  · simp [hok]
  · simp only [herror]
    rcases serversFault?_eq_some h with rfl | ⟨reason, rfl⟩
    · simpa using hne.symm
    · simp

end Config

/-! ## What an invocation makes of it -/

namespace Command.Invocation

open Config (written?)

variable {i : Invocation} {path : String} {files files' : Config.Files} {c : Config}

/-- The servers are those of the command line, and so is the number of attempts if it says
one. -/
def override (i : Invocation) (c : Config) : Config :=
  { c with
    servers := i.servers
    retry := { c.retry with maxAttempts := i.maxAttempts.getD c.retry.maxAttempts } }

theorem adjust_of_servers (hservers : i.servers ≠ []) (c : Config) :
    i.adjust c = i.override c := by
  have hempty : i.servers.isEmpty = false := by simpa using hservers
  simp only [adjust, override, hempty, Bool.false_eq_true, if_false]

/-- A file that can be read is checked as it stands. -/
theorem configuration_of_written? (hpath : i.config = some path) (hservers : i.servers ≠ [])
    (hc : written? files path = some c) :
    i.configuration files = match c.check with
      | .ok _ => .ok (i.override c)
      | .error e => .error (.configuration path e) := by
  unfold configuration
  simp only [hpath, Config.load_of_written? hc, Config.checked]
  cases c.check with
  | ok u => simp only [Except.map, adjust_of_servers hservers]
  | error e => rfl

/-- Servers that are not usable spoil their file, whatever the command line says. -/
theorem configuration_of_unusable (hpath : i.config = some path)
    (hc : written? files path = some c) {e : ClientError} (he : c.serversFault? = some e) :
    i.configuration files = .error (.configuration path e) := by
  unfold configuration
  simp only [hpath, Config.load_of_written? hc, Config.checked, Config.check_eq, he, Except.map]

/-- **Servers of the command line and servers of the file.** Two files differ in their servers
only, and the command line names servers too. Both give the same outcome exactly if the
servers of both files are usable, or are refused with the same error. Where there is a
configuration it has the servers of the command line; and where the servers of a file are
refused there is none. -/
theorem override_servers (hpath : i.config = some path) (hservers : i.servers ≠ [])
    {servers : List String} (hc : written? files path = some c)
    (hc' : written? files' path = some { c with servers }) :
    (i.configuration files' = i.configuration files ↔
        Config.serversFault? { c with servers } = c.serversFault?) ∧
      (∀ d, i.configuration files = .ok d → d = i.override c) ∧
      ∀ e, c.serversFault? = some e → i.configuration files = .error (.configuration path e) := by
  have hchecked := configuration_of_written? hpath hservers hc
  have hchecked' := configuration_of_written? hpath hservers hc'
  have hoverride : i.override { c with servers } = i.override c := rfl
  have hsettings : Config.checkSettings { c with servers } = c.checkSettings := rfl
  refine ⟨⟨fun hsame => ?_, fun hfault => ?_⟩, fun d hd => ?_, fun e he => ?_⟩
  · -- The outcome tells what the check came to.
    have hcheck : Config.check { c with servers } = c.check := by
      rw [hchecked, hchecked', hoverride] at hsame
      cases h : c.check <;> cases h' : Config.check { c with servers } <;>
        simp_all
    cases hf : c.serversFault? with
    | none =>
      cases hf' : Config.serversFault? { c with servers } with
      | none => rfl
      | some e => exact absurd hcheck (Config.check_ne_of_serversFault? hf' hf)
    | some e =>
      cases hf' : Config.serversFault? { c with servers } with
      | none => exact absurd hcheck.symm (Config.check_ne_of_serversFault? hf hf')
      | some e' =>
        rw [Config.check_eq, Config.check_eq c, hf, hf'] at hcheck
        exact congrArg some (Except.error.inj hcheck)
  · rw [hchecked, hchecked', hoverride, Config.check_eq, Config.check_eq c, hfault, hsettings]
  · rw [hchecked] at hd
    split at hd
    · cases hd; rfl
    · cases hd
  · exact configuration_of_unusable hpath hc he

/-- A directory with one file. -/
def fileWith (text : String) : Config.Files :=
  Config.filesOf [("trellis", Text.Utf8.encode text.toList)]

/-- A ping of one server, with a configuration file besides. -/
def pingOf (server : String) : Invocation :=
  { config := some "trellis", servers := [server], maxAttempts := some 2, task := .ping }

/-- Two files with one server each, and another server on the command line. -/
theorem override_servers_usable :
    (pingOf "[::3]").configuration (fileWith "servers=['[::2]']") =
        (pingOf "[::3]").configuration (fileWith "servers=['[::1]']") ∧
      ∃ d, (pingOf "[::3]").configuration (fileWith "servers=['[::1]']") = .ok d ∧
        d.servers = ["[::3]"] := by
  have hpath : (pingOf "[::3]").config = some "trellis" := rfl
  have hservers : (pingOf "[::3]").servers ≠ [] := by decide
  have hc : written? (fileWith "servers=['[::1]']") "trellis" =
      some { servers := ["[::1]"] } := by decide +kernel
  have hc' : written? (fileWith "servers=['[::2]']") "trellis" =
      some { servers := ["[::2]"] } := by decide +kernel
  obtain ⟨hsame, hoverride, -⟩ := override_servers hpath hservers hc hc'
  refine ⟨hsame.2 rfl, ?_⟩
  have hcheck : Config.check { servers := ["[::1]"] } = .ok () := rfl
  refine ⟨(pingOf "[::3]").override { servers := ["[::1]"] }, ?_, rfl⟩
  rw [configuration_of_written? hpath hservers hc, hcheck]

/-- With a file that says nothing there is no client, though the command line names a server:
the outcome is not that with a file which names another server. -/
theorem override_servers_missing :
    ¬ ∀ (i : Invocation) (path : String) (files files' : Config.Files) (c : Config)
        (servers : List String), i.config = some path → i.servers ≠ [] →
        written? files path = some c → written? files' path = some { c with servers } →
        i.configuration files' = i.configuration files := by
  intro hclaim
  have hempty : written? (fileWith "") "trellis" = some {} := by decide +kernel
  have hnamed : written? (fileWith "servers=['[::1]']") "trellis" =
      some { servers := ["[::1]"] } := by decide +kernel
  have hsame := hclaim (pingOf "[::3]") "trellis" (fileWith "") (fileWith "servers=['[::1]']") {}
    ["[::1]"] rfl (by decide) hempty hnamed
  have hfault : Config.serversFault? {} = some (.config .noServers) := rfl
  have hcheck : Config.check { servers := ["[::1]"] } = .ok () := rfl
  rw [configuration_of_unusable rfl hempty hfault,
    configuration_of_written? rfl (by decide) hnamed, hcheck] at hsame
  cases hsame

end Command.Invocation

end Failover
