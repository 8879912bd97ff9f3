import Failover.Client.System

/-!
# Building a client

A client is built from a configuration, perhaps with another retry policy than the
configured one. The configuration is checked first; after that nothing can fail
but the absence of anything to run tasks on.

Building leaves traces: the size of the pool is written down when there is a pool, and a
background task is started when there is a client. What was done is not taken back when a
later step fails, so a `Building` carries its `Traces` beside the result.
-/

namespace Failover.Client

/-- What stands beside a configuration when a client is built. -/
structure Setup where
  config : Config
  /-- A policy in place of the configured one. -/
  retry : Option RetryPolicy := none
  /-- There is something to run tasks on. -/
  hasRuntime : Bool := true
  /-- What compresses bodies. -/
  gzip : Bytes → Bytes := Gzip.compress

/-- The retry policy of a setup. -/
def Setup.policy (s : Setup) : Except ClientError RetryPolicy :=
  match s.retry with
  | some retry => .ok retry
  | none => (s.config.retry.policy.map Retry.toPolicy).mapError fun e => .config (.retry e)

/-- What is done while a client is built, whether or not there is one in the end. -/
structure Traces where
  /-- What is written down. -/
  ledger : Ledger := []
  /-- The number of background tasks that are started. -/
  started : Nat := 0
  deriving DecidableEq

/-- Steps that may fail, and that leave their traces all the same. -/
abbrev Building := ExceptT ClientError (StateM Traces)

namespace Building

variable {α : Type}

/-- A step without traces. -/
def ofExcept (result : Except ClientError α) : Building α := ExceptT.mk (pure result)

/-- The size of a pool is written down. -/
def noteSize (p : Pool) : Building Unit :=
  modify fun t => { t with ledger := t.ledger.record (.poolSize p.size) }

/-- A background task is started, if there is to be one. -/
def startTask (wanted : Bool) : Building Unit :=
  modify fun t => { t with started := if wanted then t.started + 1 else t.started }

/-- What steps come to, with the traces of earlier ones. -/
def outcome (b : Building α) (t : Traces) : Except ClientError α × Traces :=
  Id.run (StateT.run (ExceptT.run b) t)

section Outcome

variable {β : Type} (t : Traces)

@[simp] theorem outcome_pure (a : α) : outcome (pure a) t = (.ok a, t) := rfl

@[simp] theorem outcome_get : outcome get t = (.ok t, t) := rfl

@[simp] theorem outcome_ofExcept (result : Except ClientError α) :
    outcome (ofExcept result) t = (result, t) := rfl

@[simp] theorem outcome_noteSize (p : Pool) :
    outcome (noteSize p) t = (.ok (), { t with ledger := t.ledger.record (.poolSize p.size) }) :=
  rfl

@[simp] theorem outcome_startTask (wanted : Bool) :
    outcome (startTask wanted) t =
      (.ok (), { t with started := if wanted then t.started + 1 else t.started }) := rfl

/-- A step that fails is the last, and its traces stay. -/
@[simp] theorem outcome_bind (b : Building α) (f : α → Building β) :
    outcome (b >>= f) t =
      match outcome b t with
      | (.ok a, t) => outcome (f a) t
      | (.error e, t) => (.error e, t) := by
  unfold outcome
  simp only [bind, ExceptT.bind, ExceptT.mk, ExceptT.run, StateT.run, StateT.bind, Id.run]
  rcases b t with ⟨_ | a, t'⟩ <;> rfl

end Outcome

end Building

/-- Builds a client, and starts its background task if it is to have one. -/
def construct (s : Setup) : Building System := do
  .ofExcept s.config.check
  if !s.hasRuntime then throw (.config .noRuntime)
  let servers ← .ofExcept s.config.bootstrapServers
  let pool ← .ofExcept ((Pool.ofServers? servers).mapError ClientError.config)
  Building.noteSize pool
  let retry ← .ofExcept s.policy
  let settings : Settings :=
    { retry
      defaultHeaders := s.config.defaultHeaders
      credentials := s.config.credentials
      compression := s.config.requestCompression
      gzip := s.gzip }
  let traces ← get
  Building.startTask s.config.discovery.enabled
  return {
    client := { settings, roster := ⟨pool, traces.ledger⟩ }
    filter := s.config.discovery.filter
    scheme := s.config.discovery.defaultScheme
    background := if s.config.discovery.enabled then .sleeping else .ended
    hasHandle := s.config.discovery.enabled }

/-- Builds a client before anything else is done. -/
def build (s : Setup) : Except ClientError System :=
  ((construct s).outcome {}).1

end Failover.Client
