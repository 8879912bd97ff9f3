import Failover.Proofs.Build
import Failover.Proofs.Run

/-!
# A client with its passwords masked

Whatever holds a password can have it masked: that there is one stays, which one it is goes
(`masked`, one definition for each kind of thing that credentials get into, from the
configuration to the request on the wire). Masking goes through everything that a client
does. A step that is made with masked passwords ends where the step with the real ones
ends, with that masked (`System.masked_step`). So nothing that a step decides can hang on a
password.

There is one place where a password is handed to somebody who could look at it: a retry
policy is given the request that failed. The policies at hand do not look
(`Retry.blind_toPolicy`); of one that a caller brings it has to be said
(`RetryPolicy.Blind`).
-/

namespace Failover

/-! ## Masks -/

/-- That there is a password, and not which. -/
def maskedPassword (password : Option String) : Option String := password.map fun _ => ""

def Credentials.masked (c : Credentials) : Credentials :=
  { c with password := maskedPassword c.password }

def Config.masked (c : Config) : Config := { c with password := maskedPassword c.password }

def Options.masked (o : Options) : Options :=
  { o with credentials := o.credentials.map Credentials.masked }

def Request.masked (r : Request) : Request :=
  { r with credentials := r.credentials.map Credentials.masked }

def Settings.masked (s : Settings) : Settings :=
  { s with credentials := s.credentials.map Credentials.masked }

def Encoded.masked (e : Encoded) : Encoded :=
  { e with credentials := e.credentials.map Credentials.masked }

def Flight.masked (f : Flight) : Flight := { f with encoded := f.encoded.masked }

def Progress.masked : Progress → Progress
  | waiting f => waiting f.masked
  | ended outcome => ended outcome

def Work.masked : Work → Work
  | request action options => request action options.masked
  | discovery => discovery

def Stage.masked : Stage → Stage
  | fresh => fresh
  | waiting f => waiting f.masked
  | done result => done result

def Task.masked (t : Task) : Task := ⟨t.work.masked, t.stage.masked⟩

def Background.masked : Background → Background
  | sleeping => sleeping
  | asking f => asking f.masked
  | ended => ended

def Dispatch.masked (d : Dispatch) : Dispatch := { d with request := d.request.masked }

def Receipt.masked (r : Receipt) : Receipt := { r with request := r.request.masked }

def Client.masked (c : Client) : Client := { c with settings := c.settings.masked }

def Client.Setup.masked (s : Client.Setup) : Client.Setup := { s with config := s.config.masked }

def System.masked (s : System) : System :=
  { s with
    client := s.client.masked
    tasks := s.tasks.map Task.masked
    background := s.background.masked
    dispatched := s.dispatched.map Dispatch.masked
    received := s.received.map Receipt.masked
    abandoned := s.abandoned.map Request.masked }

def Event.masked : Event → Event
  | launch work => launch work.masked
  | e => e

/-- The policy does not look at passwords. -/
def RetryPolicy.Blind (p : RetryPolicy) : Prop :=
  ∀ failure attempts request, p.again failure attempts request.masked =
    p.again failure attempts request

theorem Retry.blind_toPolicy (r : Retry) : r.toPolicy.Blind := fun _ _ _ => rfl

/-! ## What is shown -/

@[simp] theorem isSome_maskedPassword (password : Option String) :
    (maskedPassword password).isSome = password.isSome := Option.isSome_map

theorem Credentials.shown_masked (c : Credentials) : c.masked.shown = c.shown :=
  shown_eq rfl (isSome_maskedPassword _)

theorem Credentials.map_shown_masked (c : Option Credentials) :
    (c.map masked).map shown = c.map shown := by
  rw [Option.map_map]
  exact congrArg (c.map ·) (funext shown_masked)

theorem Options.shown_masked (o : Options) : o.masked.shown = o.shown := by
  unfold shown masked
  rw [Credentials.map_shown_masked]

theorem Request.shown_masked (r : Request) : r.masked.shown = r.shown := by
  unfold shown masked
  rw [Credentials.map_shown_masked]

/-! ## Requests -/

theorem Encoded.masked_ofAction (s : Settings) (a : Action) (o : Options) :
    ofAction s.masked a o.masked = (ofAction s a o).map masked := by
  have hor : (o.masked.credentials <|> s.masked.credentials) =
      (o.credentials <|> s.credentials).map Credentials.masked := by
    cases ho : o.credentials <;> simp [Options.masked, Settings.masked, ho]
  unfold ofAction
  rw [hor]
  cases a.body with
  | error e => rfl
  | ok body =>
    simp only [Except.map]
    split <;> rfl

namespace Client

variable (c : Client)

@[simp] theorem masked_settings : c.masked.settings = c.settings.masked := rfl

@[simp] theorem masked_roster : c.masked.roster = c.roster := rfl

@[simp] theorem masked_closed : c.masked.closed = c.closed := rfl

/-- A step of a request, with the passwords masked in what it comes to. -/
def maskedStep (p : Client × Progress) : Client × Progress := (p.1.masked, p.2.masked)

theorem masked_dispatch (e : Encoded) (interpret : Response → String → Outcome)
    (attempts : UInt32) :
    c.masked.dispatch e.masked interpret attempts =
      maskedStep (c.dispatch e interpret attempts) := by
  unfold dispatch
  rw [masked_roster]
  cases c.roster.next with
  | error err => rfl
  | ok turn => rfl

theorem masked_start (a : Action) (o : Options) :
    c.masked.start a o.masked = maskedStep (c.start a o) := by
  unfold start
  rw [masked_closed, masked_settings, Encoded.masked_ofAction]
  split
  · rfl
  · cases Encoded.ofAction c.settings a o with
    | error err => rfl
    | ok e => exact masked_dispatch c e a.interpret 0

/-- The policy is asked about the masked request, and says the same. -/
theorem masked_resume (hblind : c.settings.retry.Blind) (f : Flight) (reply : Reply) :
    c.masked.resume f.masked reply = maskedStep (c.resume f reply) := by
  unfold resume
  cases reply with
  | ok response => rfl
  | error failure =>
    simp only
    have hagain : (c.masked.record (.attemptFailure failure.kind.name f.masked.server.base)
          ).settings.retry.again failure f.masked.attempts f.masked.request =
        (c.record (.attemptFailure failure.kind.name f.server.base)
          ).settings.retry.again failure f.attempts f.request :=
      hblind failure f.attempts f.request
    rw [hagain]
    split
    · exact masked_dispatch ((c.record (.attemptFailure failure.kind.name f.server.base)).record
        (.retry failure.kind.name)) f.encoded f.interpret f.attempts
    · rfl

end Client

/-! ## Events -/

namespace System

variable (s : System)

@[simp] theorem masked_client : s.masked.client = s.client.masked := rfl

@[simp] theorem masked_background : s.masked.background = s.background.masked := rfl

@[simp] theorem masked_cancelled : s.masked.cancelled = s.cancelled := rfl

theorem masked_asked (work : Work) :
    s.masked.asked work.masked = ((s.asked work).1, (s.asked work).2.masked) := by
  cases work <;> rfl

theorem masked_ready? (origin : Origin) :
    s.masked.ready? origin = (s.ready? origin).map Work.masked := by
  cases origin with
  | task id =>
    simp only [ready?, masked, List.getElem?_map]
    rcases s.tasks[id]? with _ | ⟨w, _ | f | r⟩ <;> rfl
  | background =>
    simp only [ready?, masked]
    cases s.background <;> rfl

theorem masked_pending? (origin : Origin) :
    s.masked.pending? origin =
      (s.pending? origin).map fun p => (p.1.masked, p.2.masked) := by
  cases origin with
  | task id =>
    simp only [pending?, masked, List.getElem?_map]
    rcases s.tasks[id]? with _ | ⟨w, _ | f | r⟩ <;> rfl
  | background =>
    simp only [pending?, masked]
    cases s.background <;> rfl

theorem map_modify_stage (tasks : List Task) (id : Nat) (stage : Stage) :
    (tasks.map Task.masked).modify id (fun t => { t with stage := stage.masked }) =
      (tasks.modify id fun t => { t with stage }).map Task.masked := by
  induction tasks generalizing id with
  | nil => cases id <;> rfl
  | cons t r ih =>
    cases id with
    | zero => rfl
    | succ id =>
      rw [List.map_cons, List.modify_succ_cons, List.modify_succ_cons, List.map_cons, ih]

theorem masked_ofStage (stage : Stage) :
    (Background.ofStage stage).masked = .ofStage stage.masked := by
  rcases stage with _ | f | _ | ⟨_, _ | _ | _ | _ | _⟩ <;> rfl

theorem masked_setStage (origin : Origin) (stage : Stage) :
    (s.setStage origin stage).masked = s.masked.setStage origin stage.masked := by
  cases origin with
  | task id =>
    unfold setStage masked
    simp only [map_modify_stage]
  | background =>
    unfold setStage masked
    simp only [masked_ofStage]

theorem masked_conclude (work : Work) (c : Client) (outcome : Outcome) :
    s.masked.conclude work.masked c.masked outcome =
      ((s.conclude work c outcome).1.masked, (s.conclude work c outcome).2) := by
  cases work <;> rfl

theorem masked_advance (origin : Origin) (work : Work) (c : Client) (p : Progress) :
    (s.advance origin work c p).masked =
      s.masked.advance origin work.masked c.masked p.masked := by
  cases p with
  | waiting f =>
    unfold advance Progress.masked
    exact masked_setStage _ origin (.waiting f)
  | ended outcome =>
    unfold advance Progress.masked
    simp only [masked_conclude]
    exact masked_setStage _ origin (.done _)

theorem masked_begin (origin : Origin) : (s.begin origin).masked = s.masked.begin origin := by
  unfold begin
  rw [masked_ready?]
  cases s.ready? origin with
  | none => rfl
  | some work =>
    simp only [Option.map_some, masked_asked, masked_client, Client.masked_start]
    exact masked_advance s origin work _ _

theorem masked_takeReply (hblind : s.client.settings.retry.Blind) (origin : Origin)
    (reply : Reply) : (s.takeReply origin reply).masked = s.masked.takeReply origin reply := by
  unfold takeReply
  rw [masked_pending?]
  cases s.pending? origin with
  | none => rfl
  | some p =>
    obtain ⟨work, f⟩ := p
    simp only [Option.map_some, masked_client, Client.masked_resume _ hblind]
    exact masked_advance (s.noteReceipt origin f reply) origin work _ _

@[simp] theorem isActive_masked (b : Background) : b.masked.isActive = b.isActive := by
  cases b <;> rfl

theorem masked_stop : (s.step .stop).masked = s.masked.step .stop := by
  simp only [step]
  rw [masked_cancelled]
  split
  · unfold masked
    cases s.background <;> rfl
  · rfl

/-- **Masking goes through every event.** -/
theorem masked_step (hblind : s.client.settings.retry.Blind) (e : Event) :
    (s.step e).masked = s.masked.step e.masked := by
  cases e with
  | launch work =>
    simp only [step, masked, Event.masked, List.map_append, List.map_cons, List.map_nil]
    rfl
  | begin id => exact masked_begin s (.task id)
  | reply origin reply => exact masked_takeReply s hblind origin reply
  | wake => exact masked_begin s .background
  | setServers addresses =>
    simp only [step, Event.masked, masked_client, Client.masked_roster]
    cases s.client.roster.replaceAll addresses <;> rfl
  | replaceServers servers => rfl
  | nextServer =>
    simp only [step, Event.masked, masked_client, Client.masked_roster]
    cases s.client.roster.next <;> rfl
  | removeServer server => rfl
  | resetServers => rfl
  | shutdown => rfl
  | stop => exact masked_stop s
  | release call =>
    simp only [step, Event.masked, masked_background, isActive_masked]
    split <;> rfl

end System

/-! ## Building -/

theorem Config.masked_check (c : Config) : c.masked.check = c.check := by
  unfold check
  rw [show c.masked.password.isSome = c.password.isSome from isSome_maskedPassword _]
  rfl

theorem Config.masked_credentials (c : Config) :
    c.masked.credentials = c.credentials.map Credentials.masked := by
  unfold credentials
  cases h : c.username <;> simp [masked, Credentials.masked, h]

namespace Client

/-- A build, with the passwords masked in the client that it comes to. -/
theorem masked_construct (setup : Setup) (t : Traces) :
    (construct setup.masked).outcome t =
      (((construct setup).outcome t).1.map System.masked, ((construct setup).outcome t).2) := by
  cases hcheck : setup.config.check with
  | error e =>
    have hmasked : setup.masked.config.check = .error e :=
      (Config.masked_check _).trans hcheck
    rw [construct_of_error hcheck, construct_of_error hmasked]
    rfl
  | ok u =>
    have hmasked : setup.masked.config.check = .ok () := (Config.masked_check _).trans hcheck
    cases hruntime : setup.hasRuntime with
    | false =>
      rw [construct_of_not_hasRuntime hcheck hruntime,
        construct_of_not_hasRuntime hmasked hruntime]
      rfl
    | true =>
      obtain ⟨servers, retry, hservers, -, hretry, hconstruct⟩ :=
        construct_of_check hcheck hruntime t
      obtain ⟨servers', retry', hservers', -, hretry', hconstruct'⟩ :=
        construct_of_check hmasked hruntime t
      cases hservers.symm.trans hservers'
      cases hretry.symm.trans hretry'
      rw [hconstruct, hconstruct', show setup.masked.config = setup.config.masked from rfl,
        Config.masked_credentials]
      unfold System.masked Client.masked Settings.masked Except.map
      cases h : setup.config.discovery.enabled <;> simp [Config.masked, h] <;>
        exact ⟨rfl, rfl⟩

end Client

end Failover
