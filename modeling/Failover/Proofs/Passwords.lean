import Failover.Proofs.Masking
import Mathlib.Data.List.Forall2

/-!
# What passwords influence

Two clients whose passwords differ, and nothing else, are given the same to do, and what
answers them does not look at passwords either. Nobody can tell the two apart by anything but
the passwords in the requests that they send (`Client.passwords_isolated`).

A run is one with a transport in it: what it replies to an attempt may depend on everything
that was sent and replied before (`Answering`), so a password that got into one request
could come back in a later reply. That this does not happen has to be shown of the client
and the transport together, move by move: after each of them the two systems are the same
with their passwords masked (`System.masked_move`), so the transport is asked the same
question in both.
-/

namespace Failover

/-- What answers a client: the requests that were sent so far and the replies that were taken,
each last first, and then the attempt to which there shall be a reply. -/
abbrev Answering := List Dispatch → List Receipt → Dispatch → Reply

/-- The replies do not depend on passwords. -/
def Answering.Blind (send : Answering) : Prop :=
  ∀ sent taken d, send (sent.map Dispatch.masked) (taken.map Receipt.masked) d.masked =
    send sent taken d

/-- What happens next around a client. -/
inductive Move where
  | event (e : Event)
  /-- The attempt that waits for a reply there gets one. -/
  | answer (origin : Origin)

def Move.masked : Move → Move
  | event e => event e.masked
  | answer origin => answer origin

namespace System

/-- What a move does. There is no reply where no attempt waits for one. -/
def move (send : Answering) (s : System) : Move → System
  | .event e => s.step e
  | .answer origin =>
    match s.pending? origin with
    | some (_, f) =>
      s.step (.reply origin (send s.dispatched s.received ⟨origin, f.request⟩))
    | none => s

/-- One move after the other. -/
def moves (send : Answering) (s : System) (ms : List Move) : System := ms.foldl (move send) s

variable {send : Answering} {s s' : System}

theorem kept_move (send : Answering) (s : System) (m : Move) : s.Kept (s.move send m) := by
  cases m with
  | event e => exact kept_step s e
  | answer origin =>
    simp only [move]
    split
    · exact kept_step s _
    · exact .refl s

/-- **One move.** The transport is asked about the masked request, and replies the same. -/
theorem masked_move (hsend : send.Blind) (hblind : s.client.settings.retry.Blind) (m : Move) :
    (s.move send m).masked = s.masked.move send m.masked := by
  cases m with
  | event e => exact masked_step s hblind e
  | answer origin =>
    simp only [move, Move.masked, masked_pending?]
    cases s.pending? origin with
    | none => rfl
    | some p =>
      have hreply := hsend s.dispatched s.received ⟨origin, p.2.request⟩
      rw [masked_step s hblind]
      exact congrArg (fun reply => s.masked.step (.reply origin reply)) hreply.symm

theorem masked_moves (hsend : send.Blind) (ms : List Move) :
    ∀ s : System, s.client.settings.retry.Blind →
      (s.moves send ms).masked = s.masked.moves send (ms.map Move.masked) := by
  induction ms with
  | nil => intro s _; rfl
  | cons m r ih =>
    intro s hblind
    have hnext : (s.move send m).client.settings.retry.Blind :=
      (kept_move send s m).settings ▸ hblind
    rw [List.map_cons]
    show ((s.move send m).moves send r).masked =
      (s.masked.move send m.masked).moves send (r.map Move.masked)
    rw [ih _ hnext, masked_move hsend hblind]

end System

/-! ## Systems that cannot be told apart -/

/-- The requests are the same in everything but the text of the password, which neither of
them shows. -/
structure Request.Alike (r r' : Request) : Prop where
  method : r'.method = r.method
  server : r'.server = r.server
  url : r'.url = r.url
  headers : r'.headers = r.headers
  body : r'.body = r.body
  timeout : r'.timeout = r.timeout
  username : r'.credentials.map Credentials.username = r.credentials.map Credentials.username
  hasPassword : r'.credentials.map (·.password.isSome) = r.credentials.map (·.password.isSome)
  shownCredentials : r'.credentials.map Credentials.shown = r.credentials.map Credentials.shown
  shown : r'.shown = r.shown

/-- What may be shown of the options of a task. -/
def Task.shownOptions? (t : Task) : Option String :=
  match t.work with
  | .request _ options => some options.shown
  | .discovery => none

/-- What a task came to. -/
def Task.result? (t : Task) : Option WorkResult :=
  match t.stage with
  | .done result => some result
  | _ => none

/-- The two systems are the same to everybody who does not see the credentials of requests. -/
structure System.Alike (s s' : System) : Prop where
  pool : s'.client.roster.pool = s.client.roster.pool
  ledger : s'.client.roster.ledger = s.client.roster.ledger
  closed : s'.client.closed = s.client.closed
  running : s'.isDiscoveryRunning = s.isDiscoveryRunning
  shutdowns : s'.shutdowns = s.shutdowns
  /-- What tasks came to, answers and errors in full. -/
  results : s'.tasks.map Task.result? = s.tasks.map Task.result?
  concluded : s'.concluded = s.concluded
  notices : s'.notices = s.notices
  options : s'.tasks.map Task.shownOptions? = s.tasks.map Task.shownOptions?
  credentials : s'.client.settings.credentials.map Credentials.shown =
    s.client.settings.credentials.map Credentials.shown
  /-- The same requests were sent in the same order, except for their passwords. -/
  dispatched : List.Forall₂ (fun d d' => d'.origin = d.origin ∧ d.request.Alike d'.request)
    s.dispatched s'.dispatched
  /-- The same replies were taken to them. -/
  received : List.Forall₂
    (fun d d' => d'.origin = d.origin ∧ d'.reply = d.reply ∧ d.request.Alike d'.request)
    s.received s'.received

theorem Credentials.shown_of_masked {c c' : Option Credentials}
    (h : c'.map masked = c.map masked) : c'.map shown = c.map shown := by
  rw [← map_shown_masked c', h, map_shown_masked]

theorem Request.Alike.of_masked {r r' : Request} (h : r'.masked = r.masked) : r.Alike r' := by
  have hcredentials : r'.credentials.map Credentials.masked =
      r.credentials.map Credentials.masked := congrArg (·.credentials) h
  constructor
  · exact congrArg (·.method) h
  · exact congrArg (·.server) h
  · exact congrArg (·.url) h
  · exact congrArg (·.headers) h
  · exact congrArg (·.body) h
  · exact congrArg (·.timeout) h
  · have husername := congrArg (Option.map Credentials.username) hcredentials
    rwa [Option.map_map, Option.map_map] at husername
  · have hpassword := congrArg (Option.map fun c => c.password.isSome) hcredentials
    simpa only [Option.map_map, Function.comp_def, Credentials.masked, isSome_maskedPassword]
      using hpassword
  · exact Credentials.shown_of_masked hcredentials
  · rw [← shown_masked r', h, shown_masked]

/-- Lists that are the same when they are masked have entries that are. -/
theorem forall₂_of_map_masked {α : Type} {mask : α → α} {R : α → α → Prop}
    (hR : ∀ {a a' : α}, mask a' = mask a → R a a') {xs xs' : List α}
    (h : xs'.map mask = xs.map mask) : List.Forall₂ R xs xs' := by
  rw [← List.forall₂_eq_eq_eq, List.forall₂_map_left_iff, List.forall₂_map_right_iff] at h
  exact (h.flip).imp fun _ _ hmask => hR hmask

theorem Task.result?_masked (t : Task) : t.masked.result? = t.result? := by
  rcases t with ⟨_, _ | _ | _⟩ <;> rfl

theorem Task.shownOptions?_masked (t : Task) : t.masked.shownOptions? = t.shownOptions? := by
  rcases t with ⟨_ | _, _⟩
  · exact congrArg some (Options.shown_masked _)
  · rfl

/-- What masking leaves alone is the same for lists that are the same when masked. -/
theorem map_of_map_masked {α β : Type} {mask : α → α} {f : α → β} (hf : ∀ a, f (mask a) = f a)
    {xs xs' : List α} (h : xs'.map mask = xs.map mask) : xs'.map f = xs.map f := by
  have hmap := congrArg (List.map f) h
  rwa [List.map_map, List.map_map, show f ∘ mask = f from funext hf] at hmap

theorem System.isDiscoveryRunning_masked (s : System) :
    s.masked.isDiscoveryRunning = s.isDiscoveryRunning := by
  unfold isDiscoveryRunning
  rw [masked_background, isActive_masked]
  rfl

theorem System.Alike.of_masked {s s' : System} (h : s'.masked = s.masked) : s.Alike s' := by
  have htasks : s'.tasks.map Task.masked = s.tasks.map Task.masked := congrArg (·.tasks) h
  constructor
  · exact congrArg (·.client.roster.pool) h
  · exact congrArg (·.client.roster.ledger) h
  · exact congrArg (·.client.closed) h
  · rw [← isDiscoveryRunning_masked s', h, isDiscoveryRunning_masked]
  · exact congrArg (·.shutdowns) h
  · exact map_of_map_masked Task.result?_masked htasks
  · exact congrArg (·.concluded) h
  · exact congrArg (·.notices) h
  · exact map_of_map_masked Task.shownOptions?_masked htasks
  · exact Credentials.shown_of_masked (congrArg (·.client.settings.credentials) h)
  · refine forall₂_of_map_masked (fun {d d'} hd => ?_) (congrArg (·.dispatched) h)
    exact ⟨congrArg (·.origin) hd, .of_masked (congrArg (·.request) hd)⟩
  · refine forall₂_of_map_masked (fun {d d'} hd => ?_) (congrArg (·.received) h)
    exact ⟨congrArg (·.origin) hd, congrArg (·.reply) hd,
      .of_masked (congrArg (·.request) hd)⟩

/-! ## Two runs -/

namespace Client

variable {setup setup' : Setup}

/-- Whether the passwords are masked makes no difference to what a build fails with. -/
theorem construct_of_masked (h : setup'.masked = setup.masked) (t : Traces) :
    ((construct setup').outcome t).1.map System.masked =
        ((construct setup).outcome t).1.map System.masked ∧
      ((construct setup').outcome t).2 = ((construct setup).outcome t).2 := by
  have hconstruct := masked_construct setup' t
  rw [h, masked_construct setup t, Prod.mk.injEq] at hconstruct
  exact ⟨hconstruct.1.symm, hconstruct.2.symm⟩

theorem blind_of_build {s₀ : System} (hpolicy : ∀ p, setup.retry = some p → p.Blind)
    (h : build setup = .ok s₀) : s₀.client.settings.retry.Blind := by
  obtain ⟨servers, pool, retry, -, -, hretry, rfl⟩ := build_eq_ok h
  show retry.Blind
  unfold Setup.policy at hretry
  split at hretry
  next p hp =>
    cases hretry
    exact hpolicy _ hp
  next =>
    cases hconfigured : setup.config.retry.policy with
    | error e => rw [hconfigured] at hretry; cases hretry
    | ok configured =>
      rw [hconfigured] at hretry
      cases hretry
      exact Retry.blind_toPolicy configured

/-- **Passwords influence nothing but the credentials that are sent.** Two setups differ in
the text of passwords only, and so do the options of what is asked of the clients that are
built from them; what replies to the clients does not look at passwords, nor does a policy
that the caller brings. Then both builds are refused with the same error, or both come to a
client; they leave the same traces; and whatever happens afterwards, the two clients cannot
be told apart but by the passwords in the requests that they send. -/
theorem passwords_isolated (hsetup : setup'.masked = setup.masked)
    (hpolicy : ∀ p, setup.retry = some p → p.Blind) {send : Answering} (hsend : send.Blind)
    {moves moves' : List Move} (hmoves : moves'.map Move.masked = moves.map Move.masked) :
    setup'.config.check = setup.config.check ∧
      setup'.config.credentials.map Credentials.shown =
        setup.config.credentials.map Credentials.shown ∧
      (∀ t, ((construct setup').outcome t).2 = ((construct setup).outcome t).2) ∧
      ((∃ e, build setup = .error e ∧ build setup' = .error e) ∨
        ∃ s₀ s₀', build setup = .ok s₀ ∧ build setup' = .ok s₀' ∧
          (s₀.moves send moves).Alike (s₀'.moves send moves')) := by
  have hconfig : setup'.config.masked = setup.config.masked := congrArg Setup.config hsetup
  refine ⟨?_, ?_, fun t => (construct_of_masked hsetup t).2, ?_⟩
  · rw [← Config.masked_check setup'.config, hconfig, Config.masked_check]
  · refine Credentials.shown_of_masked ?_
    rw [← Config.masked_credentials, hconfig, Config.masked_credentials]
  · have hbuild : (build setup').map System.masked = (build setup).map System.masked :=
      (construct_of_masked hsetup {}).1
    cases h : build setup with
    | error e =>
      cases h' : build setup' with
      | error e' => rw [h, h'] at hbuild; cases hbuild; exact .inl ⟨e, rfl, rfl⟩
      | ok s₀' => rw [h, h'] at hbuild; cases hbuild
    | ok s₀ =>
      cases h' : build setup' with
      | error e' => rw [h, h'] at hbuild; cases hbuild
      | ok s₀' =>
        rw [h, h'] at hbuild
        have hmasked : s₀'.masked = s₀.masked := Except.ok.inj hbuild
        have hblind := blind_of_build hpolicy h
        -- Masking leaves the policy as it is, so the other client has the same.
        have hblind' : s₀'.client.settings.retry.Blind :=
          (congrArg (fun s => s.client.settings.retry) hmasked : _ = _) ▸ hblind
        refine .inr ⟨s₀, s₀', rfl, rfl, .of_masked ?_⟩
        rw [System.masked_moves hsend moves' s₀' hblind', hmasked, hmoves,
          System.masked_moves hsend moves s₀ hblind]

/-- A setup with a user and a password. -/
def Setup.withPassword (password : String) : Setup :=
  { config :=
      { servers := ["[::1]", "[::2]"]
        username := some "reader"
        password := some password
        retry := { maxAttempts := 2 } } }

/-- A ping under another name, and replies to two attempts. -/
def pingWithPassword (password : String) : List Move :=
  [.event (.launch (.request ping { credentials := some ⟨"writer", some password⟩ })),
    .event (.begin 0), .answer (.task 0), .answer (.task 0)]

/-- No server can be reached. -/
def refusing : Answering := fun _ _ d => .error ⟨.connectRefused, d.request.url, "refused"⟩

/-- Four passwords, two for the clients and two for what is asked of them: the runs are alike,
though the passwords are sent. -/
theorem passwords_isolated_refused :
    ∃ s₀ s₀', build (.withPassword "one") = .ok s₀ ∧ build (.withPassword "two") = .ok s₀' ∧
      (s₀.moves refusing (pingWithPassword "three")).Alike
        (s₀'.moves refusing (pingWithPassword "four")) ∧
      (s₀.moves refusing (pingWithPassword "three")).dispatched.map (·.request.credentials) =
        [some ⟨"writer", some "three"⟩, some ⟨"writer", some "three"⟩] := by
  have hsetup : (Setup.withPassword "two").masked = (Setup.withPassword "one").masked := rfl
  have hpolicy : ∀ p, (Setup.withPassword "one").retry = some p → p.Blind :=
    fun p hp => by cases hp
  have hsend : refusing.Blind := fun _ _ _ => rfl
  have hmoves : (pingWithPassword "four").map Move.masked =
      (pingWithPassword "three").map Move.masked := rfl
  obtain ⟨-, -, -, ⟨e, he, -⟩ | ⟨s₀, s₀', h, h', halike⟩⟩ :=
    passwords_isolated hsetup hpolicy hsend hmoves
  · cases he
  · refine ⟨s₀, s₀', h, h', halike, ?_⟩
    cases h
    rfl

end Client

end Failover
