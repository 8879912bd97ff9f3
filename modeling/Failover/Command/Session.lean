import Failover.Command.Run

/-!
# A command and its background

`request` asks for one thing, but it is not alone with its client. Where discovery is
configured the background task runs from the moment at which the client is built until it
has been shut down, at any time between two steps of the command, and what it does to the
pool decides where the next attempt is sent. A session is all of the command, from its
arguments to its end, beside such a background.

The command decides neither the replies to its attempts nor what goes on in the background.
Both are its `Surroundings`, and given these a session runs by itself. Its request makes the
same steps as a task of `System`, and there is no other task. It comes to its end as any
request does: every reply leaves fewer that it can still wait for (`System.patience`), and
the background does not touch that number.
-/

namespace Failover

namespace Command

/-- Something that happens to the background task. -/
inductive Aside where
  /-- The time of its next iteration has come. -/
  | wake
  /-- The reply to one of its attempts comes. -/
  | reply (reply : Reply)

def Aside.event : Aside → Event
  | wake => .wake
  | reply r => .reply .background r

/-- What a command does not decide itself. -/
structure Surroundings where
  /-- The reply to each attempt of its request. The first attempt has the number one. -/
  replies : Nat → Reply
  /-- What goes on in the background: at zero before the request begins, then before the
  reply of the same number, and behind the last reply before the client is shut down. -/
  asides : Nat → List Aside := fun _ => []
  /-- What goes on until the background task notices that the client was shut down. -/
  lateAsides : List Aside := []

/-- Who makes the attempts of a command: the first task, which is the only one. -/
def origin : Origin := .task 0

end Command

namespace System

open Command

/-- So much goes on in the background. -/
def meanwhile (s : System) (asides : List Aside) : System :=
  s.run (asides.map Aside.event)

/-- How many replies the request of a command may still wait for. -/
def patience (s : System) : Nat :=
  match s.pending? origin with
  | some (_, f) => (Progress.waiting f).remaining
  | none => 0

theorem tasks_aside (s : System) (a : Aside) : (s.step a.event).tasks = s.tasks := by
  have hadvance : ∀ (s : System) work c p, (s.advance .background work c p).tasks = s.tasks := by
    intro s work c p
    cases p <;> rfl
  cases a with
  | wake =>
    simp only [Aside.event, step, begin]
    split
    · rw [hadvance]
    · rfl
  | reply r =>
    simp only [Aside.event, step, takeReply]
    split
    · rw [hadvance]
      rfl
    · rfl

theorem tasks_meanwhile (asides : List Aside) : ∀ s : System,
    (s.meanwhile asides).tasks = s.tasks := by
  induction asides with
  | nil => intro s; rfl
  | cons a asides ih => intro s; exact (ih (s.step a.event)).trans (s.tasks_aside a)

/-- The background leaves alone how far the request is. -/
theorem patience_meanwhile (s : System) (asides : List Aside) :
    (s.meanwhile asides).patience = s.patience := by
  simp only [patience, pending?, origin, tasks_meanwhile]

theorem patience_advance {s : System} {t : Task} (h : s.tasks[0]? = some t) (work : Work)
    (c : Client) (p : Progress) : (s.advance origin work c p).patience = p.remaining := by
  cases p with
  | waiting f =>
    simp [advance, noteDispatch, setStage, origin, patience, pending?, h]
  | ended outcome =>
    simp [advance, noteConclusion, setStage, origin, patience, pending?, h, Progress.remaining]

/-- A reply that the request waits for leaves fewer to wait for. -/
theorem patience_reply {s : System} {work : Work} {f : Flight}
    (h : s.pending? origin = some (work, f)) (reply : Reply) :
    (s.step (.reply origin reply)).patience < s.patience := by
  obtain ⟨t, ht⟩ : ∃ t, s.tasks[0]? = some t := by
    simp only [pending?, origin] at h
    split at h
    next ht => exact ⟨_, ht⟩
    · cases h
  simp only [step, takeReply, h]
  rw [patience_advance (s := s.noteReceipt origin f reply) ht]
  simp only [patience, h]
  exact Client.resume_remaining s.client f reply

/-- Answers the attempts of a command until its request has ended, with the reply of this
number and those after it. -/
def settle (w : Surroundings) (number : Nat) (s : System) : System :=
  let here := s.meanwhile (w.asides number)
  match _ : here.pending? origin with
  | some _ => settle w (number + 1) (here.step (.reply origin (w.replies number)))
  | none => here
termination_by s.patience
decreasing_by
  rename_i h
  exact Nat.lt_of_lt_of_eq (patience_reply h _) (s.patience_meanwhile _)

/-- What the request of a command has come to, if it has ended. -/
def outcome? (s : System) : Option Outcome :=
  match (s.tasks[0]? : Option Task) with
  | some ⟨_, .done result⟩ => some result.outcome
  | _ => none

/-- Makes the request of a command, to its end. -/
def ask (w : Surroundings) (action : Action) (s : System) : System :=
  let handedOver := s.step (.launch (.request action {}))
  settle w 1 ((handedOver.meanwhile (w.asides 0)).step (.begin 0))

/-- Shuts the client of a command down. -/
def close (w : Surroundings) (s : System) : System :=
  ((s.step .shutdown).meanwhile w.lateAsides).run [.stop, .release 0]

end System

namespace Command

/-- What a command has come to. -/
structure Session where
  /-- What was sent, for the command itself and in the background, first to last. -/
  dispatched : List Dispatch := []
  /-- What was printed, if the command has ended. -/
  output : Option Output

namespace Session

/-- The requests that were not sent in the background. -/
def requests (s : Session) : List Request :=
  (s.dispatched.filter (·.origin ≠ .background)).map Dispatch.request

/-- Asks for an action with a client that was built for it, prints, and shuts the client
down. An error leaves the client as it is. The command ends when its shutdown returns. -/
def ofAction (w : Surroundings) (system : System) (action : Action) : Session :=
  let asked := system.ask w action
  match asked.outcome? with
  | some (.ok answer) =>
    let closed := asked.close w
    { dispatched := closed.dispatched.reverse
      output :=
        if closed.shutdowns.head? = some true then some (presentRequest (.ok answer)) else none }
  | some (.error e) =>
    { dispatched := asked.dispatched.reverse
      output := some (presentRequest (.error e)) }
  | none => { dispatched := asked.dispatched.reverse, output := none }

/-- The session of `request`. Its arguments are looked at before there is a client. -/
def request (c : Config) (method path : String) (body : Option String) (w : Surroundings) :
    Session :=
  match rawAction method path body with
  | .error t => { output := some (.ofTrouble t) }
  | .ok a =>
    match built c with
    | .error t => { output := some (.ofTrouble t) }
    | .ok system => ofAction w system a.action

end Session

end Command

end Failover
