import Failover.Client.System
import Failover.Rehearsal.Script

/-!
# A client in virtual time

In a rehearsal time is a number that moves only while somebody waits. Replies
that come late and the next run of the background task are due at a time, and
whatever is due at or before the time that is reached happens on the way, in the
order of the times. What happens is always a step of `System`; the timeline decides
when.

A run of the background task is due an interval after the one before has ended,
and the first one after the initial delay.
-/

namespace Failover.Rehearsal

/-- A reply on its way. -/
structure Arrival where
  due : Nat
  origin : Origin
  reply : Reply

/-- A client, the script of its servers, and the time. -/
structure Timeline where
  system : System
  script : Script
  now : Nat := 0
  /-- Replies on their way, in the order in which they were sent. -/
  arrivals : List Arrival := []
  /-- When the background task is due, if it sleeps. -/
  wakeAt : Nat
  interval : Nat
  /-- When the runs of the background task began, the last one first. -/
  begun : List Nat := []
  /-- When they ended, the last one first. -/
  ended : List Nat := []

namespace Timeline

/-- More attempts than a request makes, whatever the policy. -/
def mostAttempts : Nat := UInt32.size

/-- The request that an event sent, if it sent one. -/
def sent? (before after : System) : Option Dispatch :=
  if before.dispatched.length < after.dispatched.length then after.dispatched.head? else none

/-- The background task begins a run. -/
def wakesUp (before after : System) : Bool :=
  match before.background, after.background with
  | .sleeping, .asking _ => true
  | _, _ => false

/-- The background task begins to sleep. -/
def fallsAsleep (before after : System) : Bool :=
  match before.background, after.background with
  | .asking _, .sleeping => true
  | _, _ => false

/-- Keeps the clock of the background task, which an event may have changed. -/
def keepClock (t : Timeline) (after : System) : Timeline :=
  let t := { t with begun := if wakesUp t.system after then t.now :: t.begun else t.begun }
  if fallsAsleep t.system after then
    { t with ended := t.now :: t.ended, wakeAt := t.now + t.interval }
  else t

/-- Makes an event happen now, together with the replies that come at once. -/
def perform : (attempts : Nat) → Timeline → Event → Timeline
  | attempts, t, e =>
    let system := t.system.step e
    let next := { t.keepClock system with system }
    match sent? t.system system with
    | none => next
    | some d =>
      let (cue, script) := t.script.next d.request
      let reply := cue.part.reply d.request
      let next := { next with script }
      -- A reply that comes at once is part of the same happening.
      if cue.delay = 0 then
        match attempts with
        | 0 => next
        | attempts + 1 => perform attempts next (.reply d.origin reply)
      else { next with arrivals := t.arrivals ++ [⟨t.now + cue.delay, d.origin, reply⟩] }

/-- Makes an event happen now. -/
def happen (t : Timeline) (e : Event) : Timeline := perform mostAttempts t e

/-- The time at which the background task is due. -/
def wakeTime? (t : Timeline) : Option Nat :=
  match t.system.background with
  | .sleeping => some t.wakeAt
  | _ => none

/-- The arrival that is due first; of two the one that was sent first. -/
def firstArrival? (t : Timeline) : Option Arrival :=
  t.arrivals.foldl (fun first a =>
    match first with
    | some b => if a.due < b.due then some a else some b
    | none => some a) none

/-- Without the first arrival that is due at this time. -/
def withoutArrival (due : Nat) : List Arrival → List Arrival
  | [] => []
  | a :: r => if a.due = due then r else a :: withoutArrival due r

/-- Lets happen what is due first, if it is due at `limit` or before. -/
def proceed? (t : Timeline) (limit : Nat) : Option Timeline :=
  let wake (time : Nat) := { t with now := max t.now time }.happen .wake
  let deliver (a : Arrival) :=
    { t with now := max t.now a.due, arrivals := withoutArrival a.due t.arrivals }.happen
      (.reply a.origin a.reply)
  match t.firstArrival?, t.wakeTime? with
  | some a, some time =>
    if a.due ≤ time then if a.due ≤ limit then some (deliver a) else none
    else if time ≤ limit then some (wake time) else none
  | some a, none => if a.due ≤ limit then some (deliver a) else none
  | none, some time => if time ≤ limit then some (wake time) else none
  | none, none => none

/-- Lets happen all that is due at `limit` or before, one thing after the other. -/
def proceed : (events : Nat) → (limit : Nat) → Timeline → Timeline
  | 0, _, t => t
  | events + 1, limit, t =>
    match t.proceed? limit with
    | some next => proceed events limit next
    | none => t

/-- No more than this can happen until a time. Each reply on its way, and the background
task, begins a chain of happenings, in which one follows another a millisecond later at
the earliest. -/
def eventBound (t : Timeline) (limit : Nat) : Nat :=
  (limit + 1 - t.now) * (t.arrivals.length + 1)

/-- Moves on to a time. -/
def moveTo (t : Timeline) (limit : Nat) : Timeline :=
  let t := proceed (t.eventBound limit) limit t
  { t with now := max t.now limit }

/-- Lets happen what is due by now. -/
def settle (t : Timeline) : Timeline := t.moveTo t.now

/-- Waits for a task, at most for so many replies. -/
def awaitReplies : (replies : Nat) → (id : Nat) → Timeline → Timeline
  | 0, _, t => t
  | replies + 1, id, t =>
    match t.arrivals.find? (·.origin = .task id) with
    | some a => awaitReplies replies id (t.moveTo a.due)
    | none => t

/-- Waits until a task has ended. -/
def await (t : Timeline) (id : Nat) : Timeline :=
  awaitReplies (mostAttempts + 1) id t

/-- A client that has just been built. -/
def start (system : System) (script : Script) (initialDelay interval : Nat) : Timeline :=
  settle { system, script, wakeAt := initialDelay, interval }

/-- Asks for something and takes the first step of it. -/
def launch (t : Timeline) (work : Work) : Nat × Timeline :=
  let id := t.system.tasks.length
  (id, ((t.happen (.launch work)).happen (.begin id)).settle)

/-- What a task came to. -/
def result? (t : Timeline) (id : Nat) : Option WorkResult :=
  match t.system.tasks[id]? with
  | some ⟨_, .done result⟩ => some result
  | _ => none

end Timeline

end Failover.Rehearsal
