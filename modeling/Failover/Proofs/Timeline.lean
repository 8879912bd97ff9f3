import Failover.Rehearsal.Timeline
import Mathlib.Data.List.Induction
import Mathlib.Order.Lattice
import Mathlib.Order.Nat

/-!
# What happens on a timeline

An event happens together with all replies that come to it at once. `Timeline.Happens` is
this as a relation, one constructor for each way in which it goes on or stops, and what is
said about a happening is said by induction on it. Whatever happens takes no time, and
puts at most one reply on its way.

What happens next is what is due first (`Timeline.Next`). Nothing that is still to come
is due before it, so the clock never has to go back.
-/

namespace Failover.Rehearsal

namespace Timeline

variable {t t' : Timeline} {e : Event} {n limit : Nat}

/-! ## One event -/

/-- What an event makes of a timeline before anybody has replied. -/
def stepped (t : Timeline) (e : Event) : Timeline :=
  { t.keepClock (t.system.step e) with system := t.system.step e }

theorem stepped_eq (t : Timeline) (e : Event) : t.stepped e =
    { t with
      system := t.system.step e
      begun := if wakesUp t.system (t.system.step e) then t.now :: t.begun else t.begun
      ended := if fallsAsleep t.system (t.system.step e) then t.now :: t.ended else t.ended
      wakeAt := if fallsAsleep t.system (t.system.step e) then t.now + t.interval
        else t.wakeAt } := by
  cases h : fallsAsleep t.system (t.system.step e) <;>
    simp only [stepped, keepClock, h, Bool.false_eq_true, if_true, if_false]

@[simp] theorem stepped_system (t : Timeline) (e : Event) :
    (t.stepped e).system = t.system.step e := rfl

@[simp] theorem stepped_now (t : Timeline) (e : Event) : (t.stepped e).now = t.now := by
  rw [stepped_eq]

@[simp] theorem stepped_interval (t : Timeline) (e : Event) :
    (t.stepped e).interval = t.interval := by
  rw [stepped_eq]

@[simp] theorem stepped_arrivals (t : Timeline) (e : Event) :
    (t.stepped e).arrivals = t.arrivals := by
  rw [stepped_eq]

/-- With what is left of the script. -/
def withScript (t : Timeline) (script : Script) : Timeline := { t with script }

/-- With one more reply on its way. -/
def withArrival (t : Timeline) (a : Arrival) : Timeline :=
  { t with arrivals := t.arrivals ++ [a] }

/-- At another time, with these replies on their way. -/
def atTime (t : Timeline) (now : Nat) (arrivals : List Arrival) : Timeline :=
  { t with now, arrivals }

@[simp] theorem withScript_system (t : Timeline) (script : Script) :
    (t.withScript script).system = t.system := rfl

@[simp] theorem withScript_now (t : Timeline) (script : Script) :
    (t.withScript script).now = t.now := rfl

@[simp] theorem withScript_interval (t : Timeline) (script : Script) :
    (t.withScript script).interval = t.interval := rfl

@[simp] theorem withScript_arrivals (t : Timeline) (script : Script) :
    (t.withScript script).arrivals = t.arrivals := rfl

theorem sent?_of_eq {before after : System} (h : after.dispatched = before.dispatched) :
    sent? before after = none := by
  rw [sent?, h, if_neg (Nat.lt_irrefl _)]

theorem sent?_of_cons {before after : System} {d : Dispatch}
    (h : after.dispatched = d :: before.dispatched) : sent? before after = some d := by
  rw [sent?, h, if_pos (by simp)]
  rfl

/-! ## With the replies that come at once -/

/-- From `t` the event `e`, and up to `n` replies that come at once, led to `t'`. -/
inductive Happens : Nat → Timeline → Event → Timeline → Prop where
  /-- Nothing is sent. -/
  | quiet {n : Nat} {t : Timeline} {e : Event} (sent : sent? t.system (t.system.step e) = none) :
      Happens n t e (t.stepped e)
  /-- A request is sent, and the reply to it comes later. -/
  | delayed {n : Nat} {t : Timeline} {e : Event} {d : Dispatch} {script : Script} {a : Arrival}
      (sent : sent? t.system (t.system.step e) = some d) (origin : a.origin = d.origin)
      (later : t.now < a.due) :
      Happens n t e (((t.stepped e).withScript script).withArrival a)
  /-- A request is sent, and the reply to it comes at once. -/
  | answered {n : Nat} {t t' : Timeline} {e : Event} {d : Dispatch} {script : Script}
      {reply : Reply} (sent : sent? t.system (t.system.step e) = some d)
      (more : Happens n ((t.stepped e).withScript script) (.reply d.origin reply) t') :
      Happens (n + 1) t e t'
  /-- So it would, but there were too many of them. -/
  | exhausted {t : Timeline} {e : Event} {d : Dispatch} {script : Script}
      (sent : sent? t.system (t.system.step e) = some d) :
      Happens 0 t e ((t.stepped e).withScript script)

theorem happens_delayed {d : Dispatch} (script : Script) {delay : Nat} (reply : Reply)
    (hsent : sent? t.system (t.system.step e) = some d) (hdelay : delay ≠ 0) :
    Happens n t e { (t.stepped e).withScript script with
      arrivals := t.arrivals ++ [⟨t.now + delay, d.origin, reply⟩] } := by
  have h : Happens n t e (((t.stepped e).withScript script).withArrival
      ⟨t.now + delay, d.origin, reply⟩) := .delayed hsent rfl (by simp only; omega)
  unfold withArrival at h
  rw [withScript_arrivals, stepped_arrivals] at h
  exact h

theorem happens_perform (n : Nat) :
    ∀ (t : Timeline) (e : Event), Happens n t e (perform n t e) := by
  induction n with
  | zero =>
    intro t e
    unfold perform
    cases hsent : sent? t.system (t.system.step e) with
    | none => simp only [hsent]; exact .quiet hsent
    | some d =>
      simp only [hsent]
      split
      · exact .exhausted hsent
      next hdelay => exact happens_delayed _ _ hsent hdelay
  | succ n ih =>
    intro t e
    unfold perform
    cases hsent : sent? t.system (t.system.step e) with
    | none => simp only [hsent]; exact .quiet hsent
    | some d =>
      simp only [hsent]
      split
      · exact .answered hsent (ih _ _)
      next hdelay => exact happens_delayed _ _ hsent hdelay

theorem happens_happen (t : Timeline) (e : Event) : Happens mostAttempts t e (t.happen e) :=
  happens_perform mostAttempts t e

theorem Happens.now_eq (h : Happens n t e t') : t'.now = t.now := by
  induction h with
  | quiet => exact stepped_now _ _
  | delayed => exact stepped_now _ _
  | answered _ _ ih => exact ih.trans (stepped_now _ _)
  | exhausted => exact stepped_now _ _

/-! ## What is due first -/

/-- In the list the arrival `a` comes before all that are due with it, and none is due
before it. -/
def IsFirst (a : Arrival) (l : List Arrival) : Prop :=
  ∃ before after, l = before ++ a :: after ∧ (∀ x ∈ before, a.due < x.due) ∧
    ∀ x ∈ after, a.due ≤ x.due

theorem IsFirst.le {a : Arrival} {l : List Arrival} (h : IsFirst a l) : ∀ x ∈ l, a.due ≤ x.due := by
  obtain ⟨before, after, rfl, hbefore, hafter⟩ := h
  intro x hx
  rcases List.mem_append.1 hx with hx | hx
  · exact (hbefore x hx).le
  · rcases List.mem_cons.1 hx with rfl | hx
    · exact le_rfl
    · exact hafter x hx

theorem withoutArrival_of_split {a : Arrival} {before : List Arrival}
    (h : ∀ x ∈ before, a.due < x.due) (after : List Arrival) :
    withoutArrival a.due (before ++ a :: after) = before ++ after := by
  induction before with
  | nil => simp [withoutArrival]
  | cons b before ih =>
    have hne : b.due ≠ a.due := (h b List.mem_cons_self).ne'
    simp only [List.cons_append, withoutArrival, if_neg hne]
    rw [ih fun x hx => h x (List.mem_cons_of_mem _ hx)]

theorem firstArrival?_cases (t : Timeline) :
    (t.firstArrival? = none ∧ t.arrivals = []) ∨
      ∃ a, t.firstArrival? = some a ∧ IsFirst a t.arrivals := by
  unfold firstArrival?
  -- From the last arrival back, which is compared with the first of all others.
  induction t.arrivals using List.reverseRecOn with
  | nil => exact Or.inl ⟨rfl, rfl⟩
  | append_singleton l c ih =>
    right
    rw [List.foldl_append]
    rcases ih with ⟨hnone, rfl⟩ | ⟨a, hsome, hfirst⟩
    · rw [hnone]
      exact ⟨c, rfl, [], [], rfl, by simp, by simp⟩
    · rw [hsome]
      by_cases hlt : c.due < a.due
      · refine ⟨c, by simp [hlt], l, [], rfl, fun x hx => ?_, by simp⟩
        exact hlt.trans_le (hfirst.le x hx)
      · obtain ⟨before, after, rfl, hbefore, hafter⟩ := hfirst
        refine ⟨a, by simp [hlt], before, after ++ [c], by simp, hbefore, fun x hx => ?_⟩
        rcases List.mem_append.1 hx with hx | hx
        · exact hafter x hx
        · rw [List.mem_singleton.1 hx]
          exact Nat.not_lt.1 hlt

/-- What happens next if it is due at `limit` or before, and to what it leads. -/
inductive Next (t : Timeline) (limit : Nat) : Timeline → Prop where
  /-- A reply comes. -/
  | arrives {a : Arrival} {before after : List Arrival}
      (split : t.arrivals = before ++ a :: after) (due : a.due ≤ limit)
      (first : ∀ x ∈ before ++ after, a.due ≤ x.due)
      (sleeps : ∀ time, t.wakeTime? = some time → a.due ≤ time) :
      Next t limit
        ((t.atTime (max t.now a.due) (before ++ after)).happen (.reply a.origin a.reply))
  /-- The background task wakes up. -/
  | wakes {time : Nat} (asleep : t.wakeTime? = some time) (due : time ≤ limit)
      (first : ∀ x ∈ t.arrivals, time ≤ x.due) :
      Next t limit ((t.atTime (max t.now time) t.arrivals).happen .wake)

/-- Nothing is due at `limit` or before. -/
def Settled (t : Timeline) (limit : Nat) : Prop :=
  (∀ a ∈ t.arrivals, limit < a.due) ∧ ∀ time, t.wakeTime? = some time → limit < time

theorem next_arrives {a : Arrival} (hfirst : IsFirst a t.arrivals) (hdue : a.due ≤ limit)
    (hsleeps : ∀ time, t.wakeTime? = some time → a.due ≤ time) :
    t.Next limit ((t.atTime (max t.now a.due) (withoutArrival a.due t.arrivals)).happen
      (.reply a.origin a.reply)) := by
  obtain ⟨before, after, hsplit, hbefore, hafter⟩ := hfirst
  have hwithout : withoutArrival a.due t.arrivals = before ++ after := by
    rw [hsplit, withoutArrival_of_split hbefore]
  rw [hwithout]
  refine .arrives hsplit hdue (fun x hx => ?_) hsleeps
  rcases List.mem_append.1 hx with hx | hx
  · exact (hbefore x hx).le
  · exact hafter x hx

/-- A timeline goes on with what is due first, or all is settled. -/
theorem proceed?_cases (t : Timeline) (limit : Nat) :
    (t.proceed? limit = none ∧ t.Settled limit) ∨
      ∃ t', t.proceed? limit = some t' ∧ t.Next limit t' := by
  unfold proceed?
  rcases t.firstArrival?_cases with ⟨hnone, hempty⟩ | ⟨a, hsome, hfirst⟩
  · cases hwake : t.wakeTime? with
    | none =>
      simp only [hnone]
      exact Or.inl ⟨trivial, by simp [hempty], by simp [hwake]⟩
    | some time =>
      simp only [hnone]
      split
      next hdue => exact Or.inr ⟨_, rfl, .wakes hwake hdue (by simp [hempty])⟩
      next hlate =>
        refine Or.inl ⟨rfl, by simp [hempty], fun time' ht => ?_⟩
        rw [hwake] at ht
        cases ht
        exact Nat.not_le.1 hlate
  · cases hwake : t.wakeTime? with
    | none =>
      simp only [hsome]
      split
      next hdue => exact Or.inr ⟨_, rfl, next_arrives hfirst hdue (by simp [hwake])⟩
      next hlate =>
        exact Or.inl ⟨rfl, fun x hx => (Nat.not_le.1 hlate).trans_le (hfirst.le x hx),
          by simp [hwake]⟩
    | some time =>
      have htime : ∀ time', t.wakeTime? = some time' → time' = time := by
        intro time' ht
        rw [hwake] at ht
        exact (Option.some.inj ht).symm
      simp only [hsome]
      split
      next hle =>
        split
        next hdue =>
          exact Or.inr ⟨_, rfl, next_arrives hfirst hdue fun time' ht => htime time' ht ▸ hle⟩
        next hlate =>
          have hlate := Nat.not_le.1 hlate
          exact Or.inl ⟨rfl, fun x hx => hlate.trans_le (hfirst.le x hx),
            fun time' ht => htime time' ht ▸ hlate.trans_le hle⟩
      next hgt =>
        have hgt := Nat.not_le.1 hgt
        split
        next hdue =>
          exact Or.inr ⟨_, rfl, .wakes hwake hdue fun x hx => hgt.le.trans (hfirst.le x hx)⟩
        next hlate =>
          have hlate := Nat.not_le.1 hlate
          exact Or.inl ⟨rfl, fun x hx => (hlate.trans hgt).trans_le (hfirst.le x hx),
            fun time' ht => htime time' ht ▸ hlate⟩

end Timeline

end Failover.Rehearsal
