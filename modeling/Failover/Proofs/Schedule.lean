import Failover.Proofs.Background
import Failover.Proofs.Timeline
import Failover.Rehearsal.Step
import Mathlib.Algebra.Order.BigOperators.Group.List
import Mathlib.Algebra.Order.Ring.Nat
import Mathlib.Algebra.BigOperators.Intervals
import Mathlib.Data.List.GetD

/-!
# The schedule of discovery

The background task begins an iteration an interval after the one before has ended, and
the first one after the initial delay. How long an iteration takes, how many attempts it
makes and what it comes to has no part in this, and nobody but a shutdown can stop it.

`Timeline.Clocked` is what holds at every moment: the clock of the task shows the right time,
and no iteration has begun at any other. Each step of the task keeps it (`Clocked.stepped`),
by the cases of `System.BackgroundStep`, and so does a happening with all its replies.

That iterations are not late needs more, since a timeline might stop before it has come
to everything that is due. Each thing that is still to come has a weight, the time from
then to the end, and whatever happens puts something lighter in the place of what was
due (`Next.onTime`). So the timeline comes to the end of it (`OnTime.proceed`).
-/

namespace Failover.Rehearsal

namespace Timeline

variable {t t' : Timeline} {e : Event} {n limit delay interval : Nat}

/-! ## Times -/

/-- When the next iteration is due after those that ended at these times, the last one first. -/
def dueAfter (delay interval : Nat) : List Nat → Nat
  | [] => delay
  | e :: _ => e + interval

/-- Iterations began and ended at these times, the last one first, and each began when it was
due. -/
inductive Punctual (delay interval : Nat) : List Nat → List Nat → Prop where
  | none : Punctual delay interval [] []
  | more {b e : Nat} {bs es : List Nat} (earlier : Punctual delay interval bs es)
      (start : b = dueAfter delay interval es) (order : b ≤ e) :
      Punctual delay interval (b :: bs) (e :: es)

theorem Punctual.later {bs es : List Nat} {e e' : Nat} (h : Punctual delay interval bs (e :: es))
    (hle : e ≤ e') : Punctual delay interval bs (e' :: es) := by
  cases h with
  | more earlier start order => exact .more earlier start (order.trans hle)

/-- Nothing has gone wrong with the clock of the background task. -/
structure Clocked (delay interval : Nat) (t : Timeline) : Prop where
  running : t.system.Running
  interval_eq : t.interval = interval
  counted : t.system.rounds = t.ended.length
  due : ∀ a ∈ t.arrivals, t.now ≤ a.due
  asleep : t.system.background = .sleeping → Punctual delay interval t.begun t.ended ∧
    t.wakeAt = dueAfter delay interval t.ended ∧ t.now ≤ t.wakeAt
  /-- An iteration is under way, which may end at any time from now on. -/
  asking : ∀ f, t.system.background = .asking f →
    Punctual delay interval t.begun (t.now :: t.ended)

theorem wakeTime?_eq_some {time : Nat} :
    t.wakeTime? = some time ↔ t.system.background = .sleeping ∧ t.wakeAt = time := by
  unfold wakeTime?
  cases t.system.background <;> simp

/-! ## One event -/

theorem stepped_of_background (h : (t.system.step e).background = t.system.background) :
    t.stepped e = { t with system := t.system.step e } := by
  rw [stepped_eq]
  cases hb : t.system.background <;> simp [wakesUp, fallsAsleep, h, hb]

theorem stepped_of_begins {f : Flight} (hbefore : t.system.background = .sleeping)
    (hafter : (t.system.step e).background = .asking f) :
    t.stepped e = { t with system := t.system.step e, begun := t.now :: t.begun } := by
  rw [stepped_eq]
  simp [wakesUp, fallsAsleep, hbefore, hafter]

theorem stepped_of_repeats {f f' : Flight} (hbefore : t.system.background = .asking f)
    (hafter : (t.system.step e).background = .asking f') :
    t.stepped e = { t with system := t.system.step e } := by
  rw [stepped_eq]
  simp [wakesUp, fallsAsleep, hbefore, hafter]

theorem stepped_of_ends {f : Flight} (hbefore : t.system.background = .asking f)
    (hafter : (t.system.step e).background = .sleeping) :
    t.stepped e =
      { t with
        system := t.system.step e
        ended := t.now :: t.ended
        wakeAt := t.now + t.interval } := by
  rw [stepped_eq]
  simp [wakesUp, fallsAsleep, hbefore, hafter]

/-- **Every step keeps the clock right**, if the task wakes up when it is due. -/
theorem Clocked.stepped (h : t.Clocked delay interval) (hopen : e ≠ .shutdown)
    (hwake : e = .wake → t.now = t.wakeAt) : (t.stepped e).Clocked delay interval := by
  have hrunning := h.running.step hopen
  cases h.running.backgroundStep e with
  | rests background rounds _ _ _ =>
    rw [stepped_of_background background]
    exact ⟨hrunning, h.interval_eq, rounds.trans h.counted, h.due,
      fun hs => h.asleep (background.symm.trans hs),
      fun f hf => h.asking f (background.symm.trans hf)⟩
  | begins event before after rounds _ _ =>
    obtain ⟨hpunctual, hdue, -⟩ := h.asleep before
    rw [stepped_of_begins before after]
    refine ⟨hrunning, h.interval_eq, rounds.trans h.counted, h.due, fun hs => ?_, fun f _ => ?_⟩
    · rw [after] at hs
      cases hs
    · exact .more hpunctual ((hwake event).trans hdue) le_rfl
  | repeats before after rounds _ _ _ =>
    rw [stepped_of_repeats before after]
    refine ⟨hrunning, h.interval_eq, rounds.trans h.counted, h.due, fun hs => ?_,
      fun f _ => h.asking _ before⟩
    rw [after] at hs
    cases hs
  | ends before after rounds _ =>
    rw [stepped_of_ends before after]
    refine ⟨hrunning, h.interval_eq, ?_, h.due, fun _ => ?_, fun f hf => ?_⟩
    · rw [rounds, h.counted]
      rfl
    · refine ⟨h.asking _ before, ?_, Nat.le_add_right _ _⟩
      rw [h.interval_eq]
      rfl
    · rw [after] at hf
      cases hf

/-- Time passes until something is due. -/
theorem Clocked.atTime (h : t.Clocked delay interval) {now : Nat} (arrivals : List Arrival)
    (hlater : t.now ≤ now) (hdue : ∀ a ∈ arrivals, now ≤ a.due)
    (hwake : ∀ time, t.wakeTime? = some time → now ≤ time) :
    (t.atTime now arrivals).Clocked delay interval := by
  refine ⟨h.running, h.interval_eq, h.counted, hdue, fun hs => ?_, fun f hf => ?_⟩
  · obtain ⟨hpunctual, htime, -⟩ := h.asleep hs
    exact ⟨hpunctual, htime, hwake _ (wakeTime?_eq_some.2 ⟨hs, rfl⟩)⟩
  · exact (h.asking f hf).later hlater

/-! ## With the replies that come at once -/

theorem Clocked.with_script (h : t.Clocked delay interval) (script : Script) :
    (t.withScript script).Clocked delay interval :=
  ⟨h.running, h.interval_eq, h.counted, h.due, h.asleep, h.asking⟩

theorem Clocked.happens (hhappens : Happens n t e t') (h : t.Clocked delay interval)
    (hopen : e ≠ .shutdown) (hwake : e = .wake → t.now = t.wakeAt) :
    t'.Clocked delay interval := by
  induction hhappens with
  | quiet => exact h.stepped hopen hwake
  | @delayed _ t e _ script a _ _ later =>
    have hnext := (h.stepped hopen hwake).with_script script
    refine ⟨hnext.running, hnext.interval_eq, hnext.counted, fun x hx => ?_, hnext.asleep,
      hnext.asking⟩
    rcases List.mem_append.1 hx with hx | hx
    · exact hnext.due x hx
    · rw [List.mem_singleton.1 hx]
      exact (stepped_now t e).trans_le later.le
  | answered _ _ ih => exact ih ((h.stepped hopen hwake).with_script _) nofun nofun
  | exhausted => exact (h.stepped hopen hwake).with_script _

/-- The reply to the iteration that is under way, if there is one, is on its way. -/
def Awaited (t : Timeline) : Prop :=
  ∀ f, t.system.background = .asking f → ∃ a ∈ t.arrivals, a.origin = .background

/-- Either the reply to an iteration was on its way before, or its request is sent just now,
and it has not made so many attempts that the replies could not be waited for. -/
theorem Awaited.happens (hhappens : Happens n t e t') (hrunning : t.system.Running)
    (hopen : e ≠ .shutdown)
    (h : ∀ f, (t.system.step e).background = .asking f →
      (∃ a ∈ t.arrivals, a.origin = .background) ∨
      ((Progress.waiting f).remaining ≤ n ∧
        ∃ d, sent? t.system (t.system.step e) = some d ∧ d.origin = .background)) :
    t'.Awaited := by
  induction hhappens with
  | quiet sent =>
    intro f hf
    rcases h f hf with hthere | ⟨-, d, hd, -⟩
    · rw [stepped_arrivals]
      exact hthere
    · rw [sent] at hd
      cases hd
  | @delayed _ t e d _ a sent origin _ =>
    intro f hf
    rcases h f hf with ⟨b, hb, horigin⟩ | ⟨-, d', hd, horigin⟩
    · exact ⟨b, List.mem_append_left _ (by simpa using hb), horigin⟩
    · rw [sent] at hd
      cases hd
      exact ⟨a, List.mem_append_right _ (List.mem_singleton_self a), origin.trans horigin⟩
  | @answered n t t' e d script reply sent _ ih =>
    refine ih (hrunning.step hopen) nofun fun f hf => ?_
    simp only [withScript_system, withScript_arrivals, stepped_system, stepped_arrivals] at hf ⊢
    cases (hrunning.step hopen).backgroundStep (.reply d.origin reply) with
    | rests background _ _ _ unasked =>
      rcases h f (background.symm.trans hf) with hthere | ⟨-, d', hd, horigin⟩
      · exact Or.inl hthere
      · -- The reply is one to the iteration, so it cannot be of no use.
        rw [sent] at hd
        cases hd
        exact absurd (background.symm.trans hf) (unasked reply f (by rw [horigin]))
    | begins event => cases event
    | repeats before after _ sent' fewer _ =>
      rcases h _ before with hthere | ⟨hleft, -⟩
      · exact Or.inl hthere
      · rw [after] at hf
        cases hf
        exact Or.inr ⟨by omega, _, sent?_of_cons sent', rfl⟩
    | ends _ after _ _ =>
      rw [after] at hf
      cases hf
  | exhausted =>
    intro f hf
    rcases h f hf with hthere | ⟨hleft, -⟩
    · rw [withScript_arrivals, stepped_arrivals]
      exact hthere
    · have hlt : f.attempts.toNat < UInt32.size := f.attempts.toNat_lt
      simp only [Progress.remaining] at hleft
      omega

/-- The clock is right, and the reply to an iteration under way will come. -/
structure OnTime (delay interval : Nat) (t : Timeline) : Prop where
  clocked : t.Clocked delay interval
  awaited : t.Awaited

theorem OnTime.of_happen (h : t.Clocked delay interval) (hopen : e ≠ .shutdown)
    (hwake : e = .wake → t.now = t.wakeAt)
    (hawaited : ∀ f, t.system.background = .asking f →
      (∃ a ∈ t.arrivals, a.origin = .background) ∨ ∃ reply, e = .reply .background reply) :
    (t.happen e).OnTime delay interval := by
  have hhappens := happens_happen t e
  refine ⟨h.happens hhappens hopen hwake, Awaited.happens hhappens h.running hopen
    fun f hf => ?_⟩
  have hmost : (Progress.waiting f).remaining ≤ mostAttempts := Nat.sub_le _ _
  cases h.running.backgroundStep e with
  | rests background _ _ _ unasked =>
    have hbefore := background.symm.trans hf
    rcases hawaited f hbefore with hthere | ⟨reply, rfl⟩
    · exact Or.inl hthere
    · exact absurd hbefore (unasked reply f rfl)
  | begins _ _ after _ sent _ =>
    rw [after] at hf
    cases hf
    exact Or.inr ⟨hmost, _, sent?_of_cons sent, rfl⟩
  | repeats _ after _ sent _ _ =>
    rw [after] at hf
    cases hf
    exact Or.inr ⟨hmost, _, sent?_of_cons sent, rfl⟩
  | ends _ after _ _ =>
    rw [after] at hf
    cases hf

/-! ## Nothing is late -/

/-- How much can still happen until a time: for each thing that is due by then, how long it
can go on. -/
def load (t : Timeline) (limit : Nat) : Nat :=
  (t.arrivals.map fun a => limit + 1 - a.due).sum +
    t.wakeTime?.elim 0 fun time => limit + 1 - time

theorem load_of_sleeping (h : t.system.background = .sleeping) :
    t.load limit = (t.arrivals.map fun a => limit + 1 - a.due).sum + (limit + 1 - t.wakeAt) := by
  rw [load, wakeTime?_eq_some.2 ⟨h, rfl⟩]
  rfl

theorem load_of_asking {f : Flight} (h : t.system.background = .asking f) :
    t.load limit = (t.arrivals.map fun a => limit + 1 - a.due).sum := by
  have hnone : t.wakeTime? = none := by
    unfold wakeTime?
    rw [h]
  rw [load, hnone]
  rfl

theorem load_congr (harrivals : t'.arrivals = t.arrivals)
    (hbackground : t'.system.background = t.system.background) (hwake : t'.wakeAt = t.wakeAt) :
    t'.load limit = t.load limit := by
  simp only [load, wakeTime?, harrivals, hbackground, hwake]

/-- A step that sends a request brings nothing that is due. One that sends none may put the
task to sleep. -/
theorem load_stepped_le (hrunning : t.system.Running) (hpos : 0 < t.interval) (e : Event)
    (limit : Nat) :
    (t.stepped e).load limit ≤ t.load limit +
      if sent? t.system (t.system.step e) = none then limit - t.now else 0 := by
  cases hrunning.backgroundStep e with
  | rests background _ _ _ _ =>
    have hsame : (t.stepped e).load limit = t.load limit := by
      rw [stepped_of_background background]
      exact load_congr rfl background rfl
    rw [hsame]
    exact Nat.le_add_right _ _
  | begins _ before after _ _ _ =>
    rw [load_of_sleeping before, load_of_asking (t := t.stepped e) after, stepped_arrivals]
    omega
  | repeats before after _ _ _ _ =>
    rw [load_of_asking before, load_of_asking (t := t.stepped e) after, stepped_arrivals]
    exact Nat.le_add_right _ _
  | ends before after _ sent =>
    rw [load_of_asking before, load_of_sleeping (t := t.stepped e) after, stepped_arrivals,
      if_pos (sent?_of_eq sent), stepped_of_ends before after]
    simp only
    omega

theorem load_stepped_le_of_sent (hrunning : t.system.Running) (hpos : 0 < t.interval)
    {d : Dispatch} (hsent : sent? t.system (t.system.step e) = some d) (limit : Nat) :
    (t.stepped e).load limit ≤ t.load limit := by
  have hle := load_stepped_le hrunning hpos e limit
  rw [if_neg (by simp [hsent])] at hle
  exact hle

theorem load_atTime (t : Timeline) (now : Nat) (arrivals : List Arrival) :
    (t.atTime now arrivals).load limit = (arrivals.map fun a => limit + 1 - a.due).sum +
      t.wakeTime?.elim 0 fun time => limit + 1 - time := rfl

theorem load_withScript (t : Timeline) (script : Script) :
    (t.withScript script).load limit = t.load limit := rfl

theorem load_withArrival (t : Timeline) (a : Arrival) :
    (t.withArrival a).load limit = t.load limit + (limit + 1 - a.due) := by
  simp only [load, withArrival, List.map_append, List.sum_append, List.map_cons, List.map_nil,
    List.sum_cons, List.sum_nil, wakeTime?]
  omega

/-- What happens now leaves one thing more at the most, and that is due later. -/
theorem Happens.load_le (h : Happens n t e t') (hrunning : t.system.Running)
    (hpos : 0 < t.interval) (hopen : e ≠ .shutdown) (limit : Nat) :
    t'.load limit ≤ t.load limit + (limit - t.now) := by
  induction h with
  | @quiet _ t e sent =>
    have hle := load_stepped_le hrunning hpos e limit
    rw [if_pos sent] at hle
    exact hle
  | @delayed _ t e d script a sent _ later =>
    have hle := load_stepped_le_of_sent hrunning hpos sent limit
    rw [load_withArrival, load_withScript]
    omega
  | @answered _ t _ e _ script _ sent _ ih =>
    have hle := load_stepped_le_of_sent hrunning hpos sent limit
    have hnext := ih (hrunning.step hopen) (by simpa using hpos) nofun
    rw [load_withScript, withScript_now, stepped_now] at hnext
    omega
  | @exhausted t e d script sent =>
    have hle := load_stepped_le_of_sent hrunning hpos sent limit
    exact hle.trans (Nat.le_add_right _ _)

/-- If a request is sent the step itself brings nothing. -/
theorem Happens.load_le_stepped (h : Happens n t e t') (hrunning : t.system.Running)
    (hpos : 0 < t.interval) (hopen : e ≠ .shutdown) {d : Dispatch}
    (hsent : sent? t.system (t.system.step e) = some d) (limit : Nat) :
    t'.load limit ≤ (t.stepped e).load limit + (limit - t.now) := by
  cases h with
  | quiet sent =>
    rw [hsent] at sent
    cases sent
  | delayed _ _ later =>
    rw [load_withArrival, load_withScript]
    omega
  | answered _ more =>
    have hnext := more.load_le (hrunning.step hopen) (by simpa using hpos) nofun limit
    rw [load_withScript, withScript_now, stepped_now] at hnext
    exact hnext
  | exhausted _ => exact Nat.le_add_right _ _

/-- A reply comes at its time. -/
theorem OnTime.arrives (h : t.OnTime delay interval) (hpos : 0 < interval) {a : Arrival}
    {before after : List Arrival} (hsplit : t.arrivals = before ++ a :: after)
    (hdue : a.due ≤ limit) (hfirst : ∀ x ∈ before ++ after, a.due ≤ x.due)
    (hsleeps : ∀ time, t.wakeTime? = some time → a.due ≤ time) :
    ((t.atTime a.due (before ++ after)).happen (.reply a.origin a.reply)).OnTime delay interval ∧
      ((t.atTime a.due (before ++ after)).happen (.reply a.origin a.reply)).load limit <
        t.load limit := by
  have hnow : t.now ≤ a.due := h.clocked.due a (by simp [hsplit])
  have hclocked : (t.atTime a.due (before ++ after)).Clocked delay interval :=
    h.clocked.atTime _ hnow hfirst hsleeps
  constructor
  · refine .of_happen hclocked nofun nofun fun f hf => ?_
    -- The reply to the iteration is the one that comes, or it is still on its way.
    obtain ⟨b, hb, horigin⟩ := h.awaited f hf
    rw [hsplit, List.mem_append, List.mem_cons, or_left_comm] at hb
    rcases hb with rfl | hb
    · exact Or.inr ⟨b.reply, by rw [horigin]⟩
    · exact Or.inl ⟨b, List.mem_append.2 hb, horigin⟩
  · have hle := (happens_happen (t.atTime a.due (before ++ after))
      (.reply a.origin a.reply)).load_le hclocked.running
      (hclocked.interval_eq.symm ▸ hpos) nofun limit
    have hload : t.load limit =
        (t.atTime a.due (before ++ after)).load limit + (limit + 1 - a.due) := by
      rw [load_atTime]
      simp only [load, hsplit, List.map_append, List.map_cons, List.sum_append, List.sum_cons]
      omega
    have hstays : (t.atTime a.due (before ++ after)).now = a.due := rfl
    omega

/-- The background task wakes up at its time. -/
theorem OnTime.wakes (h : t.OnTime delay interval) (hpos : 0 < interval) {time : Nat}
    (hasleep : t.wakeTime? = some time) (hdue : time ≤ limit)
    (hfirst : ∀ x ∈ t.arrivals, time ≤ x.due) :
    ((t.atTime time t.arrivals).happen .wake).OnTime delay interval ∧
      ((t.atTime time t.arrivals).happen .wake).load limit < t.load limit := by
  obtain ⟨hsleeping, rfl⟩ := wakeTime?_eq_some.1 hasleep
  have hclocked : (t.atTime t.wakeAt t.arrivals).Clocked delay interval :=
    h.clocked.atTime _ (h.clocked.asleep hsleeping).2.2 hfirst fun time ht =>
      (wakeTime?_eq_some.1 ht).2.le
  constructor
  · refine .of_happen hclocked nofun (fun _ => rfl) fun f hf => ?_
    exact absurd (hsleeping.symm.trans hf) nofun
  · cases hclocked.running.backgroundStep .wake with
    | rests _ _ _ sleepless _ => exact absurd hsleeping (sleepless rfl)
    | repeats before => exact absurd (hsleeping.symm.trans before) nofun
    | ends before => exact absurd (hsleeping.symm.trans before) nofun
    | begins _ _ after _ sent _ =>
      -- The request that is sent now takes the place of the time to wake up.
      have hle := (happens_happen (t.atTime t.wakeAt t.arrivals) .wake).load_le_stepped
        hclocked.running (hclocked.interval_eq.symm ▸ hpos) nofun (sent?_of_cons sent) limit
      have hstepped : ((t.atTime t.wakeAt t.arrivals).stepped .wake).load limit =
          (t.arrivals.map fun a => limit + 1 - a.due).sum := by
        rw [load_of_asking after, stepped_arrivals]
        rfl
      have hstays : (t.atTime t.wakeAt t.arrivals).now = t.wakeAt := rfl
      rw [load_of_sleeping hsleeping]
      omega

/-- Whatever happens next keeps all on time. It comes at its time, and it leaves less that can
still happen. -/
theorem Next.onTime (hnext : t.Next limit t') (h : t.OnTime delay interval)
    (hpos : 0 < interval) :
    t'.OnTime delay interval ∧ t'.load limit < t.load limit ∧
      t.now ≤ t'.now ∧ t'.now ≤ max t.now limit := by
  cases hnext with
  | @arrives a before after split due first sleeps =>
    have hnow : t.now ≤ a.due := h.clocked.due a (by simp [split])
    rw [Nat.max_eq_right hnow]
    obtain ⟨hontime, hlt⟩ := h.arrives hpos split due first sleeps
    rw [(happens_happen _ _).now_eq]
    exact ⟨hontime, hlt, hnow, due.trans (le_max_right _ _)⟩
  | @wakes time asleep due first =>
    obtain ⟨hsleeping, htime⟩ := wakeTime?_eq_some.1 asleep
    have hnow : t.now ≤ time := htime ▸ (h.clocked.asleep hsleeping).2.2
    rw [Nat.max_eq_right hnow]
    obtain ⟨hontime, hlt⟩ := h.wakes hpos asleep due first
    rw [(happens_happen _ _).now_eq]
    exact ⟨hontime, hlt, hnow, due.trans (le_max_right _ _)⟩

/-- All that is due at a time or before happens. -/
theorem OnTime.proceed (hpos : 0 < interval) (n : Nat) : ∀ {t : Timeline},
    t.OnTime delay interval → t.load limit ≤ n →
      (proceed n limit t).OnTime delay interval ∧ (Timeline.proceed n limit t).Settled limit ∧
        t.now ≤ (Timeline.proceed n limit t).now ∧
        (Timeline.proceed n limit t).now ≤ max t.now limit := by
  induction n with
  | zero =>
    intro t h hload
    rcases t.proceed?_cases limit with ⟨-, hsettled⟩ | ⟨t', -, hnext⟩
    · exact ⟨h, hsettled, le_rfl, le_max_left _ _⟩
    · have hlt := (hnext.onTime h hpos).2.1
      omega
  | succ n ih =>
    intro t h hload
    rcases t.proceed?_cases limit with ⟨hnone, hsettled⟩ | ⟨t', hsome, hnext⟩
    · simp only [Timeline.proceed, hnone]
      exact ⟨h, hsettled, le_rfl, le_max_left _ _⟩
    · obtain ⟨h', hlt, hge, hle⟩ := hnext.onTime h hpos
      obtain ⟨hontime, hsettled, hge', hle'⟩ := ih h' (by omega)
      simp only [Timeline.proceed, hsome]
      exact ⟨hontime, hsettled, hge.trans hge', by omega⟩

theorem load_le_eventBound (h : t.Clocked delay interval) (limit : Nat) :
    t.load limit ≤ t.eventBound limit := by
  have hreplies : (t.arrivals.map fun a => limit + 1 - a.due).sum ≤
      t.arrivals.length * (limit + 1 - t.now) := by
    have hle := List.sum_le_card_nsmul (t.arrivals.map fun a => limit + 1 - a.due)
      (limit + 1 - t.now) (by
        intro x hx
        obtain ⟨a, ha, rfl⟩ := List.mem_map.1 hx
        exact Nat.sub_le_sub_left (h.due a ha) _)
    rwa [List.length_map, Nat.nsmul_eq_mul] at hle
  have hwake : (t.wakeTime?.elim 0 fun time => limit + 1 - time) ≤ limit + 1 - t.now := by
    cases ht : t.wakeTime? with
    | none => exact Nat.zero_le _
    | some time =>
      obtain ⟨hsleeping, rfl⟩ := wakeTime?_eq_some.1 ht
      exact Nat.sub_le_sub_left (h.asleep hsleeping).2.2 _
  calc t.load limit ≤ t.arrivals.length * (limit + 1 - t.now) + (limit + 1 - t.now) :=
        Nat.add_le_add hreplies hwake
    _ = t.eventBound limit := by
        rw [eventBound, Nat.mul_succ, Nat.mul_comm (limit + 1 - t.now)]

/-- All is on time, and whatever is still to come is due later. -/
structure AtRest (delay interval : Nat) (t : Timeline) : Prop where
  onTime : t.OnTime delay interval
  settled : t.Settled t.now

theorem OnTime.moveTo (h : t.OnTime delay interval) (hpos : 0 < interval) (hle : t.now ≤ limit) :
    (t.moveTo limit).AtRest delay interval := by
  obtain ⟨h', hsettled, -, hnow⟩ := h.proceed hpos (t.eventBound limit)
    (load_le_eventBound h.clocked limit)
  rw [Nat.max_eq_right hle] at hnow
  unfold Timeline.moveTo
  simp only [Nat.max_eq_right hnow]
  have hclocked := h'.clocked.atTime _ hnow (fun a ha => (hsettled.1 a ha).le) fun time ht =>
    (hsettled.2 time ht).le
  exact ⟨⟨hclocked, h'.awaited⟩, hsettled⟩

/-! ## The schedule -/

/-- How long the `i`-th of these iterations took, counted from 0. -/
def lasting (begun ended : List Nat) (i : Nat) : Nat :=
  ended.reverse.getD i 0 - begun.reverse.getD i 0

/-- How long the `i`-th iteration took. -/
def duration (t : Timeline) (i : Nat) : Nat := lasting t.begun t.ended i

/-- The time of the `k`-th iteration: the initial delay, and for each iteration before it
as long as that took and an interval. -/
def timeOf (t : Timeline) (delay interval k : Nat) : Nat :=
  delay + ∑ i ∈ Finset.range k, (t.duration i + interval)

/-- The background task is on schedule. -/
structure OnSchedule (delay interval : Nat) (t : Timeline) : Prop where
  running : t.system.isDiscoveryRunning = true
  /-- All iterations have ended, but for the last one perhaps. -/
  single : t.begun.length = t.ended.length ∨ t.begun.length = t.ended.length + 1
  /-- Those that have ended came to a result each. -/
  counted : t.system.rounds = t.ended.length
  order : ∀ k b e : Nat, t.begun.reverse[k]? = some b → t.ended.reverse[k]? = some e → b ≤ e
  /-- Each iteration began at its time. -/
  starts : ∀ k b : Nat, t.begun.reverse[k]? = some b → b = t.timeOf delay interval k
  /-- If no iteration is under way the time of the next one is still to come. -/
  next : t.begun.length = t.ended.length → t.now < t.timeOf delay interval t.ended.length
  /-- If one is, then the reply to its last attempt is on its way. -/
  awaited : t.begun.length = t.ended.length + 1 →
    ∃ a ∈ t.arrivals, a.origin = .background ∧ t.now < a.due

theorem getD_reverse_cons {l : List Nat} {i : Nat} (h : i < l.length) (x : Nat) :
    (x :: l).reverse.getD i 0 = l.reverse.getD i 0 := by
  rw [List.reverse_cons, List.getD_append _ _ _ _ (by rwa [List.length_reverse])]

theorem getD_reverse_last (x : Nat) (l : List Nat) : (x :: l).reverse.getD l.length 0 = x := by
  rw [List.reverse_cons, List.getD_append_right _ _ _ _ (by rw [List.length_reverse]),
    List.length_reverse, Nat.sub_self]
  rfl

namespace Punctual

variable {bs es : List Nat}

theorem length_eq (h : Punctual delay interval bs es) : bs.length = es.length := by
  induction h with
  | none => rfl
  | more _ _ _ ih => rw [List.length_cons, List.length_cons, ih]

/-- The sum over the iterations, the last of which is told apart. -/
theorem sum_cons (h : bs.length = es.length) (b e : Nat) {k : Nat} (hk : k ≤ es.length) :
    ∑ i ∈ Finset.range k, (lasting (b :: bs) (e :: es) i + interval) =
      ∑ i ∈ Finset.range k, (lasting bs es i + interval) := by
  refine Finset.sum_congr rfl fun i hi => ?_
  have hi : i < es.length := (Finset.mem_range.1 hi).trans_le hk
  rw [lasting, lasting, getD_reverse_cons hi, getD_reverse_cons (h.symm ▸ hi)]

theorem dueAfter_eq (h : Punctual delay interval bs es) : dueAfter delay interval es =
    delay + ∑ i ∈ Finset.range es.length, (lasting bs es i + interval) := by
  induction h with
  | none => rfl
  | @more b e bs es earlier start order ih =>
    have hlast : lasting (b :: bs) (e :: es) es.length = e - b := by
      rw [lasting, getD_reverse_last, ← earlier.length_eq, getD_reverse_last]
    rw [List.length_cons, Finset.sum_range_succ, hlast,
      sum_cons earlier.length_eq b e le_rfl, ← Nat.add_assoc, ← ih, ← start, dueAfter]
    omega

/-- Each iteration began at its time, and ended after that. -/
theorem starts (h : Punctual delay interval bs es) : ∀ k b, bs.reverse[k]? = some b →
    b = delay + ∑ i ∈ Finset.range k, (lasting bs es i + interval) ∧
      ∀ e, es.reverse[k]? = some e → b ≤ e := by
  induction h with
  | none => intro k b hb; cases hb
  | @more b e bs es earlier start order ih =>
    intro k x hx
    have hlength := earlier.length_eq
    rw [List.reverse_cons, List.getElem?_append, List.length_reverse] at hx
    split at hx
    next hk =>
      obtain ⟨hstart, horder⟩ := ih k x hx
      rw [sum_cons hlength b e (by omega)]
      refine ⟨hstart, fun y hy => horder y ?_⟩
      rwa [List.reverse_cons, List.getElem?_append_left (by simpa [← hlength] using hk)] at hy
    next hk =>
      -- The last one is left.
      obtain ⟨hlt, rfl⟩ := List.getElem?_eq_some_iff.1 hx
      rw [List.length_singleton] at hlt
      obtain rfl : k = es.length := by omega
      rw [List.getElem_singleton, sum_cons hlength b e le_rfl, ← earlier.dueAfter_eq]
      refine ⟨start, fun y hy => ?_⟩
      rw [List.reverse_cons, List.getElem?_append_right (by simp), List.length_reverse,
        Nat.sub_self] at hy
      cases hy
      exact order

end Punctual

theorem AtRest.onSchedule (h : t.AtRest delay interval) : t.OnSchedule delay interval := by
  have hclocked := h.onTime.clocked
  cases hb : t.system.background with
  | ended => exact absurd hb hclocked.running.active
  | sleeping =>
    obtain ⟨hpunctual, hwake, -⟩ := hclocked.asleep hb
    have hlength := hpunctual.length_eq
    refine ⟨hclocked.running.isDiscoveryRunning, Or.inl hlength, hclocked.counted,
      fun k b e hk => (hpunctual.starts k b hk).2 e, fun k b hk => (hpunctual.starts k b hk).1,
      fun _ => ?_, fun hone => by omega⟩
    have hlater := h.settled.2 _ (wakeTime?_eq_some.2 ⟨hb, rfl⟩)
    rwa [hwake, hpunctual.dueAfter_eq] at hlater
  | asking f =>
    have hpunctual := hclocked.asking f hb
    have hlength : t.begun.length = t.ended.length + 1 := hpunctual.length_eq
    have hended : ∀ i < t.ended.length, lasting t.begun (t.now :: t.ended) i = t.duration i :=
      fun i hi => by rw [duration, lasting, lasting, getD_reverse_cons hi]
    refine ⟨hclocked.running.isDiscoveryRunning, Or.inr hlength, hclocked.counted,
      fun k b e hk he => ?_, fun k b hk => ?_, fun hnone => by omega, fun _ => ?_⟩
    · refine (hpunctual.starts k b hk).2 e ?_
      obtain ⟨hlt, -⟩ := List.getElem?_eq_some_iff.1 he
      rwa [List.reverse_cons, List.getElem?_append_left hlt]
    · obtain ⟨hlt, -⟩ := List.getElem?_eq_some_iff.1 hk
      rw [List.length_reverse] at hlt
      rw [(hpunctual.starts k b hk).1, timeOf]
      congr 1
      refine Finset.sum_congr rfl fun i hi => ?_
      rw [hended i (by have := Finset.mem_range.1 hi; omega)]
    · obtain ⟨a, ha, horigin⟩ := h.onTime.awaited f hb
      exact ⟨a, ha, horigin, h.settled.1 a ha⟩

/-! ## Steps of a rehearsal -/

theorem OnTime.happen (h : t.OnTime delay interval) (hopen : e ≠ .shutdown) (hwake : e ≠ .wake) :
    (t.happen e).OnTime delay interval :=
  .of_happen h.clocked hopen (fun he => absurd he hwake) fun f hf => Or.inl (h.awaited f hf)

theorem OnTime.settle (h : t.OnTime delay interval) (hpos : 0 < interval) :
    t.settle.AtRest delay interval :=
  h.moveTo hpos le_rfl

theorem AtRest.launch (h : t.AtRest delay interval) (hpos : 0 < interval) (work : Work) :
    (t.launch work).2.AtRest delay interval := by
  have hlaunched := h.onTime.happen (e := .launch work) nofun nofun
  have hbegun := hlaunched.happen (e := .begin t.system.tasks.length) nofun nofun
  exact hbegun.settle hpos

theorem AtRest.awaitReplies (hpos : 0 < interval) (id n : Nat) : ∀ {t : Timeline},
    t.AtRest delay interval → (awaitReplies n id t).AtRest delay interval := by
  induction n with
  | zero => intro t h; exact h
  | succ n ih =>
    intro t h
    unfold Timeline.awaitReplies
    split
    next a ha =>
      have hdue := h.settled.1 a (List.mem_of_find?_eq_some ha)
      exact ih (h.onTime.moveTo hpos hdue.le)
    · exact h

theorem AtRest.await (h : t.AtRest delay interval) (hpos : 0 < interval) (id : Nat) :
    (t.await id).AtRest delay interval :=
  h.awaitReplies hpos id _

end Timeline

namespace Stand

open Timeline

variable {s : Stand} {delay interval : Nat}

/-- How things stand after some steps. -/
def after (s : Stand) (steps : List Step) : Stand :=
  steps.foldl (fun s step => (s.take step).2) s

theorem take_executeAsync (s : Stand) (action : Action) :
    (s.take (.executeAsync action)).2 = (s.execute action {}).2 := by
  unfold take
  dsimp only
  split
  next heq => rw [heq]
  · rfl

/-- A text that is no address takes nothing out. -/
theorem take_removeServer (s : Stand) (address : String) :
    (s.take (.removeServer address)).2 = s ∨
      ∃ server, (s.take (.removeServer address)).2 = s.happen (.removeServer server) := by
  unfold take
  dsimp only
  cases Server.parse address with
  | error e => exact Or.inl rfl
  | ok server => exact Or.inr ⟨server, rfl⟩

theorem atRest_happen {e : Event} (h : s.timeline.AtRest delay interval) (hpos : 0 < interval)
    (hopen : e ≠ .shutdown) (hwake : e ≠ .wake) :
    (s.happen e).timeline.AtRest delay interval :=
  (h.onTime.happen hopen hwake).settle hpos

/-- **Every step but a shutdown** leaves the background task on time. -/
theorem atRest_take {step : Step} (h : s.timeline.AtRest delay interval) (hpos : 0 < interval)
    (hopen : step ≠ .shutdown) : (s.take step).2.timeline.AtRest delay interval := by
  have hexecute : ∀ action options,
      (s.execute action options).2.timeline.AtRest delay interval := fun action options =>
    (h.launch hpos (.request action options)).await hpos _
  cases step with
  | execute action options => exact hexecute action options
  | spawn name action options isFunction => exact h.launch hpos (.request action options)
  | join name =>
    show (s.join name).2.timeline.AtRest delay interval
    unfold Stand.join
    split
    · exact h
    · exact h.await hpos _
  | executeAsync action =>
    rw [take_executeAsync]
    exact hexecute action {}
  | advance time => exact h.onTime.moveTo hpos (Nat.le_add_right _ _)
  | discover => exact (h.launch hpos .discovery).await hpos _
  | setServers addresses => exact atRest_happen h hpos nofun nofun
  | nextServer => exact atRest_happen h hpos nofun nofun
  | removeServer address =>
    rcases take_removeServer s address with hsame | ⟨server, hremove⟩
    · rw [hsame]
      exact h
    · rw [hremove]
      exact atRest_happen h hpos nofun nofun
  | resetServers => exact atRest_happen h hpos nofun nofun
  | shutdown => exact absurd rfl hopen
  | _ => exact h

theorem atRest_after (hpos : 0 < interval) (steps : List Step) : ∀ {s : Stand},
    s.timeline.AtRest delay interval → Step.shutdown ∉ steps →
      (s.after steps).timeline.AtRest delay interval := by
  induction steps with
  | nil => intro s h _; exact h
  | cons step steps ih =>
    intro s h hopen
    rw [List.mem_cons, not_or] at hopen
    exact ih (atRest_take h hpos fun he => hopen.1 he.symm) hopen.2

end Stand

/-- **The schedule of discovery.** However a client with background discovery is used, as long
as it is not shut down, and whatever its servers reply and how late: its iterations begin one
after the other, the first one after the initial delay, each of the others an interval after
the one before it has ended, and the task that begins them is running. -/
theorem discovery_schedule {setup : Client.Setup} {s₀ : System}
    (h : Client.build setup = .ok s₀) (henabled : setup.config.discovery.enabled = true)
    (script : Script) (steps : List Step) (hopen : Step.shutdown ∉ steps) :
    let delay := setup.config.discovery.initialDelay.toNat
    let interval := setup.config.discovery.interval.toNat
    let s : Stand := { timeline := .start s₀ script delay interval }
    (s.after steps).timeline.OnSchedule delay interval := by
  intro delay interval s
  have hpos : 0 < interval := Client.interval_pos_of_build h henabled
  obtain ⟨hrunning, hsleeping, hrounds⟩ := System.running_of_build h henabled
  have hclocked : ({ system := s₀, script, wakeAt := delay, interval } : Timeline).Clocked
      delay interval := by
    refine ⟨hrunning, rfl, hrounds, nofun, fun _ => ⟨.none, rfl, Nat.zero_le _⟩, fun f hf => ?_⟩
    exact absurd (hsleeping.symm.trans hf) nofun
  have hontime : ({ system := s₀, script, wakeAt := delay, interval } : Timeline).OnTime
      delay interval :=
    ⟨hclocked, fun f hf => absurd (hsleeping.symm.trans hf) nofun⟩
  exact (Stand.atRest_after hpos steps (hontime.settle hpos) hopen).onSchedule

/-- Three iterations that fail after four milliseconds, after three, and at once. -/
theorem discovery_schedule_failing :
    let setup : Client.Setup :=
      { config := (Config.withServers ["[::1]:9200", "http://[::2]:9200"]).withDiscovery 5 10 }
    let script : Script :=
      ⟨[("*",
        [⟨.failure .connectRefused "refused", 4⟩,
         ⟨.failure .timeout "late", 3⟩,
         ⟨.response { status := 503 }, 0⟩])]⟩
    let steps : List Step := [.advance 40]
    ∃ s₀, Client.build setup = .ok s₀ ∧ setup.config.discovery.enabled = true ∧
      Step.shutdown ∉ steps ∧
      let t := (Stand.after { timeline := .start s₀ script 5 10 } steps).timeline
      t.begun.reverse = [5, 19, 32] ∧ t.OnSchedule 5 10 := by
  intro setup script steps
  have hopen : Step.shutdown ∉ steps := fun hm => by cases List.mem_singleton.1 hm
  obtain ⟨s₀, hbuild⟩ : ∃ s₀, Client.build
      { config := (Config.withServers ["[::1]:9200", "http://[::2]:9200"]).withDiscovery 5 10 } =
        .ok s₀ :=
    ⟨_, rfl⟩
  have hbegun : (Stand.after { timeline := .start s₀ script 5 10 } steps).timeline.begun.reverse =
      [5, 19, 32] := by
    cases hbuild
    decide +kernel
  exact ⟨s₀, hbuild, rfl, hopen, hbegun, discovery_schedule hbuild rfl script steps hopen⟩

end Failover.Rehearsal
