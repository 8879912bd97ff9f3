import Failover.Proofs.Ledger
import Mathlib.Algebra.BigOperators.Group.List.Basic
import Mathlib.Algebra.Order.Ring.Nat

/-!
# The totals that a report shows

A counter goes up by one with each event of its series, so what the report of a ledger shows
for it is the number of these events (`Ledger.value_name`). All series of one family
together show the number of the events of the family (`Ledger.sumOf_name`), since their
names begin with the name of the family and no other name does.

A series is shown under one text, from which the labels have to be read off again before
events of one series are known to be equal. The last label may hold any characters, but the
one before it must not hold a comma (`Metric.Plain`, `Metric.name_inj`). The names of methods
and of kinds of failures hold none, so that a report shows how often each thing was counted
(`Ledger.value_eq_total`).
-/

namespace Failover

/-- What is counted together. -/
inductive Metric.Family where
  | requests
  | attemptFailures
  | retries
  | discoveryRuns
  | poolSize
  deriving DecidableEq

namespace Metric

variable {m m' : Metric}

/-! ## Names of series -/

/-- What the names of its series begin with. -/
def Family.name : Family → String
  | requests => "trellis_requests_total"
  | attemptFailures => "trellis_attempt_failures_total"
  | retries => "trellis_retries_total"
  | discoveryRuns => "trellis_discovery_runs_total"
  | poolSize => "trellis_pool_size"

def family : Metric → Family
  | request _ _ => .requests
  | attemptFailure _ _ => .attemptFailures
  | retry _ => .retries
  | discoveryRun _ => .discoveryRuns
  | poolSize _ => .poolSize

def labels : Metric → List (String × String)
  | request method status => [("method", method), ("status", status)]
  | attemptFailure kind server => [("kind", kind), ("server", server)]
  | retry kind => [("kind", kind)]
  | discoveryRun outcome => [("outcome", outcome)]
  | poolSize _ => []

/-- The series that it is counted in. -/
def name (m : Metric) : String := seriesName m.family.name m.labels

/-- The series for the durations of requests. -/
def timing : Metric → List String
  | request method _ => [seriesName "trellis_request_duration_seconds" [("method", method)]]
  | _ => []

@[simp] theorem family_request (method status : String) :
    (request method status).family = .requests := rfl

@[simp] theorem family_attemptFailure (kind server : String) :
    (attemptFailure kind server).family = .attemptFailures := rfl

@[simp] theorem family_retry (kind : String) : (retry kind).family = .retries := rfl

@[simp] theorem family_discoveryRun (outcome : String) :
    (discoveryRun outcome).family = .discoveryRuns := rfl

theorem series_eq (m : Metric) : m.series = m.name :: m.timing := by
  cases m <;> rfl

theorem update_of_family (h : m.family ≠ .poolSize) (n : Nat) : m.update n = n + 1 := by
  cases m with
  | poolSize size => exact absurd rfl h
  | _ => rfl

/-- The names of the families differ in these characters. -/
theorem Family.take_inj {f f' : Family}
    (h : f.name.toList.take 16 = f'.name.toList.take 16) : f = f' := by
  cases f <;> cases f' <;> first | rfl | exact absurd h (by decide)

theorem Family.le_length (f : Family) : 16 ≤ f.name.toList.length := by
  cases f <;> decide

theorem family_of_name (h : m.name = m'.name) : m.family = m'.family := by
  by_contra hne
  exact seriesName_ne 16 m.family.le_length m'.family.le_length
    (fun htake => hne (Family.take_inj htake)) m.labels m'.labels h

theorem Family.take_ne_timing (f : Family) :
    f.name.toList.take 16 ≠ "trellis_request_duration_seconds".toList.take 16 := by
  cases f <;> decide

theorem name_notMem_timing (m m' : Metric) : m.name ∉ m'.timing := by
  cases m' with
  | request method status =>
    rw [timing, List.mem_singleton]
    exact seriesName_ne 16 m.family.le_length (by decide) m.family.take_ne_timing _ _
  | _ => exact List.not_mem_nil

theorem name_mem_series (m m' : Metric) : m.name ∈ m'.series ↔ m.name = m'.name := by
  rw [series_eq, List.mem_cons, or_iff_left (name_notMem_timing m m')]

theorem series_nodup (m : Metric) : m.series.Nodup := by
  rw [series_eq, List.nodup_cons]
  refine ⟨name_notMem_timing m m, ?_⟩
  cases m with
  | request method status => simp [timing]
  | _ => exact List.nodup_nil

/-! ## Labels that can be read off -/

/-- Its labels can be read off the name of its series. -/
def Plain : Metric → Prop
  | request method _ => ',' ∉ method.toList
  | attemptFailure kind _ => ',' ∉ kind.toList
  | _ => True

theorem append_comma_inj {a a' b b' : List Char} (ha : ',' ∉ a) (ha' : ',' ∉ a')
    (h : a ++ ',' :: b = a' ++ ',' :: b') : a = a' ∧ b = b' := by
  rcases List.append_eq_append_iff.1 h with ⟨rest, rfl, hrest⟩ | ⟨rest, rfl, hrest⟩
  -- The comma of the one would stand in the other, unless there is nothing between them.
  · cases rest with
    | nil => simpa using hrest
    | cons c rest =>
      rw [List.cons_append, List.cons.injEq] at hrest
      exact absurd (List.mem_append_right _ (hrest.1 ▸ List.mem_cons_self)) ha'
  · cases rest with
    | nil => simpa using hrest.symm
    | cons c rest =>
      rw [List.cons_append, List.cons.injEq] at hrest
      exact absurd (List.mem_append_right _ (hrest.1 ▸ List.mem_cons_self)) ha

theorem seriesName_inj {name : String} {labels labels' : List (String × String)}
    (h : seriesName name labels = seriesName name labels') :
    String.intercalate "," (labels.map fun (label, value) => label ++ "=" ++ value) =
      String.intercalate "," (labels'.map fun (label, value) => label ++ "=" ++ value) :=
  (String.append_right_inj _).1 ((String.append_left_inj _).1 h)

theorem seriesName_one_inj {name label value value' : String}
    (h : seriesName name [(label, value)] = seriesName name [(label, value')]) :
    value = value' := by
  have hshown := seriesName_inj h
  simp only [List.map_cons, List.map_nil, String.intercalate_singleton] at hshown
  exact (String.append_right_inj _).1 hshown

theorem seriesName_two_inj {name label last value value' end₁ end₂ : String}
    (hvalue : ',' ∉ value.toList) (hvalue' : ',' ∉ value'.toList)
    (h : seriesName name [(label, value), (last, end₁)] =
      seriesName name [(label, value'), (last, end₂)]) :
    value = value' ∧ end₁ = end₂ := by
  have hshown := seriesName_inj h
  simp only [List.map_cons, List.map_nil, String.intercalate_cons_cons,
    String.intercalate_singleton, String.append_assoc, String.append_right_inj] at hshown
  have hlists := congrArg String.toList hshown
  simp only [String.toList_append] at hlists
  obtain ⟨hfirst, hrest⟩ := append_comma_inj hvalue hvalue' hlists
  refine ⟨String.toList_inj.1 hfirst, String.toList_inj.1 ?_⟩
  exact List.append_cancel_left (List.append_cancel_left hrest)

/-- Events of one series are equal. -/
theorem name_inj (h : m.Plain) (h' : m'.Plain) (hpool : m.family ≠ .poolSize)
    (hname : m.name = m'.name) : m = m' := by
  have hfamily := family_of_name hname
  cases m with
  | poolSize n => exact absurd rfl hpool
  | request method status =>
    cases m' with
    | request method' status' =>
      obtain ⟨rfl, rfl⟩ := seriesName_two_inj h h' hname
      rfl
    | _ => cases hfamily
  | attemptFailure kind server =>
    cases m' with
    | attemptFailure kind' server' =>
      obtain ⟨rfl, rfl⟩ := seriesName_two_inj h h' hname
      rfl
    | _ => cases hfamily
  | retry kind =>
    cases m' with
    | retry kind' => rw [seriesName_one_inj hname]
    | _ => cases hfamily
  | discoveryRun outcome =>
    cases m' with
    | discoveryRun outcome' => rw [seriesName_one_inj hname]
    | _ => cases hfamily

end Metric

namespace Ledger

/-! ## The value of a series -/

/-- What the report shows for a series, and 0 if that has not come up. -/
def value (l : Ledger) (name : String) (labels : List (String × String)) : Nat :=
  (l.report.lookup (seriesName name labels)).getD 0

theorem lookup_foldl_of_mem (f : Nat → Nat) {name : String} :
    ∀ (names : List String) (values : List (String × Nat)), names.Nodup → name ∈ names →
      (names.foldl (fun values name => setSeries values name f) values).lookup name =
        some (f ((values.lookup name).getD 0)) := by
  intro names
  induction names with
  | nil => intro values _ h; cases h
  | cons other r ih =>
    intro values hnodup h
    rw [List.nodup_cons] at hnodup
    rw [List.foldl_cons]
    rcases List.mem_cons.1 h with rfl | h
    · rw [lookup_foldl_setSeries _ _ _ hnodup.1, lookup_setSeries_self]
    · have hne : name ≠ other := fun he => hnodup.1 (he ▸ h)
      rw [ih _ hnodup.2 h, lookup_setSeries_of_ne _ hne]

/-- A counter shows how many events its series has. -/
theorem value_name (l : Ledger) {m : Metric} (h : m.family ≠ .poolSize) :
    l.value m.family.name m.labels = l.countP fun m' => m.name = m'.name := by
  show (l.report.lookup m.name).getD 0 = _
  induction l with
  | nil => rfl
  | cons m' l ih =>
    rw [List.countP_cons]
    by_cases hname : m.name = m'.name
    · have hcounter : m'.family ≠ .poolSize := Metric.family_of_name hname ▸ h
      rw [report_cons, lookup_foldl_of_mem _ _ _ m'.series_nodup
        ((Metric.name_mem_series m m').2 hname), Metric.update_of_family hcounter, ih]
      simp [hname]
    · rw [lookup_report_of_notMem _ (mt (Metric.name_mem_series m m').1 hname), ih]
      simp [hname]

/-- If all labels can be read off, that is how often something was counted. -/
theorem value_eq_total {l : Ledger} (hl : ∀ m ∈ l, m.Plain) {m : Metric} (hm : m.Plain)
    (h : m.family ≠ .poolSize) : l.value m.family.name m.labels = l.total m := by
  rw [value_name l h, total, List.count]
  refine List.countP_congr fun m' hm' => ?_
  rw [decide_eq_true_iff, beq_iff_eq]
  exact ⟨fun hname => (Metric.name_inj hm (hl m' hm') h hname).symm, fun he => he ▸ rfl⟩

/-! ## The value of a family -/

/-- The series is one of this name. -/
def isOf (name series : String) : Bool := (name ++ "\x7b").toList.isPrefixOf series.toList

/-- The sum of what the report shows for all series of this name, whatever their labels are. -/
def sumOf (l : Ledger) (name : String) : Nat :=
  ((l.report.filter fun v => isOf name v.1).map Prod.snd).sum

theorem isOf_seriesName (name : String) (labels : List (String × String)) :
    isOf name (seriesName name labels) = true := by
  rw [isOf, List.isPrefixOf_iff_prefix]
  unfold seriesName
  simp only [String.toList_append, List.append_assoc]
  exact (List.prefix_append_right_inj _).2 (List.prefix_append _ _)

/-- Names that begin differently are those of different series. -/
theorem isOf_eq_false {name name' : String} (n : Nat) (hn : n ≤ name.toList.length)
    (hn' : n ≤ name'.toList.length) (h : name.toList.take n ≠ name'.toList.take n)
    (labels : List (String × String)) : isOf name (seriesName name' labels) = false := by
  rw [Bool.eq_false_iff, isOf, Ne, List.isPrefixOf_iff_prefix]
  rintro ⟨rest, hrest⟩
  refine h ?_
  have htake := congrArg (List.take n) hrest
  unfold seriesName at htake
  simp only [String.toList_append, List.append_assoc] at htake
  rwa [List.take_append_of_le_length hn, List.take_append_of_le_length hn'] at htake

/-- One of the series of an event is one of its family. -/
theorem countP_series (m : Metric) (f : Metric.Family) :
    m.series.countP (isOf f.name) = if m.family = f then 1 else 0 := by
  have htiming : m.timing.countP (isOf f.name) = 0 := by
    rw [List.countP_eq_zero]
    intro series hseries
    cases m with
    | request method status =>
      rw [List.mem_singleton.1 hseries, Bool.not_eq_true]
      exact isOf_eq_false 16 f.le_length (by decide) f.take_ne_timing _
    | _ => cases hseries
  rw [Metric.series_eq, List.countP_cons, htiming, Nat.zero_add]
  by_cases hfamily : m.family = f
  · rw [if_pos hfamily, if_pos]
    exact hfamily ▸ isOf_seriesName _ _
  · rw [if_neg hfamily, if_neg]
    rw [Bool.not_eq_true]
    exact isOf_eq_false 16 f.le_length m.family.le_length
      (fun htake => hfamily (Metric.Family.take_inj htake).symm) _

/-- Setting a series makes the sum greater by what the series has more. -/
theorem sum_setSeries {p : String → Bool} {name : String} {f : Nat → Nat}
    (hf : p name = true → ∀ n, f n = n + 1) (values : List (String × Nat)) :
    (((setSeries values name f).filter fun v => p v.1).map Prod.snd).sum =
      ((values.filter fun v => p v.1).map Prod.snd).sum + if p name then 1 else 0 := by
  induction values with
  | nil =>
    by_cases hp : p name = true
    · simp [setSeries, hp, hf hp]
    · simp [setSeries, hp]
  | cons v r ih =>
    obtain ⟨k, n⟩ := v
    unfold setSeries
    by_cases hk : k = name
    · subst hk
      by_cases hp : p k = true
      · simp [hp, hf hp]
        omega
      · simp [hp]
    · rw [if_neg hk, List.filter_cons, List.filter_cons]
      split
      · rw [List.map_cons, List.sum_cons, List.map_cons, List.sum_cons, ih, Nat.add_assoc]
      · exact ih

theorem sum_foldl_setSeries {p : String → Bool} {f : Nat → Nat} (names : List String)
    (hf : ∀ name ∈ names, p name = true → ∀ n, f n = n + 1) :
    ∀ values : List (String × Nat),
      (((names.foldl (fun values name => setSeries values name f) values).filter
        fun v => p v.1).map Prod.snd).sum =
          ((values.filter fun v => p v.1).map Prod.snd).sum + names.countP p := by
  induction names with
  | nil => intro values; rfl
  | cons name r ih =>
    intro values
    rw [List.foldl_cons, ih (fun name hn => hf name (List.mem_cons_of_mem _ hn)),
      sum_setSeries (hf name List.mem_cons_self), List.countP_cons, Nat.add_assoc,
      Nat.add_comm (r.countP p)]

/-- The series of a family show how many events it has. -/
theorem sumOf_name (l : Ledger) {f : Metric.Family} (h : f ≠ .poolSize) :
    l.sumOf f.name = l.countP fun m => m.family = f := by
  induction l with
  | nil => rfl
  | cons m l ih =>
    have hupdate : ∀ name ∈ m.series, isOf f.name name = true → ∀ n, m.update n = n + 1 := by
      intro name hname hof
      refine Metric.update_of_family fun hpool => ?_
      have hnone := countP_series m f
      rw [if_neg (hpool ▸ h.symm), List.countP_eq_zero] at hnone
      exact hnone name hname hof
    rw [sumOf, report_cons, sum_foldl_setSeries _ hupdate, countP_series, List.countP_cons, ← ih]
    simp [sumOf]

end Ledger

end Failover
