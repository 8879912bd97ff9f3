import Failover.Ledger

/-!
# What the ledger reports

A report is made by going through the events in their order and setting the series of
each (`report_cons`). An event leaves every other series alone, so the value of a
series is decided by its own events: for the gauge of the pool that is the last size
that was written down (`lookup_report_poolSize`).

The names of series tell their families apart by the first characters alone, whatever
the labels are (`seriesName_ne`).
-/

namespace Failover

/-- Series whose names begin differently are different. -/
theorem seriesName_ne {name name' : String} (n : Nat) (hn : n ≤ name.toList.length)
    (hn' : n ≤ name'.toList.length) (h : name.toList.take n ≠ name'.toList.take n)
    (labels labels' : List (String × String)) :
    seriesName name labels ≠ seriesName name' labels' := by
  intro he
  have ht : (seriesName name labels).toList.take n = (seriesName name' labels').toList.take n := by
    rw [he]
  unfold seriesName at ht
  simp only [String.toList_append, List.append_assoc] at ht
  rw [List.take_append_of_le_length hn, List.take_append_of_le_length hn'] at ht
  exact h ht

namespace Ledger

theorem lookup_setSeries_self (values : List (String × Nat)) (name : String) (f : Nat → Nat) :
    (setSeries values name f).lookup name = some (f ((values.lookup name).getD 0)) := by
  induction values with
  | nil => simp [setSeries]
  | cons v r ih =>
    obtain ⟨k, n⟩ := v
    unfold setSeries
    by_cases hk : k = name
    · simp [hk]
    · have hb : (name == k) = false := beq_false_of_ne (Ne.symm hk)
      rw [if_neg hk, List.lookup_cons, List.lookup_cons, hb]
      exact ih

theorem lookup_setSeries_of_ne (values : List (String × Nat)) {name other : String}
    (h : other ≠ name) (f : Nat → Nat) :
    (setSeries values name f).lookup other = values.lookup other := by
  induction values with
  | nil => simp [setSeries, h]
  | cons v r ih =>
    obtain ⟨k, n⟩ := v
    unfold setSeries
    by_cases hk : k = name
    · have hb : (other == k) = false := beq_false_of_ne (hk ▸ h)
      rw [if_pos hk, List.lookup_cons, List.lookup_cons, hb]
    · rw [if_neg hk, List.lookup_cons, List.lookup_cons, ih]

theorem lookup_foldl_setSeries (f : Nat → Nat) {other : String} :
    ∀ (names : List String) (values : List (String × Nat)), other ∉ names →
      (names.foldl (fun values name => setSeries values name f) values).lookup other =
        values.lookup other := by
  intro names
  induction names with
  | nil => intro values _; rfl
  | cons name r ih =>
    intro values h
    rw [List.mem_cons, not_or] at h
    rw [List.foldl_cons, ih _ h.2, lookup_setSeries_of_ne _ h.1]

theorem report_cons (l : Ledger) (m : Metric) :
    report (m :: l) =
      m.series.foldl (fun values name => setSeries values name m.update) l.report := by
  unfold report
  rw [List.reverse_cons, List.foldl_append]
  rfl

theorem lookup_report_of_notMem (l : Ledger) {m : Metric} {name : String} (h : name ∉ m.series) :
    (report (m :: l)).lookup name = l.report.lookup name := by
  rw [report_cons]
  exact lookup_foldl_setSeries _ _ _ h

/-- The gauge of the pool shows the last size that was written down. -/
theorem lookup_report_poolSize (l : Ledger) :
    l.report.lookup (seriesName "trellis_pool_size" []) = l.poolSize? := by
  induction l with
  | nil => rfl
  | cons m r ih =>
    have hne : ∀ {name : String}, 9 ≤ name.toList.length →
        "trellis_pool_size".toList.take 9 ≠ name.toList.take 9 → ∀ labels,
        seriesName "trellis_pool_size" [] ≠ seriesName name labels :=
      fun hn h labels => seriesName_ne 9 (by decide) hn h [] labels
    cases m with
    | poolSize n =>
      rw [report_cons]
      exact lookup_setSeries_self _ _ _
    | request method status =>
      rw [lookup_report_of_notMem _ ?_, ih]
      · rfl
      · simp only [Metric.series, List.mem_cons, List.not_mem_nil, or_false, not_or]
        exact ⟨hne (by decide) (by decide) _, hne (by decide) (by decide) _⟩
    | _ =>
      rw [lookup_report_of_notMem _ ?_, ih]
      · rfl
      · rw [Metric.series, List.mem_singleton]
        exact hne (by decide) (by decide) _

end Ledger

end Failover
