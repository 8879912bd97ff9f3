import Mathlib.Data.String.Basic
import Failover.Dict

/-!
# Laws of dictionaries

A dictionary that is built by giving names their values has its names in ascending order
(`Ascending`), so each of them once, and what is in it is what looking up finds
(`Ascending.mem_iff`). What a name means after a list of pairs was put in is told by the pairs
if one of them has it, and by what was there before if none has (`get?_insertAll_cases`).
-/

namespace Failover.Dict

variable {α : Type} {d : Dict α} {name : String} {v : α}

/-- The names stand in ascending order. -/
def Ascending (d : Dict α) : Prop := d.Pairwise fun p q => p.1 < q.1

theorem mem_insert {p : String × α} (h : p ∈ d.insert name v) : p = (name, v) ∨ p ∈ d := by
  induction d with
  | nil => exact .inl (List.mem_singleton.1 h)
  | cons q r ih =>
    rw [insert] at h
    split at h
    · exact List.mem_cons.1 h
    · split at h
      · exact (List.mem_cons.1 h).imp_right (List.mem_cons_of_mem _)
      · rcases List.mem_cons.1 h with rfl | h
        · exact .inr List.mem_cons_self
        · exact (ih h).imp_right (List.mem_cons_of_mem _)

/-- A name finds its place. -/
theorem Ascending.insert (h : d.Ascending) (name : String) (v : α) :
    (d.insert name v).Ascending := by
  induction d with
  | nil => exact List.pairwise_singleton _ _
  | cons p r ih =>
    obtain ⟨hfirst, hrest⟩ := List.pairwise_cons.1 h
    rw [Dict.insert]
    split
    next hlt =>
      refine List.pairwise_cons.2 ⟨fun q hq => ?_, h⟩
      rcases List.mem_cons.1 hq with rfl | hq
      · exact hlt
      · exact lt_trans hlt (hfirst q hq)
    next hnot =>
      split
      next heq => exact List.pairwise_cons.2 ⟨fun q hq => heq ▸ hfirst q hq, hrest⟩
      next hne =>
        refine List.pairwise_cons.2 ⟨fun q hq => ?_, ih hrest⟩
        rcases mem_insert hq with rfl | hq
        · exact lt_of_le_of_ne (not_lt.1 hnot) (Ne.symm hne)
        · exact hfirst q hq

theorem Ascending.insertAll (h : d.Ascending) (pairs : List (String × α)) :
    (d.insertAll pairs).Ascending := by
  induction pairs generalizing d with
  | nil => exact h
  | cons p r ih => exact ih (h.insert p.1 p.2)

theorem ascending_ofList (pairs : List (String × α)) : (ofList pairs).Ascending :=
  Ascending.insertAll List.Pairwise.nil pairs

theorem Ascending.insertNew (h : d.Ascending) (name : String) (v : α) :
    (d.insertNew name v).Ascending := by
  unfold Dict.insertNew
  split
  · exact h
  · exact h.insert name v

theorem mem_of_get? (h : d.get? name = some v) : (name, v) ∈ d := by
  induction d with
  | nil => cases h
  | cons p r ih =>
    rw [get?] at h
    split at h
    next heq =>
      cases h
      rw [heq]
      exact List.mem_cons_self
    · exact List.mem_cons_of_mem _ (ih h)

/-- In a dictionary with ascending names there is what is found in it. -/
theorem Ascending.mem_iff (h : d.Ascending) : (name, v) ∈ d ↔ d.get? name = some v := by
  refine ⟨fun hmem => ?_, mem_of_get?⟩
  induction d with
  | nil => cases hmem
  | cons p r ih =>
    obtain ⟨hfirst, hrest⟩ := List.pairwise_cons.1 h
    rw [get?]
    rcases List.mem_cons.1 hmem with rfl | hmem
    · rw [if_pos rfl]
    · rw [if_neg (ne_of_gt (hfirst _ hmem)), ih hrest hmem]

/-- What a name means after pairs were put in. -/
theorem get?_insertAll_cases (d : Dict α) (pairs : List (String × α)) (name : String) :
    (∃ p ∈ pairs, p.1 = name ∧ (d.insertAll pairs).get? name = some p.2) ∨
      (∀ p ∈ pairs, p.1 ≠ name) ∧ (d.insertAll pairs).get? name = d.get? name := by
  induction pairs generalizing d with
  | nil => exact .inr ⟨(fun p hp => absurd hp List.not_mem_nil), rfl⟩
  | cons p r ih =>
    rcases ih (d.insert p.1 p.2) with ⟨q, hq, hname, hvalue⟩ | ⟨hnone, hvalue⟩
    · exact .inl ⟨q, List.mem_cons_of_mem _ hq, hname, hvalue⟩
    · rw [get?_insert] at hvalue
      by_cases hp : name = p.1
      · rw [if_pos hp] at hvalue
        exact .inl ⟨p, List.mem_cons_self, hp.symm, hvalue⟩
      · rw [if_neg hp] at hvalue
        exact .inr ⟨List.forall_mem_cons.2 ⟨Ne.symm hp, hnone⟩, hvalue⟩

theorem get?_insertNew (d : Dict α) (name other : String) (v : α) :
    (d.insertNew name v).get? other =
      if other = name ∧ d.get? name = none then some v else d.get? other := by
  unfold insertNew contains
  cases hvalue : d.get? name with
  | none => simp [get?_insert]
  | some w => simp

end Failover.Dict
