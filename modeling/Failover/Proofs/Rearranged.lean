import Mathlib.Data.List.Forall2
import Failover.Proofs.JsonOrder

/-!
# Values that differ in the order of fields

A record is written with its members in the order in which it declares them, and a value keeps
the fields of an object in the order of their names. So what is read from a written record is not
the value that was written but a rearrangement of it (`Value.Rearranged`): in every object, at
every depth, the same names with rearranged values, in any order. Putting different names into a
dictionary only orders them (`Dict.perm_ofList`), and from a rearrangement of a dictionary's
entries the same dictionary is made (`Dict.ofList_of_perm`).
-/

namespace Failover

namespace Dict

variable {α : Type} {d : Dict α} {name : String}

/-- A name that is new is put somewhere into the dictionary. -/
theorem perm_insert (h : name ∉ d.names) (v : α) : (d.insert name v).Perm ((name, v) :: d) := by
  induction d with
  | nil => exact .refl _
  | cons p r ih =>
    obtain ⟨k, w⟩ := p
    obtain ⟨hfirst, hrest⟩ := not_or.1 (mt List.mem_cons.2 h)
    have hne : name ≠ k := hfirst
    rw [insert, if_neg hne]
    split
    · exact .refl _
    · exact ((ih hrest).cons (k, w)).trans (.swap _ _ _)

theorem perm_insertAll {pairs : List (String × α)} (h : (d.names ++ pairs.map Prod.fst).Nodup) :
    (d.insertAll pairs).Perm (d ++ pairs) := by
  induction pairs generalizing d with
  | nil => rw [List.append_nil]; exact .refl _
  | cons p r ih =>
    have hmiddle : (p.1 :: (d.names ++ r.map Prod.fst)).Nodup := List.perm_middle.nodup_iff.1 h
    have hnew : p.1 ∉ d.names := fun hmem =>
      (List.nodup_cons.1 hmiddle).1 (List.mem_append_left _ hmem)
    have hinsert := perm_insert hnew p.2
    have hnames : (d.insert p.1 p.2).names.Perm (p.1 :: d.names) := hinsert.map Prod.fst
    refine (ih ((hnames.append_right _).nodup_iff.2 hmiddle)).trans ?_
    exact (hinsert.append_right r).trans List.perm_middle.symm

/-- Pairs with different names are only put in order. -/
theorem perm_ofList {pairs : List (String × α)} (h : (pairs.map Prod.fst).Nodup) :
    (ofList pairs).Perm pairs :=
  perm_insertAll h

theorem Ascending.nodup (h : d.Ascending) : (d.map Prod.fst).Nodup :=
  List.pairwise_map.2 (h.imp fun hlt => ne_of_lt hlt)

/-- What is in a dictionary makes it, in whatever order it is put together. -/
theorem ofList_of_perm {pairs : List (String × α)} (h : d.Ascending) (hperm : pairs.Perm d) :
    ofList pairs = d := by
  have hnodup : (pairs.map Prod.fst).Nodup := (hperm.map Prod.fst).nodup_iff.2 h.nodup
  refine ((perm_ofList hnodup).trans hperm).eq_of_pairwise (fun p q _ _ hlt hgt => ?_)
    (ascending_ofList pairs) h
  exact absurd hgt (lt_asymm hlt)

end Dict

theorem exists_of_mem_right {α β : Type} {R : α → β → Prop} {xs : List α} {ys : List β}
    (h : List.Forall₂ R xs ys) {y : β} (hy : y ∈ ys) : ∃ x ∈ xs, R x y := by
  induction h with
  | nil => exact absurd hy List.not_mem_nil
  | @cons x z xs ys hxz _ ih =>
    rcases List.mem_cons.1 hy with rfl | hy
    · exact ⟨x, List.mem_cons_self, hxz⟩
    · obtain ⟨x', hx', hy'⟩ := ih hy
      exact ⟨x', List.mem_cons_of_mem _ hx', hy'⟩

/-- Pairs that agree in their first parts and are related in their second. -/
theorem forall₂_fields {α β γ : Type} {R : β → γ → Prop} {ps : List (α × β)}
    {qs : List (α × γ)} :
    List.Forall₂ (fun p q => p.1 = q.1 ∧ R p.2 q.2) ps qs ↔
      ps.map Prod.fst = qs.map Prod.fst ∧
        List.Forall₂ R (ps.map Prod.snd) (qs.map Prod.snd) := by
  rw [← List.forall₂_eq_eq_eq, List.forall₂_map_left_iff, List.forall₂_map_right_iff,
    List.forall₂_map_left_iff, List.forall₂_map_right_iff]
  constructor
  · exact fun h => ⟨h.imp fun _ _ hpair => hpair.1, h.imp fun _ _ hpair => hpair.2⟩
  · rintro ⟨hnames, hvalues⟩
    induction hnames with
    | nil => exact .nil
    | cons hname _ ih =>
      obtain ⟨hvalue, hmore⟩ := List.forall₂_cons.1 hvalues
      exact .cons ⟨hname, hvalue⟩ (ih hmore)

namespace Json.Value

/-- The same value with the fields of its objects in any order. -/
inductive Rearranged : Value → Value → Prop
  | null : Rearranged .null .null
  | bool (b : Bool) : Rearranged (.bool b) (.bool b)
  | number (n : Number) : Rearranged (.number n) (.number n)
  | string (s : String) : Rearranged (.string s) (.string s)
  | array {items others : List Value} (h : List.Forall₂ Rearranged items others) :
    Rearranged (.array items) (.array others)
  | object {fields same others : List (String × Value)}
    (names : same.map Prod.fst = fields.map Prod.fst)
    (values : List.Forall₂ Rearranged (fields.map Prod.snd) (same.map Prod.snd))
    (order : others.Perm same) : Rearranged (.object fields) (.object others)

mutual

theorem rearranged_self : (v : Value) → Rearranged v v
  | .null => .null
  | .bool _ => .bool _
  | .number _ => .number _
  | .string _ => .string _
  | .array items => .array (rearranged_items items)
  | .object fields => .object rfl (rearranged_fields fields) (.refl _)

theorem rearranged_items : (items : List Value) → List.Forall₂ Rearranged items items
  | [] => .nil
  | v :: more => .cons (rearranged_self v) (rearranged_items more)

theorem rearranged_fields : (fields : List (String × Value)) →
    List.Forall₂ Rearranged (fields.map Prod.snd) (fields.map Prod.snd)
  | [] => .nil
  | (_, v) :: more => .cons (rearranged_self v) (rearranged_fields more)

end

theorem Rearranged.exists_object {fields : List (String × Value)} {v : Value}
    (h : Rearranged (.object fields) v) : ∃ others, v = .object others := by
  cases h with
  | object => exact ⟨_, rfl⟩

/-- The fields of the one object are those of the other in some order, each with a rearranged
value. -/
theorem Rearranged.exists_fields {fields others : List (String × Value)}
    (h : Rearranged (.object fields) (.object others)) :
    ∃ same : List (String × Value), others.Perm same ∧
      List.Forall₂ (fun p q => p.1 = q.1 ∧ Rearranged p.2 q.2) fields same := by
  cases h with
  | object names values order => exact ⟨_, order, forall₂_fields.2 ⟨names.symm, values⟩⟩

/-- What stands in one of the objects stands in the other. -/
theorem Rearranged.exists_field {fields others : List (String × Value)}
    (h : Rearranged (.object fields) (.object others)) {q : String × Value} (hq : q ∈ others) :
    ∃ p ∈ fields, p.1 = q.1 ∧ Rearranged p.2 q.2 := by
  obtain ⟨same, order, hfields⟩ := h.exists_fields
  exact exists_of_mem_right hfields (order.subset hq)

theorem Rearranged.names {fields others : List (String × Value)}
    (h : Rearranged (.object fields) (.object others)) :
    (others.map Prod.fst).Perm (fields.map Prod.fst) := by
  cases h with
  | object names values order => exact names ▸ order.map Prod.fst

/-! ## Values without objects -/

section

variable {v : Value}

theorem Rearranged.eq_bool {b : Bool} (h : (Value.bool b).Rearranged v) : v = .bool b := by
  cases h
  rfl

theorem Rearranged.eq_string {s : String} (h : (Value.string s).Rearranged v) :
    v = .string s := by
  cases h
  rfl

theorem Rearranged.eq_ofNat {n : Nat} (h : (ofNat n).Rearranged v) : v = ofNat n := by
  cases h
  rfl

/-- There is only one order in which a list can stand. -/
theorem Rearranged.eq_ofStrings {ss : List String} (h : (ofStrings ss).Rearranged v) :
    v = ofStrings ss := by
  cases h with
  | @array _ others hitems =>
    have hsame : ss.map Value.string = others := by
      rw [← List.forall₂_eq_eq_eq, List.forall₂_map_left_iff]
      exact (List.forall₂_map_left_iff.1 hitems).imp fun _ _ hv => hv.eq_string.symm
    exact congrArg Value.array hsame.symm

/-- The entries of a dictionary of strings stand in some order. -/
theorem Rearranged.perm_strings {d : Dict String} {others : List (String × Value)}
    (h : Rearranged (.object (d.map fun (name, s) => (name, .string s))) (.object others)) :
    others.Perm (d.map fun (name, s) => (name, .string s)) := by
  obtain ⟨same, order, hfields⟩ := h.exists_fields
  have hsame : (d.map fun (name, s) => (name, Value.string s)) = same := by
    rw [← List.forall₂_eq_eq_eq, List.forall₂_map_left_iff]
    exact (List.forall₂_map_left_iff.1 hfields).imp fun _ _ hp =>
      Prod.ext hp.1 hp.2.eq_string.symm
  exact hsame ▸ order

end

end Json.Value

end Failover
