import Mathlib.Tactic.SplitIfs
import Failover.Json.Reader
import Failover.Proofs.Dict

/-!
# Values that are read have their fields in order

An object is a dictionary, so the fields of every object in a value stand in ascending order of
their names (`Value.Ordered`). A value that is read from a text is such a value
(`ordered_of_parse`): whatever order and however often the text names its fields, they are put
into a dictionary. What holds of all that a reader reads holds of the items of its lists and of
the fields of its objects (`forall_of_readItems`, `forall_of_readFields`), and from there the
proof goes down with the depth.
-/

namespace Failover

namespace Dict

variable {α : Type} {d : Dict α}

/-- A dictionary has nothing that was not put into it. -/
theorem mem_insertAll {pairs : List (String × α)} {p : String × α} (h : p ∈ d.insertAll pairs) :
    p ∈ d ∨ p ∈ pairs := by
  induction pairs generalizing d with
  | nil => exact .inl h
  | cons q r ih =>
    rcases ih h with hmem | hmem
    · rcases mem_insert hmem with heq | hmem
      · exact .inr (heq ▸ List.mem_cons_self)
      · exact .inl hmem
    · exact .inr (List.mem_cons_of_mem _ hmem)

theorem mem_ofList {pairs : List (String × α)} {p : String × α} (h : p ∈ ofList pairs) :
    p ∈ pairs :=
  (mem_insertAll h).resolve_left List.not_mem_nil

end Dict

namespace Json

/-- The fields of every object in the value stand in ascending order. -/
inductive Value.Ordered : Value → Prop
  | null : Ordered .null
  | bool (b : Bool) : Ordered (.bool b)
  | number (n : Number) : Ordered (.number n)
  | string (s : String) : Ordered (.string s)
  | array {items : List Value} (h : ∀ v ∈ items, Ordered v) : Ordered (.array items)
  | object {fields : Dict Value} (hnames : fields.Ascending) (h : ∀ p ∈ fields, Ordered p.2) :
    Ordered (.object fields)

theorem Value.ascending_of_ordered {fields : Dict Value} (h : Ordered (.object fields)) :
    fields.Ascending := by
  cases h with
  | object hnames _ => exact hnames

/-- A field of an ordered value is ordered. -/
theorem Value.Ordered.field? {v w : Value} {name : String} (h : v.Ordered)
    (hw : v.field? name = some w) : w.Ordered := by
  cases h with
  | object _ hfields => exact hfields _ (Dict.mem_of_get? hw)
  | _ => cases hw

section

variable {α β : Type} {c d : Cursor} {P : α → Prop}

theorem map_eq_ok {ε : Type} {x : Except ε α} {f : α → β} {y : β} (h : x.map f = .ok y) :
    ∃ a, x = .ok a ∧ f a = y := by
  cases x with
  | error e => cases h
  | ok a => exact ⟨a, rfl, Except.ok.inj h⟩

/-- What holds of whatever the reader reads. -/
def Reader.Always (item : Reader α) (P : α → Prop) : Prop :=
  ∀ c x, item c = .ok x → P x.value

theorem forall_of_readItems {item : Reader α} (hitem : item.Always P) (first : Bool) :
    (readItems item first).Always fun items => ∀ v ∈ items, P v := by
  intro c
  fun_induction readItems item first c with
  | case2 _ c =>
    intro x h
    cases h
    exact fun v hv => absurd hv List.not_mem_nil
  | case4 c hs ch r hne hrest v hv hlt ih =>
    intro x h
    obtain ⟨more, hmore, rfl⟩ := map_eq_ok h
    exact List.forall_mem_cons.2 ⟨hitem _ _ hv, ih _ hmore⟩
  | case8 first c hs r hfirst d hd v hv hlt hnil hbracket hcomma hrest hlt' ih =>
    intro x h
    obtain ⟨more, hmore, rfl⟩ := map_eq_ok h
    exact List.forall_mem_cons.2 ⟨hitem _ _ hv, ih _ hmore⟩
  | _ => intro x h; cases h

theorem always_readField {item : Reader α} (hitem : item.Always P) :
    (readField item).Always fun p => P p.2 := by
  intro c x h
  unfold readField at h
  split at h
  · cases h
  next name hname =>
    obtain ⟨v, hv, rfl⟩ := map_eq_ok h
    exact hitem _ _ hv

theorem forall_of_readFields {item : Reader α} (hitem : item.Always P) (first : Bool) :
    (readFields item first).Always fun fields => ∀ p ∈ fields, P p.2 := by
  intro c
  fun_induction readFields item first c with
  | case2 _ c =>
    intro x h
    cases h
    exact fun p hp => absurd hp List.not_mem_nil
  | case4 c hs ch r hrest hne p hp hlt ih =>
    intro x h
    obtain ⟨more, hmore, rfl⟩ := map_eq_ok h
    exact List.forall_mem_cons.2 ⟨always_readField hitem _ _ hp, ih _ hmore⟩
  | case8 first c hs r hfirst d hd p hp hlt hnil hbrace hrest hcomma hlt' ih =>
    intro x h
    obtain ⟨more, hmore, rfl⟩ := map_eq_ok h
    exact List.forall_mem_cons.2 ⟨always_readField hitem _ _ hp, ih _ hmore⟩
  | _ => intro x h; cases h

end

/-! ## Values -/

theorem ordered_of_readScalar {c : Cursor} {ch : Char} {r : List Char} {hc : c.rest = ch :: r}
    {x : Read Value c} (h : readScalar c ch r hc = .ok x) : x.value.Ordered := by
  unfold readScalar at h
  dsimp only at h
  split_ifs at h
  · obtain ⟨y, -, rfl⟩ := map_eq_ok h
    exact .null
  · obtain ⟨y, -, rfl⟩ := map_eq_ok h
    exact .bool true
  · obtain ⟨y, -, rfl⟩ := map_eq_ok h
    exact .bool false
  · obtain ⟨y, -, rfl⟩ := map_eq_ok h
    exact .number y.value
  · obtain ⟨y, -, rfl⟩ := map_eq_ok h
    exact .number y.value
  · obtain ⟨y, -, rfl⟩ := map_eq_ok h
    exact .string y.value
  · cases h

theorem ordered_of_readValue (depth : Nat) : (readValue depth).Always Value.Ordered := by
  induction depth with
  | zero =>
    intro c x h
    unfold readValue at h
    split at h
    · cases h
    · split at h
      · cases h
      · obtain ⟨y, hy, rfl⟩ := map_eq_ok h
        exact (ordered_of_readScalar hy : y.value.Ordered)
  | succ depth ih =>
    intro c x h
    unfold readValue at h
    split at h
    · cases h
    · dsimp only at h
      split_ifs at h
      · obtain ⟨items, hitems, rfl⟩ := map_eq_ok h
        exact .array (forall_of_readItems ih true _ _ hitems)
      · obtain ⟨fields, hfields, rfl⟩ := map_eq_ok h
        exact .object (Dict.ascending_ofList _) fun p hp =>
          forall_of_readFields ih true _ _ hfields p (Dict.mem_ofList hp)
      · obtain ⟨y, hy, rfl⟩ := map_eq_ok h
        exact (ordered_of_readScalar hy : y.value.Ordered)

/-- **A value that is read has its fields in order.** -/
theorem Value.ordered_of_parse {text : String} {v : Value} (h : Value.parse text = .ok v) :
    v.Ordered := by
  unfold Value.parse Value.parseChars at h
  cases hread : readValue maxDepth (.ofText text.toList) with
  | error e => simp [hread, bind, Except.bind, Except.mapError] at h
  | ok x =>
    cases hfinish : x.next.finish with
    | error e => simp [hread, hfinish, bind, Except.bind, Except.mapError] at h
    | ok u =>
      simp only [hread, hfinish, bind, Except.bind, pure, Except.pure, Except.mapError,
        Except.ok.injEq] at h
      exact h ▸ ordered_of_readValue maxDepth _ _ hread

end Json

end Failover
