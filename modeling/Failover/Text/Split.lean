/-!
# Splitting a text at separators

Host names are split at dots, paths at slashes, tables at white space. One
function serves them all: it never returns an empty list, it keeps the empty
pieces, and pieces without a separator come back from the text that joins them
(`splitOn_intercalate_pieces`).
-/

namespace Failover.Text

/-- The pieces between the characters that satisfy `sep`, empty ones included. -/
def splitOn (sep : Char → Bool) : List Char → List (List Char)
  | [] => [[]]
  | c :: r =>
    if sep c then [] :: splitOn sep r
    else
      match splitOn sep r with
      | [] => [[c]]
      | piece :: pieces => (c :: piece) :: pieces

theorem splitOn_cons (sep : Char → Bool) (c : Char) (r : List Char) :
    splitOn sep (c :: r) =
      if sep c then [] :: splitOn sep r
      else
        match splitOn sep r with
        | [] => [[c]]
        | piece :: pieces => (c :: piece) :: pieces :=
  rfl

theorem splitOn_ne_nil (sep : Char → Bool) (cs : List Char) : splitOn sep cs ≠ [] := by
  cases cs with
  | nil => exact List.cons_ne_nil _ _
  | cons c r =>
    rw [splitOn_cons]
    split
    · simp
    · split <;> simp

/-- No piece holds a separator. -/
theorem not_sep_of_mem_splitOn {sep : Char → Bool} {cs piece : List Char}
    (h : piece ∈ splitOn sep cs) : ∀ c ∈ piece, sep c = false := by
  induction cs generalizing piece with
  | nil =>
    obtain rfl := List.mem_singleton.1 h
    exact List.forall_mem_nil _
  | cons a r ih =>
    rw [splitOn_cons] at h
    split at h
    · rcases List.mem_cons.1 h with rfl | h
      · simp
      · exact ih h
    · rename_i ha
      split at h
      · simp_all
      · rename_i p ps heq
        rcases List.mem_cons.1 h with rfl | h
        · intro c hc
          rcases List.mem_cons.1 hc with rfl | hc
          · simpa using ha
          · exact ih (by rw [heq]; exact .head _) c hc
        · exact ih (by rw [heq]; exact .tail _ h)

/-- A text without a separator is one piece. -/
theorem splitOn_eq_singleton {sep : Char → Bool} {piece : List Char}
    (h : ∀ c ∈ piece, sep c = false) : splitOn sep piece = [piece] := by
  induction piece with
  | nil => rfl
  | cons c r ih =>
    rw [splitOn_cons, h c List.mem_cons_self, ih fun d hd => h d (List.mem_cons_of_mem _ hd)]
    simp

/-- The first piece ends at the first separator. -/
theorem splitOn_append_cons {sep : Char → Bool} {piece : List Char} {mark : Char}
    (h : ∀ c ∈ piece, sep c = false) (hmark : sep mark = true) (rest : List Char) :
    splitOn sep (piece ++ mark :: rest) = piece :: splitOn sep rest := by
  induction piece with
  | nil => rw [List.nil_append, splitOn_cons, hmark, if_pos rfl]
  | cons c r ih =>
    rw [List.cons_append, splitOn_cons, h c List.mem_cons_self,
      ih fun d hd => h d (List.mem_cons_of_mem _ hd)]
    simp

/-- Join pieces by a separator and split the text again: the pieces come back. -/
theorem splitOn_intercalate_pieces {sep : Char → Bool} {mark : Char} (hmark : sep mark = true)
    {pieces : List (List Char)} (hne : pieces ≠ [])
    (h : ∀ piece ∈ pieces, ∀ c ∈ piece, sep c = false) :
    splitOn sep ([mark].intercalate pieces) = pieces := by
  induction pieces with
  | nil => exact absurd rfl hne
  | cons piece more ih =>
    have hpiece := h piece List.mem_cons_self
    cases more with
    | nil => rw [List.intercalate_singleton, splitOn_eq_singleton hpiece]
    | cons next more =>
      rw [List.intercalate_cons_cons, List.append_assoc, List.singleton_append,
        splitOn_append_cons hpiece hmark,
        ih (List.cons_ne_nil _ _) fun q hq => h q (List.mem_cons_of_mem _ hq)]

/-- A joined text holds what the pieces hold, and the separator. -/
theorem mem_intercalate {mark c : Char} {pieces : List (List Char)}
    (h : c ∈ [mark].intercalate pieces) : c = mark ∨ ∃ piece ∈ pieces, c ∈ piece := by
  induction pieces with
  | nil => cases h
  | cons piece more ih =>
    cases more with
    | nil => exact .inr ⟨piece, List.mem_cons_self, by rwa [List.intercalate_singleton] at h⟩
    | cons next more =>
      rw [List.intercalate_cons_cons, List.append_assoc, List.singleton_append, List.mem_append,
        List.mem_cons] at h
      rcases h with h | rfl | h
      · exact .inr ⟨piece, List.mem_cons_self, h⟩
      · exact .inl rfl
      · obtain rfl | ⟨q, hq, hc⟩ := ih h
        · exact .inl rfl
        · exact .inr ⟨q, List.mem_cons_of_mem _ hq, hc⟩

end Failover.Text
