import Failover.Text.Split
import Failover.Url.Percent

/-!
# Paths of URLs

A path is a list of segments. `.` and `..`, in the plain or the percent-encoded
spelling, are steps and not segments: they are taken while the path is read, and
a path that ends in one ends in an empty segment. The root cannot be left.

`Segment` says what a segment of a finished path looks like; `normalise_eq_self`
says that such segments are left alone, so reading a path again changes nothing.
-/

namespace Failover.Url

open Failover.Text

/-- The spellings of a step that stays. -/
def isDot (s : List Char) : Bool :=
  s.map Char.toLower == ['.'] || s.map Char.toLower == ['%', '2', 'e']

/-- The spellings of a step up. -/
def isDoubleDot (s : List Char) : Bool :=
  match s.map Char.toLower with
  | ['.', '.'] | ['.', '%', '2', 'e'] | ['%', '2', 'e', '.'] => true
  | ['%', '2', 'e', '%', '2', 'e'] => true
  | _ => false

/-- Takes the segments onto those before them, which are kept in reverse. -/
def takeSegments (before : List (List Char)) : List (List Char) → List (List Char)
  | [] => before.reverse
  | [s] =>
    if isDoubleDot s then ([] :: before.tail).reverse
    else if isDot s then ([] :: before).reverse
    else (percentEncode pathSet s :: before).reverse
  | s :: more =>
    if isDoubleDot s then takeSegments before.tail more
    else if isDot s then takeSegments before more
    else takeSegments (percentEncode pathSet s :: before) more

/-- The path that the text between slashes describes. -/
def normalise (segments : List (List Char)) : List (List Char) :=
  takeSegments [] segments

/-- Segments as they stand in a URL, each behind a slash. -/
def writeSegments (segments : List (List Char)) : List Char :=
  segments.flatMap ('/' :: ·)

/-- A segment of a finished path: no step, and nothing left to encode. -/
def Segment (s : List Char) : Prop :=
  isDot s = false ∧ isDoubleDot s = false ∧ ∀ c ∈ s, pathSet c = false

theorem takeSegments_append_reverse (before : List (List Char)) {segments : List (List Char)}
    (h : ∀ s ∈ segments, Segment s) :
    takeSegments before segments = before.reverse ++ segments := by
  fun_induction takeSegments before segments with
  | case1 => simp
  | case2 _ s hd => simp [(h s (by simp)).2.1] at hd
  | case3 _ s _ hd => simp [(h s (by simp)).1] at hd
  | case4 _ s _ _ => simp [percentEncode_eq_self (h s (by simp)).2.2]
  | case5 _ s more _ hd => simp [(h s (by simp)).2.1] at hd
  | case6 _ s more _ _ hd => simp [(h s (by simp)).1] at hd
  | case7 before s more _ _ _ ih =>
    rw [ih fun t ht => h t (by simp [ht]), percentEncode_eq_self (h s (by simp)).2.2]
    simp

/-- A finished path is left as it is. -/
theorem normalise_eq_self {segments : List (List Char)} (h : ∀ s ∈ segments, Segment s) :
    normalise segments = segments := by
  simpa [normalise] using takeSegments_append_reverse [] h

end Failover.Url
