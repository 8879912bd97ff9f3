import Mathlib
import Failover.Http.Fault

/-!
# How failures are told apart

The kind of a failure decides whether another attempt is made and whether a server is taken out
of the pool. It is found in steps, each of which is taken only where those before it have found
nothing: what the operating system says, the time that ran out, the words of the causes, the
stage of the exchange. `Fault.Classified` has one case for each way in which the steps can end,
and `Fault.kind_classified` says that these are what they come to.

The words are looked for in all causes at once, joined by a colon and a space. That is the same
as looking into one cause after the other (`mentions_causesText`): none of the words has a colon
in it, so none reaches over a joint, and none begins with a space, so none begins in one.
-/

namespace Failover.Http

/-! ## Looking for a word -/

theorem mentions_iff {word text : List Char} : mentions word text = true ↔ word <:+: text := by
  induction text with
  | nil => rw [mentions, List.isEmpty_iff, List.infix_nil]
  | cons c r ih =>
    rw [mentions, Bool.or_eq_true, List.isPrefixOf_iff_prefix, ih, List.infix_cons_iff]

/-- What stands between two causes. -/
def joint : List Char := [':', ' ']

/-- The word neither reaches over a joint nor begins in one. -/
structure IsTelling (word : List Char) : Prop where
  colon : ':' ∉ word
  head : ∃ c r, word = c :: r ∧ c ≠ ' '

theorem IsTelling.ne_nil {word : List Char} (h : IsTelling word) : word ≠ [] := by
  obtain ⟨c, r, rfl, -⟩ := h.head
  exact List.cons_ne_nil c r

/-- Such a word stands on one side of a joint. -/
theorem IsTelling.infix_joint {word : List Char} (h : IsTelling word) (left right : List Char) :
    word <:+: left ++ joint ++ right ↔ word <:+: left ∨ word <:+: right := by
  constructor
  · intro hword
    rw [List.append_assoc, List.infix_append_iff] at hword
    rcases hword with hleft | hright | ⟨front, back, rfl, hfront, hback⟩
    · exact .inl hleft
    · -- It begins neither with the colon nor with the space.
      rcases List.infix_cons_iff.1 hright with hcolon | hrest
      · obtain ⟨c, r, rfl, -⟩ := h.head
        have hc : c = ':' := (List.cons_prefix_cons.1 hcolon).1
        exact absurd (hc ▸ List.mem_cons_self) h.colon
      · rcases List.infix_cons_iff.1 hrest with hspace | hright
        · obtain ⟨c, r, rfl, hc⟩ := h.head
          exact absurd (List.cons_prefix_cons.1 hspace).1 hc
        · exact .inr hright
    · cases back with
      | nil =>
        rw [List.append_nil]
        exact .inl hfront.isInfix
      | cons c r =>
        have hc : c = ':' := (List.cons_prefix_cons.1 hback).1
        exact absurd (List.mem_append_right front (hc ▸ List.mem_cons_self)) h.colon
  · rintro (hleft | hright)
    · exact hleft.trans ((List.prefix_append left joint).trans (List.prefix_append _ _)).isInfix
    · exact hright.trans (List.suffix_append _ _).isInfix

/-- And in a row of texts in one of them. -/
theorem IsTelling.infix_intercalate {word : List Char} (h : IsTelling word)
    (texts : List (List Char)) :
    word <:+: joint.intercalate texts ↔ ∃ text ∈ texts, word <:+: text := by
  induction texts with
  | nil =>
    have hnil : ¬ word <:+: joint.intercalate [] := fun hword => h.ne_nil (List.infix_nil.1 hword)
    exact iff_of_false hnil fun ⟨_, hmem, _⟩ => absurd hmem List.not_mem_nil
  | cons text more ih =>
    cases more with
    | nil => simp
    | cons next more =>
      rw [List.intercalate_cons_cons, h.infix_joint, ih]
      simp

/-! ## What the operating system says -/

namespace Cause

variable {c : Cause}

/-- What the operating system says in the cause tells of this kind of failure. A connection is
lost in four ways. -/
inductive Tells (c : Cause) : FailureKind → Prop where
  | refused (io : c.io = some .connectionRefused) : Tells c .connectRefused
  | reset (io : c.io = some .connectionReset) : Tells c .connectionReset
  | aborted (io : c.io = some .connectionAborted) : Tells c .connectionReset
  | brokenPipe (io : c.io = some .brokenPipe) : Tells c .connectionReset
  | unexpectedEof (io : c.io = some .unexpectedEof) : Tells c .connectionReset
  | timedOut (io : c.io = some .timedOut) : Tells c .timeout

/-- It tells of none, or says nothing. -/
def IsMute (c : Cause) : Prop := ∀ kind, ¬c.Tells kind

/-- The kind that is looked up for the cause. -/
def failureKind? (c : Cause) : Option FailureKind := c.io.bind IoKind.failureKind?

theorem failureKind?_eq_some_iff {kind : FailureKind} :
    c.failureKind? = some kind ↔ c.Tells kind := by
  constructor
  · intro h
    obtain ⟨io, hio, hkind⟩ := Option.bind_eq_some_iff.1 h
    cases io with
    | connectionRefused => cases hkind; exact .refused hio
    | connectionReset => cases hkind; exact .reset hio
    | connectionAborted => cases hkind; exact .aborted hio
    | brokenPipe => cases hkind; exact .brokenPipe hio
    | unexpectedEof => cases hkind; exact .unexpectedEof hio
    | timedOut => cases hkind; exact .timedOut hio
    | another => cases hkind
  · unfold failureKind?
    rintro (io | io | io | io | io | io) <;> rw [io] <;> rfl

theorem failureKind?_eq_none_iff : c.failureKind? = none ↔ c.IsMute := by
  rw [Option.eq_none_iff_forall_ne_some]
  exact forall_congr' fun kind => not_congr failureKind?_eq_some_iff

end Cause

/-! ## Small letters -/

theorem lower_intercalate (texts : List String) :
    lower (": ".intercalate texts) = joint.intercalate (texts.map lower) := by
  unfold lower
  rw [String.toList_intercalate]
  induction texts with
  | nil => rfl
  | cons text more ih =>
    cases more with
    | nil => simp
    | cons next more =>
      have hjoint : ": ".toList.flatMap lowerChar = joint := rfl
      simp only [List.map_cons, List.intercalate_cons_cons, List.flatMap_append] at ih ⊢
      rw [ih, hjoint]

/-- A character as it is looked at. The capitals of ASCII become small, and so do the two other
characters in whose small forms there are letters of ASCII. -/
def smallForm (c : Char) : List Char :=
  if 'A' ≤ c ∧ c ≤ 'Z' then [Char.ofNat (c.toNat + 32)]
  else if c = '\u212A' then ['k']
  else if c = '\u0130' then ['i', '\u0307']
  else [c]

theorem isUpper_iff {c : Char} : c.isUpper = true ↔ 'A' ≤ c ∧ c ≤ 'Z' :=
  decide_eq_true_iff

theorem lowerChar_eq (c : Char) : lowerChar c = smallForm c := by
  unfold lowerChar smallForm
  simp only [beq_iff_eq]
  by_cases hcapital : 'A' ≤ c ∧ c ≤ 'Z'
  · rw [if_pos hcapital, Char.toLower_eq_of_isUpper (isUpper_iff.2 hcapital), if_neg, if_neg]
    · rintro rfl
      exact absurd hcapital (by decide)
    · rintro rfl
      exact absurd hcapital (by decide)
  · rw [if_neg hcapital, Char.toLower_eq_of_not_isUpper (mt isUpper_iff.1 hcapital)]

theorem lower_eq (text : String) : lower text = text.toList.flatMap smallForm :=
  congrArg (text.toList.flatMap ·) (funext lowerChar_eq)

/-- The word stands in the text of the cause, once that is in small letters. -/
def Cause.Mentions (c : Cause) (word : String) : Prop :=
  word.toList <:+: c.text.toList.flatMap smallForm

namespace Fault

variable {f : Fault}

/-- No word that tells of a kind of failure stands in a text but where a cause mentions it. -/
theorem mentions_causesText {word : String} (h : IsTelling word.toList) :
    mentions word.toList (lower f.causesText) = true ↔ ∃ c ∈ f.causes, c.Mentions word := by
  rw [mentions_iff, causesText, lower_intercalate, h.infix_intercalate]
  simp [Cause.Mentions, lower_eq]

/-! ## The steps -/

/-- Some cause mentions one of the words. -/
def Mentions (f : Fault) (words : List String) : Prop :=
  ∃ word ∈ words, ∃ c ∈ f.causes, c.Mentions word

/-- The words by which a server that has no address is known. -/
def resolverWords : List String :=
  ["dns error", "failed to lookup address", "name or service not known"]

/-- The words by which a connection that could not be secured is known. -/
def handshakeWords : List String := ["tls", "certificate", "handshake", "fatal alert"]

/-- The words by which a connection that was lost is known. -/
def resetWords : List String := ["connection closed", "connection reset"]

/-- Neither the operating system nor the clock has said anything. -/
structure Silent (f : Fault) : Prop where
  system : ∀ c ∈ f.causes, c.IsMute
  clock : f.isTimeout = false

/-- Neither have the words of the causes. -/
structure Untold (f : Fault) : Prop extends Silent f where
  resolver : ¬f.Mentions resolverWords
  handshake : ¬f.Mentions handshakeWords
  reset : ¬f.Mentions resetWords

/-- The kinds of failure that a fault is of, one case for each way to find out. -/
inductive Classified (f : Fault) : FailureKind → Prop where
  /-- The first cause in which the operating system tells of a kind. -/
  | system {before after : List Cause} {c : Cause} {kind : FailureKind}
      (causes : f.causes = before ++ c :: after) (tells : c.Tells kind)
      (first : ∀ b ∈ before, b.IsMute) : Classified f kind
  | clock (system : ∀ c ∈ f.causes, c.IsMute) (timeout : f.isTimeout = true) :
      Classified f .timeout
  | resolver (silent : f.Silent) (told : f.Mentions resolverWords) :
      Classified f .nameResolution
  | handshake (silent : f.Silent) (resolver : ¬f.Mentions resolverWords)
      (told : f.Mentions handshakeWords) : Classified f .tlsHandshake
  | reset (silent : f.Silent) (resolver : ¬f.Mentions resolverWords)
      (handshake : ¬f.Mentions handshakeWords) (told : f.Mentions resetWords) :
      Classified f .connectionReset
  | connecting (untold : f.Untold) (connect : f.isConnect = true) : Classified f .connectRefused
  | exchanging (untold : f.Untold) (connect : f.isConnect = false)
      (stage : f.isRequest = true ∨ f.isBody = true ∨ f.isDecode = true) :
      Classified f .protocol
  | nowhere (untold : f.Untold) (connect : f.isConnect = false) (request : f.isRequest = false)
      (body : f.isBody = false) (decode : f.isDecode = false) : Classified f .other

/-- None of the words reaches over a joint or begins in one. -/
theorem isTelling {word : String} (h : word ∈ resolverWords ++ handshakeWords ++ resetWords) :
    IsTelling word.toList := by
  have hall : (resolverWords ++ handshakeWords ++ resetWords).all (fun word =>
      !word.toList.contains ':' && word.toList.head?.any (· != ' ')) = true := by decide
  have hword := List.all_eq_true.1 hall word h
  rw [Bool.and_eq_true, Bool.not_eq_true', Option.any_eq_true] at hword
  obtain ⟨hcolon, c, hhead, hc⟩ := hword
  obtain ⟨r, hr⟩ := List.head?_eq_some_iff.1 hhead
  exact ⟨by simpa using hcolon, c, r, hr, bne_iff_ne.1 hc⟩

theorem any_mentions {words : List String}
    (h : words ⊆ resolverWords ++ handshakeWords ++ resetWords) :
    (words.any fun word => mentions word.toList (lower f.causesText)) = true ↔
      f.Mentions words := by
  rw [List.any_eq_true]
  exact exists_congr fun word => and_congr_right fun hword =>
    mentions_causesText (isTelling (h hword))

/-- The kind whose words are the first in a table to be mentioned. -/
def toldIn? (text : List Char) (table : List (FailureKind × List String)) : Option FailureKind :=
  (table.find? fun (_, words) => words.any fun word => mentions word.toList text).map (·.1)

open Classical in
theorem toldIn?_cons {words : List String}
    (h : words ⊆ resolverWords ++ handshakeWords ++ resetWords) (f : Fault) (kind : FailureKind)
    (more : List (FailureKind × List String)) :
    toldIn? (lower f.causesText) ((kind, words) :: more) =
      if f.Mentions words then some kind else toldIn? (lower f.causesText) more := by
  have hwords := any_mentions (f := f) h
  unfold toldIn?
  rw [List.find?_cons]
  dsimp only
  split
  next htold => rw [if_pos (hwords.1 htold)]; rfl
  next hnot => rw [if_neg fun hmentions => Bool.eq_false_iff.1 hnot (hwords.2 hmentions)]

open Classical in
/-- What the words of the causes tell. -/
theorem toldKind?_causesText (f : Fault) : toldKind? (lower f.causesText) =
    if f.Mentions resolverWords then some .nameResolution
    else if f.Mentions handshakeWords then some .tlsHandshake
    else if f.Mentions resetWords then some .connectionReset
    else none := by
  show toldIn? (lower f.causesText) [(.nameResolution, resolverWords),
    (.tlsHandshake, handshakeWords), (.connectionReset, resetWords)] = _
  rw [toldIn?_cons (by decide), toldIn?_cons (by decide), toldIn?_cons (by decide)]
  rfl

/-- The steps in one expression. -/
theorem kind_eq_getD (f : Fault) :
    f.kind = (f.causes.findSome? Cause.failureKind?).getD
      (if f.isTimeout then .timeout else (toldKind? (lower f.causesText)).getD f.stageKind) := by
  unfold kind Cause.failureKind?
  cases f.causes.findSome? fun c => c.io.bind IoKind.failureKind? <;> rfl

/-- The operating system tells of a kind where the first cause in which it tells of one does. -/
theorem findSome?_eq_some_iff {kind : FailureKind} :
    f.causes.findSome? Cause.failureKind? = some kind ↔
      ∃ before c after, f.causes = before ++ c :: after ∧ c.Tells kind ∧
        ∀ b ∈ before, b.IsMute := by
  simp only [List.findSome?_eq_some_iff, Cause.failureKind?_eq_some_iff,
    Cause.failureKind?_eq_none_iff]

theorem findSome?_eq_none_iff :
    f.causes.findSome? Cause.failureKind? = none ↔ ∀ c ∈ f.causes, c.IsMute := by
  simp only [List.findSome?_eq_none_iff, Cause.failureKind?_eq_none_iff]

theorem kind_of_silent (h : f.Silent) :
    f.kind = (toldKind? (lower f.causesText)).getD f.stageKind := by
  rw [kind_eq_getD, findSome?_eq_none_iff.2 h.system, Option.getD_none, h.clock,
    if_neg Bool.false_ne_true]

theorem kind_of_untold (h : f.Untold) : f.kind = f.stageKind := by
  rw [kind_of_silent h.toSilent, toldKind?_causesText, if_neg h.resolver, if_neg h.handshake,
    if_neg h.reset]
  rfl

/-- There is one kind at the most. -/
theorem Classified.kind_eq {kind : FailureKind} (h : f.Classified kind) : f.kind = kind := by
  cases h with
  | @system before after c kind causes tells first =>
    have hsome : f.causes.findSome? Cause.failureKind? = some kind :=
      findSome?_eq_some_iff.2 ⟨before, c, after, causes, tells, first⟩
    rw [kind_eq_getD, hsome, Option.getD_some]
  | clock system timeout =>
    rw [kind_eq_getD, findSome?_eq_none_iff.2 system, Option.getD_none, if_pos timeout]
  | resolver silent told =>
    rw [kind_of_silent silent, toldKind?_causesText, if_pos told]
    rfl
  | handshake silent resolver told =>
    rw [kind_of_silent silent, toldKind?_causesText, if_neg resolver, if_pos told]
    rfl
  | reset silent resolver handshake told =>
    rw [kind_of_silent silent, toldKind?_causesText, if_neg resolver, if_neg handshake,
      if_pos told]
    rfl
  | connecting untold connect => rw [kind_of_untold untold, stageKind, if_pos connect]
  | exchanging untold connect stage =>
    have hstage : (f.isRequest || f.isBody || f.isDecode) = true := by
      simpa [Bool.or_eq_true, or_assoc] using stage
    rw [kind_of_untold untold, stageKind, connect, if_neg Bool.false_ne_true, if_pos hstage]
  | nowhere untold connect request body decode =>
    rw [kind_of_untold untold, stageKind, connect, request, body, decode]
    rfl

/-- There is one. -/
theorem exists_classified (f : Fault) : ∃ kind, f.Classified kind := by
  classical
  cases hsystem : f.causes.findSome? Cause.failureKind? with
  | some kind =>
    obtain ⟨before, c, after, hcauses, htells, hfirst⟩ := findSome?_eq_some_iff.1 hsystem
    exact ⟨kind, .system hcauses htells hfirst⟩
  | none =>
    have hnone := findSome?_eq_none_iff.1 hsystem
    cases hclock : f.isTimeout with
    | true => exact ⟨_, .clock hnone hclock⟩
    | false =>
      have hsilent : f.Silent := ⟨hnone, hclock⟩
      by_cases hresolver : f.Mentions resolverWords
      · exact ⟨_, .resolver hsilent hresolver⟩
      by_cases hhandshake : f.Mentions handshakeWords
      · exact ⟨_, .handshake hsilent hresolver hhandshake⟩
      by_cases hreset : f.Mentions resetWords
      · exact ⟨_, .reset hsilent hresolver hhandshake hreset⟩
      have huntold : f.Untold := ⟨hsilent, hresolver, hhandshake, hreset⟩
      cases hconnect : f.isConnect with
      | true => exact ⟨_, .connecting huntold hconnect⟩
      | false =>
        by_cases hstage : f.isRequest = true ∨ f.isBody = true ∨ f.isDecode = true
        · exact ⟨_, .exchanging huntold hconnect hstage⟩
        · simp only [not_or, Bool.not_eq_true] at hstage
          exact ⟨_, .nowhere huntold hconnect hstage.1 hstage.2.1 hstage.2.2⟩

/-- **The kind of a failure is found step by step**, and neither what the fault says as a whole
nor the URL that was asked for has any part in it. -/
theorem kind_classified (f : Fault) :
    (∀ kind, f.kind = kind ↔ f.Classified kind) ∧
      ∀ message url, (failure { f with message } url).kind = f.kind := by
  refine ⟨fun kind => ⟨?_, Classified.kind_eq⟩, fun message url => rfl⟩
  rintro rfl
  obtain ⟨kind, h⟩ := f.exists_classified
  exact h.kind_eq.symm ▸ h

end Fault

end Failover.Http
