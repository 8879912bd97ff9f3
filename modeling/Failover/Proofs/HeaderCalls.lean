import Failover.Proofs.Dispatches
import Failover.Proofs.DomainName
import Failover.Proofs.Encoding

/-!
# Setting a header more than once

A caller sets the headers of an action one after the other. Under the very same name the later
value takes the place of the earlier one. Spellings of one name that differ in capitals are kept
apart at first, in the order of their characters, and only when the action is encoded they become
one header: they are gone through in that order, and the last of them is left. So it is not the
last call for a name that decides, but the last call with the greatest of its spellings, a small
letter being greater than its capital (`Encoded.Decides`). The last call decides where no call has
a greater spelling, and so where the name is always spelled alike.

`System.run_headers` says so of every request that is sent for such an action, whatever else goes
on in the client.
-/

namespace Failover

/-! ## The last one -/

section

variable {α : Type} {p q : α → Bool} {xs : List α} {x : α}

theorem mem_of_getLast?_filter (h : (xs.filter p).getLast? = some x) : x ∈ xs ∧ p x = true :=
  List.mem_filter.1 (List.mem_of_getLast? h)

/-- The last item of a kind is the last of any narrower kind that it is of. -/
theorem getLast?_filter_of_imp (h : (xs.filter p).getLast? = some x)
    (himp : ∀ y ∈ xs, q y = true → p y = true) (hx : q x = true) :
    (xs.filter q).getLast? = some x := by
  obtain ⟨front, hfront⟩ := List.getLast?_eq_some_iff.1 h
  have hnarrow : xs.filter q = (xs.filter p).filter q := by
    rw [List.filter_filter]
    refine List.filter_congr fun y hy => ?_
    cases hq : q y with
    | false => rfl
    | true => rw [himp y hy hq, Bool.and_self]
  rw [hnarrow, hfront, List.filter_append, List.filter_cons_of_pos hx, List.filter_nil,
    List.getLast?_concat]

end

namespace Dict

variable {α : Type} {d : Dict α} {name : String}

/-- After pairs were put in, a name means what the last pair with this name says. -/
theorem get?_insertAll_last {pairs : List (String × α)} {p : String × α}
    (h : (pairs.filter (·.1 = name)).getLast? = some p) :
    (d.insertAll pairs).get? name = some p.2 := by
  induction pairs using List.reverseRecOn with
  | nil => cases h
  | append_singleton pairs q ih =>
    have hlast : d.insertAll (pairs ++ [q]) = (d.insertAll pairs).insert q.1 q.2 := by
      rw [insertAll, List.foldl_append]
      rfl
    rw [hlast, get?_insert]
    rw [List.filter_append] at h
    by_cases hq : q.1 = name
    · rw [List.filter_cons_of_pos (by simpa using hq), List.filter_nil, List.getLast?_concat] at h
      rw [if_pos hq.symm, Option.some.inj h]
    · rw [List.filter_cons_of_neg (by simpa using hq), List.filter_nil, List.append_nil] at h
      rw [if_neg (Ne.symm hq), ih h]

/-- A name that some pair has is in the dictionary of the pairs. -/
theorem exists_mem_ofList {pairs : List (String × α)} {p : String × α} (h : p ∈ pairs) :
    ∃ v, (p.1, v) ∈ ofList pairs := by
  rcases get?_insertAll_cases [] pairs p.1 with ⟨q, -, -, hvalue⟩ | ⟨hnone, -⟩
  · exact ⟨q.2, (ascending_ofList pairs).mem_iff.2 hvalue⟩
  · exact absurd rfl (hnone p h)

/-- What is in the dictionary of pairs is the last pair with its name. -/
theorem last_of_mem_ofList {pairs : List (String × α)} {p : String × α} (h : p ∈ ofList pairs) :
    (pairs.filter (·.1 = p.1)).getLast? = some p := by
  have hvalue : (ofList pairs).get? p.1 = some p.2 := (ascending_ofList pairs).mem_iff.1 h
  cases hlast : (pairs.filter (·.1 = p.1)).getLast? with
  | none =>
    have hnil := List.getLast?_eq_none_iff.1 hlast
    rcases get?_insertAll_cases [] pairs p.1 with ⟨q, hq, hname, -⟩ | ⟨-, hnone⟩
    · exact absurd (List.mem_filter.2 ⟨hq, by simpa using hname⟩) (hnil ▸ List.not_mem_nil)
    · rw [ofList, hnone] at hvalue
      cases hvalue
  | some q =>
    rw [ofList, get?_insertAll_last hlast, Option.some.injEq] at hvalue
    have hname : q.1 = p.1 := by simpa using (mem_of_getLast?_filter hlast).2
    rw [Prod.ext hname hvalue]

/-- The last item of a kind has the greatest name. -/
theorem Ascending.le_last {p : String × α → Bool} {last : String × α} (h : d.Ascending)
    (hlast : (d.filter p).getLast? = some last) : ∀ q ∈ d, p q = true → q.1 ≤ last.1 := by
  obtain ⟨front, hfront⟩ := List.getLast?_eq_some_iff.1 hlast
  have hascending : (front ++ [last]).Pairwise fun q r => q.1 < r.1 := hfront ▸ h.filter p
  intro q hq hp
  have hmem : q ∈ front ++ [last] := hfront ▸ List.mem_filter.2 ⟨hq, hp⟩
  rcases List.mem_append.1 hmem with hmem | hmem
  · exact le_of_lt ((List.pairwise_append.1 hascending).2.2 q hmem last (List.mem_singleton_self _))
  · rw [List.mem_singleton.1 hmem]

end Dict

/-! ## The call that decides -/

/-- The action with headers set one after the other. -/
def RawAction.withHeaders (a : RawAction) (calls : List (String × String)) : RawAction :=
  calls.foldl (fun a call => a.withHeader call.1 call.2) a

/-- The headers are kept as they are spelled, and nothing else is changed. -/
theorem RawAction.withHeaders_eq (a : RawAction) (calls : List (String × String)) :
    a.withHeaders calls = { a with headers := a.headers.insertAll calls } := by
  induction calls generalizing a with
  | nil => rfl
  | cons call calls ih => exact ih (a.withHeader call.1 call.2)

namespace Encoded

variable {calls : List (String × String)} {name : String} {call last : String × String}

/-- The calls for a name, however they spell it. -/
def callsFor (name : String) (calls : List (String × String)) : List (String × String) :=
  calls.filter fun call => headerName call.1 = headerName name

/-- The call is the last one with the greatest spelling of the name. -/
structure Decides (calls : List (String × String)) (name : String) (call : String × String) :
    Prop where
  greatest : ∀ other ∈ callsFor name calls, other.1 ≤ call.1
  last : (calls.filter (·.1 = call.1)).getLast? = some call
  named : headerName call.1 = headerName name

/-- Where a name is spelled at all, there is a call that decides, and its header is the last under
this name before capitals are dropped. -/
theorem exists_decides (h : callsFor name calls ≠ []) :
    ∃ call, Decides calls name call ∧
      (callsFor name (Dict.ofList calls)).getLast? = some call := by
  obtain ⟨used, hused⟩ := List.exists_mem_of_ne_nil _ h
  obtain ⟨hmem, hname⟩ := List.mem_filter.1 hused
  obtain ⟨value, hkept⟩ := Dict.exists_mem_ofList hmem
  cases hlast : (callsFor name (Dict.ofList calls)).getLast? with
  | none =>
    have hnil := List.getLast?_eq_none_iff.1 hlast
    exact absurd (List.mem_filter.2 ⟨hkept, hname⟩) (hnil ▸ List.not_mem_nil)
  | some call =>
    obtain ⟨hcall, hsame⟩ := mem_of_getLast?_filter hlast
    have hfolds : headerName call.1 = headerName name := by simpa using hsame
    refine ⟨call, ⟨fun other hother => ?_, Dict.last_of_mem_ofList hcall, hfolds⟩, rfl⟩
    obtain ⟨hmem, hname⟩ := List.mem_filter.1 hother
    obtain ⟨value, hkept⟩ := Dict.exists_mem_ofList hmem
    exact (Dict.ascending_ofList calls).le_last hlast (other.1, value) hkept hname

/-- The last call for the name decides if its spelling is the greatest. -/
theorem Decides.eq_last (h : Decides calls name call)
    (hlast : (callsFor name calls).getLast? = some last)
    (hgreatest : ∀ other ∈ callsFor name calls, other.1 ≤ last.1) : call = last := by
  obtain ⟨hmem, hname⟩ := mem_of_getLast?_filter hlast
  have hcall : call ∈ callsFor name calls :=
    List.mem_filter.2 ⟨(mem_of_getLast?_filter h.last).1, by simpa using h.named⟩
  have hspelling : call.1 = last.1 :=
    le_antisymm (hgreatest call hcall) (h.greatest last (List.mem_of_getLast? hlast))
  have hsame : (calls.filter (·.1 = last.1)).getLast? = some last :=
    getLast?_filter_of_imp hlast (fun other _ hother => by
      have hother : other.1 = last.1 := by simpa using hother
      rw [hother]
      exact hname) (by simp)
  exact Option.some.inj ((hspelling ▸ h.last).symm.trans hsame)

/-! ## What is sent -/

variable {client action : Dict String} {isSent compression : Bool} {value : String}

/-- The last header of an action that goes by a name gives it its value. -/
theorem get?_mergeHeaders (h : (callsFor name action).getLast? = some call) :
    (mergeHeaders client action).get? (headerName name) = some call.2 := by
  have hnamed : ((named action).filter (·.1 = headerName name)).getLast? =
      some (headerName call.1, call.2) := by
    rw [named, List.filter_map, List.getLast?_map]
    exact congrArg (Option.map _) h
  rw [mergeHeaders, Dict.get?_insertAll_last hnamed]

/-- A body changes nothing about it, unless the name tells of compression. -/
theorem get?_sentHeaders (hnot : ¬TellsCompression isSent compression name)
    (h : (mergeHeaders client action).get? name = some value) :
    (sentHeaders client action isSent compression).get? name = some value := by
  cases isSent with
  | false => exact h
  | true =>
    rw [sentHeaders, if_pos rfl, get?_bodyHeaders, if_neg fun htells => hnot ⟨rfl, htells⟩,
      if_neg, h]
    rintro ⟨rfl, hnone⟩
    rw [h] at hnone
    cases hnone

/-- A name in small letters is sent as it is. -/
theorem headerName_eq_self {name : String} (h : ∀ c ∈ name.toList, c.isUpper = false) :
    headerName name = name := by
  have hkept (c : Char) (hc : c ∈ name.toList) : c.toLower = c :=
    Char.toLower_eq_of_not_isUpper (Bool.eq_false_iff.1 (h c hc))
  have hsmall : name.toList.map Char.toLower = name.toList :=
    (List.map_congr_left hkept).trans (List.map_id' _)
  rw [headerName, hsmall, String.ofList_toList]

/-- What goes by a name in a request has one value. -/
theorem sentHeaders_only
    (h : (sentHeaders client action isSent compression).get? (headerName name) = some value) :
    (headerName name, value) ∈ sentHeaders client action isSent compression ∧
      ∀ sent ∈ sentHeaders client action isSent compression,
        headerName sent.1 = headerName name → sent.2 = value := by
  have hascending := ascending_sentHeaders client action isSent compression
  refine ⟨hascending.mem_iff.2 h, fun sent hsent hname => ?_⟩
  -- The names in a request have no capitals, so that one name is one entry.
  rw [headerName_eq_self (small_of_mem_names (List.mem_map_of_mem hsent))] at hname
  have hvalue := hascending.mem_iff.1 (show (headerName name, sent.2) ∈ _ from hname ▸ hsent)
  exact Option.some.inj (hvalue.symm.trans h)

end Encoded

namespace System

open Encoded

variable {calls : List (String × String)} {name : String}

/-- **The last call with the greatest spelling wins.** Let the headers of an action be set by
these calls, some of which are for a name. One of them decides, and that is the last one for the
name if no other has a greater spelling. In any run of a client each request for the action
carries the value of the call that decides under the name, and no other, except for the
compression of its body. -/
theorem run_headers {setup : Client.Setup} {s₀ : System} (h : Client.build setup = .ok s₀)
    (events : List Event) (a : RawAction) (o : Options) (ha : a.headers = [])
    {last : String × String} (hlast : (callsFor name calls).getLast? = some last) :
    ∃ call, Decides calls name call ∧
      ((∀ other ∈ callsFor name calls, other.1 ≤ last.1) → call = last) ∧
      ∀ d ∈ (s₀.run events).dispatched,
        (s₀.run events).work? d.origin = some (.request (a.withHeaders calls).action o) →
        ¬TellsCompression d.request.body.isSome s₀.client.settings.compression
          (headerName name) →
        (headerName name, call.2) ∈ d.request.headers ∧
          ∀ sent ∈ d.request.headers, headerName sent.1 = headerName name → sent.2 = call.2 := by
  have hsome : callsFor name calls ≠ [] := List.ne_nil_of_mem (List.mem_of_getLast? hlast)
  obtain ⟨call, hdecides, hkept⟩ := exists_decides hsome
  refine ⟨call, hdecides, hdecides.eq_last hlast, fun d hd hwork hnot => ?_⟩
  -- Every request carries what its own action was encoded to, however often it was sent.
  obtain ⟨work, encoded, hwork', hencoded, hrequest⟩ := exists_encoded h events hd
  obtain rfl : .request (a.withHeaders calls).action o = work :=
    Option.some.inj (hwork.symm.trans hwork')
  have htext : (a.withHeaders calls).action.body = .ok (a.withHeaders calls).body := rfl
  obtain ⟨e, he, hheaders, hbody⟩ := ofAction_of_text (s := s₀.client.settings) htext o
  obtain rfl : encoded = e := Except.ok.inj (hencoded.symm.trans he)
  have hkeptHeaders : (a.withHeaders calls).action.headers = Dict.ofList calls := by
    rw [RawAction.withHeaders_eq, ha]
    rfl
  have hsentHeaders : d.request.headers = encoded.headers := by rw [hrequest]; rfl
  have hsentBody : d.request.body = encoded.body := by rw [hrequest]; rfl
  rw [hsentBody, hbody, Option.isSome_map] at hnot
  rw [hsentHeaders, hheaders, hkeptHeaders]
  exact sentHeaders_only (get?_sentHeaders hnot (get?_mergeHeaders hkept))

/-- A name that is always spelled alike, and another one set in between. -/
theorem run_headers_alike :
    let calls := [("X-Tag", "1"), ("Accept", "text/plain"), ("X-Tag", "2")]
    let a : RawAction := { method := .get, path := "/" }
    let events : List Event := [.launch (.request (a.withHeaders calls).action {}) , .begin 0]
    ∃ s₀, Client.build { config := .withServers ["[::1]:9200"] } = .ok s₀ ∧
      (callsFor "x-tag" calls).getLast? = some ("X-Tag", "2") ∧
      (s₀.run events).dispatched.map (·.request.headers) =
        [[("accept", "text/plain"), ("x-tag", "2")]] ∧
      ∃ call, Decides calls "x-tag" call ∧ call = ("X-Tag", "2") ∧
        ∀ d ∈ (s₀.run events).dispatched, ("x-tag", call.2) ∈ d.request.headers := by
  intro calls a events
  obtain ⟨s₀, hbuild⟩ : ∃ s₀, Client.build { config := .withServers ["[::1]:9200"] } = .ok s₀ :=
    ⟨_, rfl⟩
  have hlast : (callsFor "x-tag" calls).getLast? = some ("X-Tag", "2") := by decide
  obtain ⟨call, hdecides, heq, hcarried⟩ :=
    run_headers hbuild events a {} rfl hlast
  have hcall : call = ("X-Tag", "2") := heq (by decide)
  have hsent : (s₀.run events).dispatched.map (fun d => (d.request.headers, d.request.body,
      (s₀.run events).work? d.origin)) =
      [([("accept", "text/plain"), ("x-tag", "2")], none,
        some (.request (a.withHeaders calls).action {}))] := by
    cases hbuild
    rfl
  refine ⟨s₀, hbuild, hlast, ?_, call, hdecides, hcall, fun d hd => ?_⟩
  · simpa using congrArg (List.map Prod.fst) hsent
  have hd' := hsent ▸ List.mem_map_of_mem (f := fun d : Dispatch => (d.request.headers,
    d.request.body, (s₀.run events).work? d.origin)) hd
  obtain ⟨-, hbody, hwork⟩ : _ ∧ d.request.body = none ∧
      (s₀.run events).work? d.origin = some (.request (a.withHeaders calls).action {}) := by
    simpa only [List.mem_singleton, Prod.mk.injEq] using hd'
  exact (hcarried d hd hwork fun htells => by
    rw [hbody] at htells
    cases htells.1).1

/-- A name that is set first in small letters and then with capitals keeps its first value. -/
theorem run_headers_respelled :
    let calls := [("x-tag", "1"), ("X-Tag", "2")]
    let a : RawAction := { method := .get, path := "/" }
    let events : List Event := [.launch (.request (a.withHeaders calls).action {}), .begin 0]
    ∃ s₀, Client.build { config := .withServers ["[::1]:9200"] } = .ok s₀ ∧
      (callsFor "x-tag" calls).getLast? = some ("X-Tag", "2") ∧
      (s₀.run events).dispatched.map (·.request.headers) = [[("x-tag", "1")]] := by
  intro calls a events
  obtain ⟨s₀, hbuild⟩ : ∃ s₀, Client.build { config := .withServers ["[::1]:9200"] } = .ok s₀ :=
    ⟨_, rfl⟩
  refine ⟨s₀, hbuild, by decide, ?_⟩
  cases hbuild
  rfl

end System

end Failover
