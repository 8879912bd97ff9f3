import Mathlib.Data.List.DropRight
import Failover.Proofs.Canonical

/-!
# Requests stay at their server

The URL of a request is a base address with the path of an action behind it, and the path is
whatever the caller made it: it may hold `@`, colons, slashes of both kinds, steps, line ends.
None of them can reach the host. A base address has visible characters only, so nothing of it is
trimmed or skipped when a path stands behind it (`Url.exists_clean_trim`), and whatever follows
begins with a slash, at which the authority ends. `Server.urlFor_sameOrigin` is the result: for
every path the URL is read, and what is read names the server's own scheme, host and port.

The one exception is that of the base address itself: a label which encoding made overlong is
refused with every path.
-/

namespace Failover

open Text

namespace Text

variable {α : Type} {p : α → Bool} {x : α}

/-- What is dropped at the end does not reach behind an element that stays. -/
theorem rdropWhile_append_cons (hx : ¬ p x = true) (front rest : List α) :
    (front ++ x :: rest).rdropWhile p = front ++ x :: rest.rdropWhile p := by
  induction rest using List.reverseRecOn with
  | nil => rw [List.rdropWhile_concat_neg _ _ _ hx, List.rdropWhile_nil]
  | append_singleton rest y ih =>
    have hshift : front ++ x :: (rest ++ [y]) = front ++ x :: rest ++ [y] := by simp
    by_cases hy : p y = true
    · rw [hshift, List.rdropWhile_concat_pos _ _ _ hy, List.rdropWhile_concat_pos _ _ _ hy, ih]
    · rw [hshift, List.rdropWhile_concat_neg _ _ _ hy, List.rdropWhile_concat_neg _ _ _ hy, hshift]

end Text

namespace Url

/-- Trimming and cleaning keep a text of visible characters and the slash behind it. -/
theorem exists_clean_trim {front : List Char} (h : ∀ c ∈ front, isVisible c = true)
    (rest : List Char) :
    trim (front ++ '/' :: rest) = front ++ '/' :: rest.rdropWhile isBlank ∧
      ∃ kept, clean (trim (front ++ '/' :: rest)) = front ++ '/' :: kept := by
  have hhead : ∀ tail : List Char, ∀ c ∈ (front ++ '/' :: tail).head?, isVisible c = true := by
    intro tail c hc
    cases front with
    | nil =>
      cases hc
      decide
    | cons d front =>
      obtain rfl : d = c := Option.some.inj hc
      exact h d List.mem_cons_self
  have htrim : trim (front ++ '/' :: rest) = front ++ '/' :: rest.rdropWhile isBlank := by
    rw [trim, trimStart_eq_self fun c hc => not_blank_of_isVisible (hhead rest c hc)]
    exact rdropWhile_append_cons (by decide) front rest
  have hkept : front.filter (!isSkipped ·) = front :=
    List.filter_eq_self.2 fun c hc => by rw [not_isSkipped (isVisible_iff.1 (h c hc)).1]; rfl
  refine ⟨htrim, ((rest.rdropWhile isBlank).rdropWhile isEdge).filter (!isSkipped ·), ?_⟩
  rw [htrim, clean, dropWhile_isEdge fun c hc => (isVisible_iff.1 (hhead _ c hc)).1]
  show ((front ++ '/' :: rest.rdropWhile isBlank).rdropWhile isEdge).filter (!isSkipped ·) = _
  rw [rdropWhile_append_cons (by decide), List.filter_append, hkept]
  rfl

/-- Two URLs name the same scheme, host and port. -/
structure SameOrigin (u v : Url) : Prop where
  scheme : u.scheme = v.scheme
  host : u.host = v.host
  port : u.port = v.port

end Url

namespace Server

open Url

variable {u : Url} {host : Host} {segments : List (List Char)}

/-- Behind the base address stands nothing, or a slash and what follows it. -/
theorem exists_urlFor_toList (s : Server) (path : String) :
    ∃ rest, (s.urlFor path).toList = s.base.toList ++ rest ∧
      (rest = [] ∨ ∃ r, rest = '/' :: r) := by
  unfold urlFor
  split
  · exact ⟨[], by simp, .inl rfl⟩
  next r hpath => exact ⟨'/' :: r, by rw [String.toList_append, hpath], .inr ⟨r, rfl⟩⟩
  · refine ⟨'/' :: path.toList, ?_, .inr ⟨_, rfl⟩⟩
    rw [String.toList_append, String.toList_append, List.append_assoc]
    rfl

/-- A slash in front of a path may be left out. -/
theorem urlFor_slash (s : Server) {path : String} (hne : path ≠ "")
    (hslash : path.toList.head? ≠ some '/') : s.urlFor path = s.urlFor ("/" ++ path) := by
  have hleft : s.urlFor path = s.base ++ "/" ++ path := by
    unfold urlFor
    split
    next hpath => exact absurd (String.toList_eq_nil_iff.1 hpath) hne
    next r hpath => exact absurd (by rw [hpath]; rfl) hslash
    · rfl
  have hright : s.urlFor ("/" ++ path) = s.base ++ ("/" ++ path) := by
    unfold urlFor
    rw [String.toList_append]
    rfl
  rw [hleft, hright, String.append_assoc]

/-- What is read from the URL of a path. -/
theorem urlOf_urlFor (h : u.IsSite host segments) (path : String) :
    ∃ rest, urlOf ((ofUrl u).urlFor path) =
      if host.isOverlong then .error .domainName
      else .ok (ofAuthority u.scheme .special ⟨[], none, host, u.port, rest⟩) := by
  obtain ⟨rest, htext, hrest⟩ := exists_urlFor_toList (ofUrl u) path
  have hmark : ∀ r, hasSchemeMark ((ofUrl u).base.toList ++ r) = true := fun r => by
    rw [h.base_eq, List.append_assoc]
    exact hasSchemeMark_append _ _
  rw [urlOf, htext]
  rcases hrest with rfl | ⟨r, rfl⟩
  · exact ⟨_, by rw [List.append_nil, (addressUrl_base h).1, h.parse_base]⟩
  · obtain ⟨htrim, kept, hclean⟩ := exists_clean_trim h.isVisible_base r
    refine ⟨u.basePath ++ '/' :: kept, ?_⟩
    have haddress : addressUrl (trim ((ofUrl u).base.toList ++ '/' :: r)) =
        trim ((ofUrl u).base.toList ++ '/' :: r) := by
      rw [htrim, addressUrl, if_pos (hmark _)]
    rw [haddress]
    refine h.parse_place ?_ ?_
    · rw [hclean, h.base_eq]
      simp
    · rcases h.basePath_shape.1 with hnil | ⟨q, hq⟩
      · exact .inr ⟨kept, by rw [hnil]; rfl⟩
      · exact .inr ⟨q ++ '/' :: kept, by rw [hq]; rfl⟩

/-- An address is refused for what makes its URL none. -/
theorem parse_eq_malformed {address : String} {e : Url.ParseError} (he : e ≠ .emptyHost)
    (h : urlOf address = .error e) : parse address = .error (.malformed address e) := by
  have hsome : trim address.toList ≠ [] := by
    intro hblank
    have hempty : Url.parse (addressUrl []) = .error .emptyHost := by decide +kernel
    rw [urlOf, hblank, hempty] at h
    exact he (Except.error.inj h).symm
  unfold urlOf at h
  unfold parse
  dsimp only
  rw [if_neg (by simpa using hsome), h]

theorem isOverlong_of_isSite (h : u.IsSite host segments) : u.isOverlong = host.isOverlong := by
  rw [isOverlong, h.host_eq]
  rfl

/-- No path is accepted behind an overlong label. -/
theorem parse_urlFor_of_isOverlong {a : String} {s : Server} (h : parse a = .ok s)
    (hu : urlOf a = .ok u) (hlong : u.isOverlong = true) (path : String) :
    parse (s.urlFor path) = .error (.malformed (s.urlFor path) .domainName) := by
  obtain ⟨v, host, segments, hv, hsite, rfl⟩ := exists_site h
  cases hu.symm.trans hv
  obtain ⟨rest, hurl⟩ := urlOf_urlFor hsite path
  rw [isOverlong_of_isSite hsite] at hlong
  rw [hlong, if_pos rfl] at hurl
  exact parse_eq_malformed (by decide) hurl

/-- Without one every path is, and changes nothing in front of it. -/
theorem exists_urlOf_urlFor {a : String} {s : Server} (h : parse a = .ok s)
    (hu : urlOf a = .ok u) (hshort : u.isOverlong = false) (path : String) :
    ∃ v, urlOf (s.urlFor path) = .ok v ∧ parse (s.urlFor path) = .ok (ofUrl v) ∧
      u.SameOrigin v := by
  obtain ⟨v, host, segments, hv, hsite, rfl⟩ := exists_site h
  cases hu.symm.trans hv
  obtain ⟨rest, hurl⟩ := urlOf_urlFor hsite path
  rw [isOverlong_of_isSite hsite] at hshort
  rw [hshort, if_neg Bool.false_ne_true] at hurl
  exact ⟨_, hurl, parse_eq_ok.2 ⟨_, hurl, hsite.http, rfl⟩, ⟨rfl, hsite.host_eq, rfl⟩⟩

/-- **Requests stay at their server.** Whatever path is put behind a base address, with a slash
in front of it or without, the URL is read and names the scheme, the host and the port of the
server, unless a label of its host is overlong; then no path is accepted. -/
theorem urlFor_sameOrigin {a : String} {s : Server} (h : parse a = .ok s) :
    ∃ u, urlOf a = .ok u ∧
      (∀ path,
        if u.isOverlong then
          parse (s.urlFor path) = .error (.malformed (s.urlFor path) .domainName)
        else
          ∃ v, urlOf (s.urlFor path) = .ok v ∧ parse (s.urlFor path) = .ok (ofUrl v) ∧
            u.SameOrigin v) ∧
      ∀ path, path ≠ "" → path.toList.head? ≠ some '/' →
        s.urlFor path = s.urlFor ("/" ++ path) := by
  obtain ⟨u, hu, -⟩ := parse_eq_ok.1 h
  refine ⟨u, hu, fun path => ?_, fun path => urlFor_slash s⟩
  split
  next hlong => exact parse_urlFor_of_isOverlong h hu hlong path
  next hshort => exact exists_urlOf_urlFor h hu (Bool.eq_false_iff.2 hshort) path

/-- Of a path that would make another host of the port, were there no slash in between. -/
theorem urlFor_sameOrigin_userinfo :
    parse "HTTP://Ops@Node1:8080/" = .ok ⟨"http://node1:8080"⟩ ∧
      (∃ v, urlOf ((⟨"http://node1:8080"⟩ : Server).urlFor "1@evil:81/..") = .ok v ∧
        v.scheme = "http".toList ∧ v.host = some (.domain "node1".toList) ∧
        v.port = some 8080) ∧
      (⟨"http://node1:8080"⟩ : Server).urlFor "1@evil:81/.." =
        (⟨"http://node1:8080"⟩ : Server).urlFor "/1@evil:81/.." := by
  have h : parse "HTTP://Ops@Node1:8080/" = .ok ⟨"http://node1:8080"⟩ := by decide +kernel
  have hplace : (urlOf "HTTP://Ops@Node1:8080/").toOption.map (fun u =>
      (u.scheme, u.host, u.port, u.isOverlong)) =
      some ("http".toList, some (.domain "node1".toList), some 8080, false) := by decide +kernel
  obtain ⟨u, hu, hsame, hslash⟩ := urlFor_sameOrigin h
  rw [hu] at hplace
  simp only [Except.toOption, Option.map_some, Option.some.injEq, Prod.mk.injEq] at hplace
  obtain ⟨hscheme, hhost, hport, hshort⟩ := hplace
  have hpath := hsame "1@evil:81/.."
  rw [hshort, if_neg Bool.false_ne_true] at hpath
  obtain ⟨v, hv, -, horigin⟩ := hpath
  exact ⟨h, ⟨v, hv, horigin.scheme ▸ hscheme, horigin.host ▸ hhost, horigin.port ▸ hport⟩,
    hslash _ (by decide) (by decide)⟩

/-- The server of a long address of ideographs accepts no path, not even the empty one. -/
theorem urlFor_longAddress : ∃ s, parse longAddress = .ok s ∧
    parse (s.urlFor "_search") = .error (.malformed (s.urlFor "_search") .domainName) := by
  obtain ⟨s, hs, hrefused⟩ :=
    parse_ideographs ideographs_farApart farApart_le_maxConverted maxConverted_lt_encode_farApart
  obtain ⟨u, hu, -⟩ := parse_eq_ok.1 hs
  have hlong : u.isOverlong = true := by
    rw [parse_base hs hu] at hrefused
    split at hrefused
    next hlong => exact hlong
    · cases hrefused
  exact ⟨s, hs, parse_urlFor_of_isOverlong hs hu hlong _⟩

end Server

end Failover
