import Mathlib
import Failover.Proofs.JsonString
import Failover.Proofs.LongName
import Failover.Proofs.Site
import Failover.Server.Json

/-!
# Servers are in canonical form

Pools compare servers by their base addresses, so a base address has to be what every spelling
of it comes to, its own included. `Server.parse_canonical` says so for whatever address was
accepted: the base address reads as the same server, in an address and in JSON, and two addresses
give one server when their URLs name the same place, and only then.

One kind of server has a base address that is not accepted in its turn. Encoding a name makes it
longer, and a label that could be encoded may come out longer than labels that are decoded may
be (`Url.isOverlong`). `Server.parse_longAddress` is such an address.
-/

namespace Failover

open Text Domain

/-- The Punycode in a label of the host has more than twice `maxConverted` characters. -/
def Url.isOverlong (u : Url) : Bool := u.host.any Host.isOverlong

namespace Server

open Json Url

/-- A text with a mark in it has one. -/
theorem hasSchemeMark_append (front rest : List Char) :
    hasSchemeMark (front ++ ':' :: '/' :: '/' :: rest) = true := by
  induction front with
  | nil => rfl
  | cons c front ih =>
    rw [List.cons_append]
    unfold hasSchemeMark
    split
    · rfl
    next heq => cases heq
    next heq =>
      cases heq
      exact ih

/-- The URL of an address. -/
def urlOf (address : String) : Except Url.ParseError Url :=
  Url.parse (addressUrl (trim address.toList))

/-- An accepted address is a URL over HTTP, and its server is made of that URL alone. -/
theorem parse_eq_ok {a : String} {s : Server} :
    parse a = .ok s ↔ ∃ u, urlOf a = .ok u ∧ isHttp u.scheme = true ∧ s = ofUrl u := by
  unfold parse urlOf
  dsimp only
  by_cases hblank : trim a.toList = []
  · -- The scheme alone, which is put in front of nothing, is no URL.
    have hempty : Url.parse (addressUrl []) = .error .emptyHost := by decide +kernel
    rw [hblank, hempty, List.isEmpty_nil, if_pos rfl]
    constructor
    · intro h
      cases h
    · rintro ⟨_, h, -⟩
      cases h
  · rw [if_neg (by simpa using hblank)]
    cases Url.parse (addressUrl (trim a.toList)) with
    | error e => simp
    | ok u =>
      dsimp only
      constructor
      · intro h
        split at h
        next hhttp =>
          cases h
          exact ⟨u, rfl, hhttp, rfl⟩
        · cases h
      · rintro ⟨_, h, hhttp, rfl⟩
        cases h
        rw [if_pos hhttp]

theorem exists_site {a : String} {s : Server} (h : parse a = .ok s) :
    ∃ u host segments, urlOf a = .ok u ∧ u.IsSite host segments ∧ s = ofUrl u := by
  obtain ⟨u, hu, hhttp, hs⟩ := parse_eq_ok.1 h
  obtain ⟨host, segments, hsite⟩ := isSite_of_parse hu hhttp
  exact ⟨u, host, segments, hu, hsite, hs⟩

/-- The URL of a host alone. -/
theorem urlOf_hostText {text : List Char} (hne : text ≠ [])
    (h : ∀ c ∈ text, 0x20 < c.toNat ∧ isBlank c = false ∧
      c ∉ ['/', '\\', '?', '#', '@', ':', '[']) :
    urlOf (String.ofList ("http://".toList ++ text)) =
      (Host.parse text).map fun host =>
        ofAuthority ['h', 't', 't', 'p'] .special ⟨[], none, host, none, []⟩ := by
  have hmem : ∀ c ∈ "http://".toList ++ text, 0x20 < c.toNat ∧ isBlank c = false := by
    intro c hc
    rcases List.mem_append.1 hc with hc | hc
    · have hall : "http://".toList.all (fun d => 0x20 < d.toNat && !isBlank d) = true := by decide
      simpa using List.all_eq_true.1 hall c hc
    · exact ⟨(h c hc).1, (h c hc).2.1⟩
  have htrim : trim ("http://".toList ++ text) = "http://".toList ++ text :=
    trim_eq_self (fun c hc => (hmem c (List.mem_of_mem_head? hc)).2)
      fun c hc => (hmem c (List.mem_of_mem_getLast? hc)).2
  have haddress : addressUrl ("http://".toList ++ text) = "http://".toList ++ text := rfl
  have hscheme : splitScheme? ("http://".toList ++ text) =
      some (['h', 't', 't', 'p'], '/' :: '/' :: text) := rfl
  have hmarks : ∀ c ∈ text, endsAuthority .special c = false ∧ isSlash .special c = false ∧
      c ≠ '@' ∧ c ≠ ':' ∧ c ≠ '[' := fun c hc => by
    have hnot := (h c hc).2.2
    simp only [List.mem_cons, List.not_mem_nil, or_false, not_or] at hnot
    obtain ⟨hslash, hbackslash, hquery, hfragment, hat, hcolon, hbracket⟩ := hnot
    simp [endsAuthority, isSlash, hslash, hbackslash, hquery, hfragment, hat, hcolon, hbracket]
  have hslashes : ('/' :: '/' :: text).dropWhile (isSlash .special) = text := by
    show text.dropWhile (isSlash .special) = text
    obtain ⟨c, r, rfl⟩ := List.exists_cons_of_ne_nil hne
    rw [List.dropWhile_cons_of_neg (by rw [(hmarks c List.mem_cons_self).2.1]; decide)]
  have hsplit : splitHost false (text ++ writePort none) = (text, writePort none) := by
    rw [Host.splitHost_text (fun c hc => (hmarks c hc).2.2.2)]
    simp [writePort, splitHost]
  have hread := readAuthority_text ['h', 't', 't', 'p'] none hne
    (fun c hc => ⟨(hmarks c hc).1, (hmarks c hc).2.2.1⟩) hsplit (fun _ hn => by cases hn) (.inl rfl)
  rw [writePort, List.append_nil, List.append_nil] at hread
  rw [urlOf, String.toList_ofList, htrim, haddress, Url.parse,
    clean_of_not_edge fun c hc => (hmem c hc).1, hscheme]
  show (readAuthority ['h', 't', 't', 'p'] .special
    (('/' :: '/' :: text).dropWhile (isSlash .special))).map _ = _
  rw [hslashes, hread]
  cases Host.parse text <;> rfl

/-- What comes of the base address, by the URL of the address it was made of. -/
theorem parse_base {a : String} {s : Server} {u : Url} (h : parse a = .ok s)
    (hu : urlOf a = .ok u) :
    parse s.base = if u.isOverlong then .error (.malformed s.base .domainName) else .ok s := by
  obtain ⟨v, host, segments, hv, hsite, rfl⟩ := exists_site h
  cases hu.symm.trans hv
  have hoverlong : u.isOverlong = host.isOverlong := by
    rw [isOverlong, hsite.host_eq]
    rfl
  rw [hoverlong, parse_ofUrl hsite]

/-- A server is read from its JSON as from its base address. -/
theorem ofJsonText_toJson (s : Server) :
    ofJsonText s.toJson.compact = (parse s.base).mapError fun e =>
      ⟨.shape (.refused (ClientError.ofAddress e).message), none⟩ := by
  unfold ofJsonText toJson
  rw [run_readText]

/-- **Servers are in canonical form.** Whatever address a server was read from, it is read from
its own base address and from its JSON again, unless a label of its host is overlong; then both
are refused. And the base address tells scheme, host, effective port and path without the
slashes at its end, and nothing else. -/
theorem parse_canonical {a : String} {s : Server} (h : parse a = .ok s) :
    ∃ u, urlOf a = .ok u ∧
      parse s.base =
        (if u.isOverlong then .error (.malformed s.base .domainName) else .ok s) ∧
      ofJsonText s.toJson.compact =
        (if u.isOverlong then
          .error ⟨.shape (.refused
            (ClientError.ofAddress (.malformed s.base .domainName)).message), none⟩
        else .ok s) ∧
      ∀ b t, parse b = .ok t → ∃ v, urlOf b = .ok v ∧ (s = t ↔ u.SamePlace v) := by
  obtain ⟨u, host, segments, hu, hsite, hs⟩ := exists_site h
  have hagain := parse_base h hu
  refine ⟨u, hu, hagain, ?_, fun b t ht => ?_⟩
  · rw [ofJsonText_toJson, hagain]
    cases u.isOverlong <;> rfl
  · obtain ⟨v, other, more, hv, hother, rfl⟩ := exists_site ht
    exact ⟨v, hv, hs ▸ ofUrl_eq_iff hsite hother⟩

/-- Of an address in a spelling of its own. -/
theorem parse_canonical_respelled :
    parse " HTTP://Ops@Node1:80/es// " = .ok ⟨"http://node1/es"⟩ ∧
      ∃ u, urlOf " HTTP://Ops@Node1:80/es// " = .ok u ∧
        parse "http://node1/es" =
          (if u.isOverlong then .error (.malformed "http://node1/es" .domainName)
          else .ok ⟨"http://node1/es"⟩) ∧
        ∀ b t, parse b = .ok t →
          ∃ v, urlOf b = .ok v ∧ ((⟨"http://node1/es"⟩ : Server) = t ↔ u.SamePlace v) := by
  have h : parse " HTTP://Ops@Node1:80/es// " = .ok ⟨"http://node1/es"⟩ := by decide +kernel
  obtain ⟨u, hu, hagain, -, hsame⟩ := parse_canonical h
  exact ⟨h, u, hu, hagain, hsame⟩

/-! ## Servers that are refused in their turn -/

/-- A host of ideographs is accepted, and refused in its turn when encoding makes it too long. -/
theorem parse_ideographs {label : List Char} (h : ∀ c ∈ label, isIdeograph c = true)
    (hlength : label.length ≤ maxConverted)
    (hlong : 2 * maxConverted < (Punycode.encode label).length) :
    ∃ s, parse (String.ofList ("http://".toList ++ label)) = .ok s ∧
      parse s.base = .error (.malformed s.base .domainName) := by
  have hne : label ≠ [] := by
    rintro rfl
    revert hlong
    decide
  have hchars : ∀ c ∈ label, 0x20 < c.toNat ∧ isBlank c = false ∧
      c ∉ ['/', '\\', '?', '#', '@', ':', '['] := by
    intro c hc
    obtain ⟨hge, hle⟩ := toNat_of_ideograph (h c hc)
    refine ⟨by omega, ?_, notMem_of_ideograph (h c hc) (by decide)⟩
    simp only [isBlank, Bool.or_eq_false_iff, Bool.and_eq_false_iff, decide_eq_false_iff_not,
      beq_eq_false_iff_ne]
    omega
  have hurl := urlOf_hostText hne hchars
  have hoverlong := Host.isOverlong_ideographs h
  rw [Host.parse_ideographs h hne hlength] at hurl
  rw [decide_eq_true hlong] at hoverlong
  have hparse := parse_eq_ok.2 ⟨_, hurl, rfl, rfl⟩
  have hagain := parse_base hparse hurl
  have hrefused : Url.isOverlong (ofAuthority ['h', 't', 't', 'p'] .special
      ⟨[], none, .domain (acePrefix ++ Punycode.encode label), none, []⟩) = true := hoverlong
  rw [if_pos hrefused] at hagain
  exact ⟨_, hparse, hagain⟩

/-- 750 ideographs, each of them 27 code points behind the one before it. -/
def farApart : List Char := (List.range 750).map fun i => Char.ofNat (0x4E00 + 27 * i)

def longAddress : String := String.ofList ("http://".toList ++ farApart)

theorem exists_of_mem_farApart {c : Char} (h : c ∈ farApart) :
    ∃ i < 750, c.toNat = 0x4E00 + 27 * i := by
  obtain ⟨i, hi, rfl⟩ := List.mem_map.1 h
  have hlt := List.mem_range.1 hi
  exact ⟨i, hlt, by rw [Char.toNat_ofNat, if_pos (.inl (by omega))]⟩

theorem ideographs_farApart : ∀ c ∈ farApart, isIdeograph c = true := by
  intro c hc
  obtain ⟨i, hi, hcode⟩ := exists_of_mem_farApart hc
  simp only [isIdeograph, Bool.and_eq_true, decide_eq_true_eq]
  omega

theorem length_farApart : farApart.length = 750 := by
  rw [farApart, List.length_map, List.length_range]

/-- In ASCII the label has more than two characters for each of its own. -/
theorem length_encode_farApart : 2145 ≤ (Punycode.encode farApart).length := by
  have hnodup : (farApart.map Char.toNat).Nodup := by
    have hcodes : farApart.map Char.toNat = (List.range 750).map fun i => 0x4E00 + 27 * i := by
      rw [farApart, List.map_map]
      refine List.map_congr_left fun i hi => ?_
      have hlt := List.mem_range.1 hi
      rw [Function.comp_apply, Char.toNat_ofNat, if_pos (.inl (by omega))]
    rw [hcodes]
    exact List.Nodup.map (fun i j hij => by omega) List.nodup_range
  have hlong := Punycode.length_encode_of_spaced hnodup
    (fun c hc => by
      have hge := (toNat_of_ideograph (ideographs_farApart c hc)).1
      omega)
    fun c hc d hd hlt => by
      obtain ⟨i, -, hi⟩ := exists_of_mem_farApart hc
      obtain ⟨j, -, hj⟩ := exists_of_mem_farApart hd
      omega
  rw [length_farApart] at hlong
  exact hlong

theorem farApart_le_maxConverted : farApart.length ≤ maxConverted := by
  rw [length_farApart]
  decide

theorem maxConverted_lt_encode_farApart :
    2 * maxConverted < (Punycode.encode farApart).length := by
  have hcount := length_encode_farApart
  show 2000 < _
  omega

/-- The address is accepted and the server's base address is not. -/
theorem parse_longAddress : ∃ s, parse longAddress = .ok s ∧
    parse s.base = .error (.malformed s.base .domainName) :=
  parse_ideographs ideographs_farApart farApart_le_maxConverted maxConverted_lt_encode_farApart

end Server

end Failover
