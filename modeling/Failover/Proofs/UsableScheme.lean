import Failover.Proofs.Advertised
import Failover.Proofs.Override

/-!
# Schemes that make servers of what nodes report

The scheme that a configuration has for discovered addresses is any text that ends in `://`, and
it is put in front of an address as it stands. What counts of it is what stands before the mark,
without the blanks and controls that reading drops (`schemeName`). If that is `http` or `https`,
in whatever capitals, an address and port become the server at that place
(`parseAddress?_plain`). Otherwise the text is a scheme that requests are not sent over, or none;
or it has a colon of its own, and then the authority ends in the text, at the slashes of the
mark, before the address is reached. All servers that are found behind such a text are at one
host and one port (`isAt_one`).

So the check lets texts pass with which no address is found where it is: `Config.check_finds`.
-/

namespace Failover

namespace Url

open Text

/-! ## Schemes in front of a colon -/

variable {name scheme before : List Char}

/-- What stands behind a colon is left when a scheme is read. -/
theorem splitScheme?_append (name rest : List Char) :
    splitScheme? (name ++ ':' :: rest) =
      (splitScheme? (name ++ [':'])).map fun p => (p.1, p.2 ++ rest) := by
  have hcolon : ¬ isSchemeChar ':' = true := by decide
  cases name with
  | nil => rfl
  | cons c name =>
    unfold splitScheme?
    -- The scheme ends at the colon at the latest, so neither part sees what is behind it.
    rw [dropWhile_append_cons hcolon, dropWhile_append_cons hcolon, takeWhile_append_cons hcolon,
      takeWhile_append_cons hcolon]
    by_cases hletter : c.isAlpha = true
    · cases hdrop : (c :: name).dropWhile isSchemeChar with
      | nil => simp [hletter]
      | cons d r =>
        by_cases hd : d = ':'
        · simp [hletter, hd]
        · simp [hletter, hd]
    · simp [hletter]

/-- A scheme that is read in front of a colon is all that stands there, or there is another colon
before it. -/
theorem splitScheme?_colon (h : splitScheme? (name ++ [':']) = some (scheme, before)) :
    (scheme = name.map Char.toLower ∧ before = []) ∨ ∃ more, before = more ++ [':'] := by
  have hcolon : ¬ isSchemeChar ':' = true := by decide
  cases name with
  | nil => cases h
  | cons c name =>
    unfold splitScheme? at h
    rw [dropWhile_append_cons hcolon, takeWhile_append_cons hcolon] at h
    dsimp only [List.cons_append] at h
    split at h
    · split at h
      next rest hrest =>
        cases h
        cases hdrop : (c :: name).dropWhile isSchemeChar with
        | nil =>
          rw [hdrop] at hrest
          refine .inl ⟨?_, (List.cons.inj hrest).2.symm⟩
          rw [List.takeWhile_eq_self_iff.2 (List.dropWhile_eq_nil_iff.1 hdrop)]
        | cons d r =>
          rw [hdrop, List.cons_append] at hrest
          exact .inr ⟨r, (List.cons.inj hrest).2.symm⟩
      · cases h
    · cases h

/-- A scheme over HTTP is read in whatever capitals. -/
theorem splitScheme?_isHttp (h : Server.isHttp (name.map Char.toLower) = true) :
    splitScheme? (name ++ [':']) = some (name.map Char.toLower, []) := by
  have hcolon : ¬ isSchemeChar ':' = true := by decide
  have hletters : ∀ c ∈ name, c.isAlpha = true := fun c hc => by
    rw [← Char.isAlpha_toLower_eq_isAlpha]
    refine List.all_eq_true.1 ?_ _ (List.mem_map_of_mem hc)
    rcases isHttp_iff.1 h with heq | heq <;> rw [heq] <;> decide
  have hall : ∀ c ∈ name, isSchemeChar c = true := fun c hc => by
    rw [isSchemeChar, Char.isAlphanum, hletters c hc]
    rfl
  cases name with
  | nil => cases h
  | cons c name =>
    unfold splitScheme?
    rw [dropWhile_append_cons hcolon, takeWhile_append_cons hcolon,
      List.dropWhile_eq_nil_iff.2 hall, List.takeWhile_eq_self_iff.2 hall]
    dsimp only [List.cons_append, List.nil_append]
    rw [if_pos (hletters c List.mem_cons_self)]
    rfl

/-! ## Authorities -/

/-- Host and port of an authority do not depend on what stands behind it. -/
theorem readAuthority_congr {cs ds : List Char} {a b : Authority}
    (hsame : cs.takeWhile (!endsAuthority .special ·) = ds.takeWhile (!endsAuthority .special ·))
    (ha : readAuthority scheme .special cs = .ok a)
    (hb : readAuthority scheme .special ds = .ok b) : a.host = b.host ∧ a.port = b.port := by
  obtain ⟨hhost, -, n, hn, hport⟩ := parts_of_readAuthority ha rfl
  obtain ⟨hhost', -, m, hm, hport'⟩ := parts_of_readAuthority hb rfl
  rw [← hsame] at hhost' hm hport'
  obtain rfl : n = m := Option.some.inj (hn.symm.trans hm)
  exact ⟨Except.ok.inj (hhost.symm.trans hhost'), hport.trans hport'.symm⟩

/-- The port that is kept for a scheme is kept where there is no own port, unless it is that. -/
theorem keptPort_scheme (scheme digits : List Char) (n : Nat) :
    (if digits.isEmpty || defaultPort? scheme == some n then none else some n) =
      (if digits.isEmpty || defaultPort? [] == some n then none else some n).filter
        (defaultPort? scheme != some ·) := by
  have hnone : (defaultPort? [] == some n) = false := rfl
  rw [hnone, Bool.or_false]
  by_cases hempty : digits.isEmpty = true
  · rw [hempty]
    rfl
  · rw [Bool.eq_false_iff.2 hempty, Bool.false_or, if_neg Bool.false_ne_true, Option.filter_some]
    by_cases hown : (defaultPort? scheme == some n) = true
    · rw [if_pos hown, if_neg (by rw [bne, hown]; decide)]
    · rw [if_neg hown, if_pos (by rw [bne, Bool.eq_false_iff.2 hown]; rfl)]

/-- A scheme has no say in an authority but for its own port, which is dropped. -/
theorem readAuthority_scheme (scheme cs : List Char) :
    readAuthority scheme .special cs = (readAuthority [] .special cs).map fun a =>
      { a with port := a.port.filter (defaultPort? scheme != some ·) } := by
  unfold readAuthority
  simp only [beq_self_eq_true, if_true, throw, throwThe, MonadExceptOf.throw, bind, Except.bind,
    pure, Except.pure, keptPort_scheme scheme]
  -- What is refused is refused on both sides alike.
  split
  · rfl
  · split
    · rfl
    · split
      · rfl
      · split
        · rfl
        · split
          · rfl
          · split <;> rfl

end Url

namespace Discovery

open Text Url

/-! ## Texts with an address behind them -/

variable {front address port : List Char} {scheme : String}

/-- The characters that are read of a scheme text and an address and port behind it. -/
theorem clean_prefixed (hscheme : scheme.toList = front ++ "://".toList) (hne : port ≠ [])
    (hdigits : ∀ c ∈ port, isDigit c = true) :
    clean (Server.addressUrl (trim (scheme ++ String.ofList (address ++ ':' :: port)).toList)) =
      schemeName front ++
        ':' :: ('/' :: '/' :: (address.filter (!isSkipped ·) ++ ':' :: port)) := by
  have htext : (scheme ++ String.ofList (address ++ ':' :: port)).toList =
      reported front address port := by
    simp [reported, hscheme]
  rw [htext, clean_reported front hne hdigits]

/-- The way from a text in front of an address to the server that is found. -/
theorem exists_split {raw : String} {s : Server} (hscheme : scheme.toList = front ++ "://".toList)
    (h : parseAddress? raw scheme = some s) :
    ∃ name before tail a segments, splitScheme? (schemeName front ++ [':']) = some (name, before) ∧
      Server.isHttp name = true ∧
      readAuthority name .special ((before ++ '/' :: '/' :: tail).dropWhile (isSlash .special)) =
        .ok a ∧
      IsSite (ofAuthority name .special a) a.host segments ∧
      s = Server.ofUrl (ofAuthority name .special a) := by
  obtain ⟨p, -, hparse⟩ := parseAddress?_eq_some_iff.1 h
  obtain ⟨u, host, segments, hurl, hsite, rfl⟩ := Server.exists_site hparse
  obtain ⟨name, rest, a, hsplit, hread, rfl⟩ := exists_authority_of_parse hurl hsite.http
  rw [clean_prefixed hscheme p.port_ne_nil p.port_digits, splitScheme?_append] at hsplit
  obtain ⟨⟨_, before⟩, hname, heq⟩ := Option.map_eq_some_iff.1 hsplit
  obtain ⟨rfl, rfl⟩ := Prod.mk.inj heq
  obtain rfl : a.host = host := Option.some.inj hsite.host_eq
  exact ⟨_, before, _, a, segments, hname, hsite.http, hread, hsite, rfl⟩

/-! ## Addresses in plain form -/

/-- An address and a port as most nodes report them. -/
def plain (a : Ipv4) (port : Nat) : String :=
  String.ofList (a.write ++ ':' :: Nat.toDigits 10 port)

/-- With the text in front of it, every address is found where it is. -/
def Finds (scheme : String) : Prop :=
  ∀ (a : Ipv4) (port : Nat), a.Fits → 1 ≤ port → port ≤ 65535 →
    ∃ s protocol path, parseAddress? (plain a port) scheme = some s ∧
      s.IsAt protocol (.ipv4 a) port path

/-- What a scheme text has in front of its mark, in small letters. -/
def protocolOf (scheme : String) : List Char :=
  (schemeName (scheme.toList.take (scheme.toList.length - 3))).map Char.toLower

theorem protocolOf_eq (h : scheme.toList = front ++ "://".toList) :
    protocolOf scheme = (schemeName front).map Char.toLower := by
  have hlength : (front ++ "://".toList).length - 3 = front.length := by
    rw [List.length_append]
    rfl
  rw [protocolOf, h, hlength, List.take_left]

/-- The characters of an IPv4 address are read as they stand. -/
theorem heard_ipv4 (a : Ipv4) : heard a.write = a.write := by
  have hhost : ∀ c ∈ a.write, Host.isHostChar c = true := fun c hc =>
    Host.isHostChar_of_mem (Host.ipv4_isPlainName a) hc
  have hkept : a.write.filter (!isSkipped ·) = a.write := List.filter_eq_self.2 fun c hc => by
    rw [not_isSkipped (isVisible_iff.1 (isVisible_of_hostChar (hhost c hc))).1]
    rfl
  obtain ⟨c, r, hwrite⟩ := List.exists_cons_of_ne_nil (Host.ipv4_write_ne_nil a)
  have hc := (not_endsAuthority (hhost c (hwrite ▸ List.mem_cons_self))).1
  simp only [endsAuthority, Bool.or_eq_false_iff] at hc
  have hslash : ¬ isSlash .special c = true := by simp [isSlash, hc.1.1.1, hc.2]
  rw [heard, hkept, hwrite, List.dropWhile_cons_of_neg hslash]

/-- The parts of an address in plain form. -/
theorem exists_spelling_plain (a : Ipv4) (port : Nat) :
    ∃ p : Spelling, trim (plain a port).toList = p.write ∧ p.address = a.write ∧
      p.port = Nat.toDigits 10 port := by
  have hname : IsPlain [] := fun c hc => by cases hc
  have hvisible : ∀ c ∈ a.write, isVisible c = true := fun c hc =>
    isVisible_of_hostChar (Host.isHostChar_of_mem (Host.ipv4_isPlainName a) hc)
  have hplain : IsPlain a.write := fun c hc => by
    have hmarks : [':', '/', '[', ']'].all (fun mark =>
        !Domain.isLabelChar mark && mark != '.') = true := by decide
    rw [Bool.eq_false_iff]
    intro hmark
    have hnot := List.all_eq_true.1 hmarks c (List.contains_iff_mem.1 hmark)
    rw [Bool.and_eq_true, Bool.not_eq_true', bne_iff_ne] at hnot
    exact (Host.ipv4_isPlainName a).not_mem hnot.1 hnot.2 hc
  rw [plain, String.toList_ofList]
  exact exists_spelling hname (Host.ipv4_write_ne_nil a) hplain (trim_of_isVisible hvisible)
    Nat.toDigits_ne_nil
    (fun c hc => isDigit_of_ascii (Nat.isDigit_of_mem_toDigits (by decide) (by decide) hc))
    (by simp [spellings])

/-- The authority of an address and a port. The scheme's own port is dropped. -/
theorem readAuthority_plain {a : Ipv4} {n : Nat} (name : List Char) (ha : a.Fits)
    (hn : n ≤ 65535) :
    readAuthority name .special (a.write ++ ':' :: Nat.toDigits 10 n) =
      .ok ⟨[], none, .ipv4 a, (some n).filter (defaultPort? name != some ·), []⟩ := by
  have hkeeps : KeepsPort [] (some n) := by
    rintro _ ⟨rfl⟩
    exact ⟨hn, fun hown => by cases hown⟩
  have hfinished : (Host.ipv4 a).Finished := ha
  have hread := readAuthority_write hfinished hkeeps (.inl rfl)
  rw [List.append_nil] at hread
  rw [readAuthority_scheme]
  exact congrArg (Except.map _) hread

/-- **Behind a scheme over HTTP an address is found where it is.** -/
theorem parseAddress?_plain {a : Ipv4} {n : Nat} (hscheme : scheme.toList = front ++ "://".toList)
    (hhttp : Server.isHttp ((schemeName front).map Char.toLower) = true) (ha : a.Fits)
    (hn : n ≤ 65535) :
    ∃ s, parseAddress? (plain a n) scheme = some s ∧
      s.IsAt (String.ofList ((schemeName front).map Char.toLower)) (.ipv4 a) n [] := by
  obtain ⟨p, htext, haddress, hport⟩ := exists_spelling_plain a n
  have hurl : Server.urlOf (scheme ++ String.ofList (p.address ++ ':' :: p.port)) =
      .ok (ofAuthority ((schemeName front).map Char.toLower) .special ⟨[], none, .ipv4 a,
        (some n).filter (defaultPort? ((schemeName front).map Char.toLower) != some ·), []⟩) := by
    rw [Server.urlOf, Url.parse, clean_prefixed hscheme p.port_ne_nil p.port_digits,
      splitScheme?_append, splitScheme?_isHttp hhttp]
    dsimp only [Option.map_some]
    rw [kind_of_isHttp hhttp, haddress, hport]
    dsimp only
    -- The slashes of the mark are dropped, and no others, as no address begins with one.
    have hslashes : ('/' :: '/' :: (a.write.filter (!isSkipped ·) ++ ':' ::
        Nat.toDigits 10 n)).dropWhile (isSlash .special) =
        a.write ++ ':' :: Nat.toDigits 10 n := by
      show ((a.write.filter (!isSkipped ·)) ++ _).dropWhile _ = _
      rw [dropWhile_append_cons (by decide)]
      exact congrArg (· ++ _) (heard_ipv4 a)
    rw [List.nil_append, hslashes, readAuthority_plain _ ha hn]
    rfl
  obtain ⟨host, segments, hsite⟩ := isSite_of_parse hurl hhttp
  obtain rfl : .ipv4 a = host := Option.some.inj hsite.host_eq
  refine ⟨_, ?_, isAt_ofAuthority hsite ?_ rfl⟩
  · rw [parseAddress?_of_spelling p htext, toOption_eq_some, Server.parse_eq_ok]
    exact ⟨_, hurl, hhttp, rfl⟩
  · rw [Option.filter_some]
    split
    · rfl
    next hown => simpa using hown

/-! ## Other schemes -/

/-- All that is found behind a text that is no scheme over HTTP is at one host and port. -/
theorem isAt_one {raw raw' : String} {s s' : Server}
    (hscheme : scheme.toList = front ++ "://".toList)
    (hother : Server.isHttp ((schemeName front).map Char.toLower) = false)
    (h : parseAddress? raw scheme = some s) (h' : parseAddress? raw' scheme = some s') :
    ∃ protocol host n path path', s.IsAt protocol host n path ∧ s'.IsAt protocol host n path' := by
  obtain ⟨name, before, tail, a, segments, hsplit, hhttp, hread, hsite, rfl⟩ :=
    exists_split hscheme h
  obtain ⟨name', before', tail', b, segments', hsplit', -, hread', hsite', rfl⟩ :=
    exists_split hscheme h'
  obtain ⟨rfl, rfl⟩ : name = name' ∧ before = before' := by
    rw [hsplit, Option.some.injEq, Prod.mk.injEq] at hsplit'
    exact hsplit'
  obtain ⟨more, rfl⟩ : ∃ more, before = more ++ [':'] := by
    refine (splitScheme?_colon hsplit).resolve_left ?_
    rintro ⟨rfl, -⟩
    rw [hother] at hhttp
    cases hhttp
  -- The authority ends at the slashes of the mark.
  have hcut : ∀ tail : List Char,
      ((more ++ [':'] ++ '/' :: '/' :: tail).dropWhile (isSlash .special)).takeWhile
        (!endsAuthority .special ·) =
      (more.dropWhile (isSlash .special) ++ [':']).takeWhile (!endsAuthority .special ·) := by
    intro tail
    have hshift : more ++ [':'] ++ '/' :: '/' :: tail = more ++ ':' :: '/' :: '/' :: tail := by simp
    rw [hshift, dropWhile_append_cons (by decide), List.append_cons,
      takeWhile_append_cons (by decide)]
  obtain ⟨hhost, hport⟩ := readAuthority_congr ((hcut tail).trans (hcut tail').symm) hread hread'
  obtain ⟨n, hn⟩ : ∃ n, (a.port <|> defaultPort? name) = some n := by
    obtain ⟨own, hown⟩ := exists_defaultPort hhttp
    rw [hown]
    cases a.port <;> exact ⟨_, rfl⟩
  have hat' := isAt_ofAuthority hsite' (hport ▸ hn) rfl
  rw [← hhost] at hat'
  exact ⟨_, _, n, _, _, isAt_ofAuthority hsite hn rfl, hat'⟩

/-- A scheme text finds every address where it is exactly if it stands for a scheme over HTTP. -/
theorem finds_iff (hscheme : scheme.toList = front ++ "://".toList) :
    Finds scheme ↔ Server.isHttp (protocolOf scheme) = true := by
  rw [protocolOf_eq hscheme]
  constructor
  · intro hfinds
    by_contra hother
    have hfits : (⟨0⟩ : Ipv4).Fits ∧ (⟨1⟩ : Ipv4).Fits := by
      unfold Ipv4.Fits
      decide
    obtain ⟨s, protocol, path, hs, hat⟩ := hfinds ⟨0⟩ 1 hfits.1 (by decide) (by decide)
    obtain ⟨s', protocol', path', hs', hat'⟩ := hfinds ⟨1⟩ 1 hfits.2 (by decide) (by decide)
    -- Two addresses would be one host.
    obtain ⟨_, host, _, _, _, hone, hone'⟩ :=
      isAt_one hscheme (Bool.eq_false_iff.2 hother) hs hs'
    have hhost : Host.ipv4 ⟨0⟩ = host := (hat.unique hone).2.1
    have hhost' : Host.ipv4 ⟨1⟩ = host := (hat'.unique hone').2.1
    exact absurd (hhost.trans hhost'.symm) (by decide)
  · intro hhttp a port ha _ hport
    obtain ⟨s, hs, hat⟩ := parseAddress?_plain hscheme hhttp ha hport
    exact ⟨s, _, _, hs, hat⟩

end Discovery

namespace Config

open Discovery

/-- The scheme of a configuration that passed the check ends in a mark. -/
theorem exists_mark {c : Config} (h : c.check = .ok ()) :
    ∃ front, c.discovery.defaultScheme.toList = front ++ "://".toList := by
  have hmark : isSchemeText c.discovery.defaultScheme = true := by
    by_contra hno
    rw [check_eq] at h
    split at h
    · cases h
    · unfold checkSettings at h
      simp only [Bool.eq_false_iff.2 hno, throw, throwThe, MonadExceptOf.throw, bind, Except.bind,
        pure, Except.pure] at h
      split at h
      · cases h
      · split at h <;> cases h
  obtain ⟨front, hfront⟩ := List.isSuffixOf_iff_suffix.1 hmark
  exact ⟨front, hfront.symm⟩

/-- **What a checked configuration finds.** The scheme of a configuration that passed the check
finds every address where it is if it has `http` or `https` in front of its mark, in whatever
capitals, and only then. The server is at that scheme, at the address and port, and at no path.
With any other scheme that passed, all servers that are ever found are at one and the same host
and port. -/
theorem check_finds {c : Config} (h : c.check = .ok ()) :
    let scheme := c.discovery.defaultScheme
    (Finds scheme ↔ Server.isHttp (protocolOf scheme) = true) ∧
      (Server.isHttp (protocolOf scheme) = true → ∀ (a : Url.Ipv4) (port : Nat), a.Fits →
        port ≤ 65535 → ∃ s, parseAddress? (plain a port) scheme = some s ∧
          s.IsAt (String.ofList (protocolOf scheme)) (.ipv4 a) port []) ∧
      (Server.isHttp (protocolOf scheme) = false → ∀ raw raw' s s',
        parseAddress? raw scheme = some s → parseAddress? raw' scheme = some s' →
          ∃ protocol host port path path',
            s.IsAt protocol host port path ∧ s'.IsAt protocol host port path') := by
  intro scheme
  obtain ⟨front, hfront⟩ := exists_mark h
  refine ⟨finds_iff hfront, ?_, ?_⟩
  · rw [protocolOf_eq hfront]
    exact fun hhttp a port ha hport => parseAddress?_plain hfront hhttp ha hport
  · rw [protocolOf_eq hfront]
    exact fun hother raw raw' s s' hs hs' => isAt_one hfront hother hs hs'

/-- A scheme in capitals, and a text with a host of its own. -/
theorem check_finds_capitals :
    Config.check { servers := ["[::1]"], discovery := { defaultScheme := "HTTPS://" } } = .ok () ∧
      Finds "HTTPS://" ∧
      Config.check { servers := ["[::1]"], discovery := { defaultScheme := "http://es1://" } } =
        .ok () ∧
      ∃ protocol host port path path',
        (⟨"http://es1//10.0.0.1:9200"⟩ : Server).IsAt protocol host port path ∧
        (⟨"http://es1//10.0.0.2:9201"⟩ : Server).IsAt protocol host port path' := by
  have hcapitals : Config.check
      { servers := ["[::1]"], discovery := { defaultScheme := "HTTPS://" } } = .ok () := rfl
  have hhost : Config.check
      { servers := ["[::1]"], discovery := { defaultScheme := "http://es1://" } } = .ok () := rfl
  have hfound : parseAddress? "10.0.0.1:9200" "http://es1://" =
        some ⟨"http://es1//10.0.0.1:9200"⟩ ∧
      parseAddress? "10.0.0.2:9201" "http://es1://" = some ⟨"http://es1//10.0.0.2:9201"⟩ := by
    decide +kernel
  exact ⟨hcapitals, (check_finds hcapitals).1.2 (by decide), hhost,
    (check_finds hhost).2.2 (by decide) _ _ _ _ hfound.1 hfound.2⟩

/-- Not every configuration that passed the check finds the addresses that nodes report: no
request is sent over `ftp`, and so nothing is found behind it. -/
theorem exists_check_unfound :
    ¬ ∀ c : Config, c.check = .ok () → Finds c.discovery.defaultScheme := by
  intro hall
  have hcheck : Config.check
      { servers := ["[::1]"], discovery := { defaultScheme := "ftp://" } } = .ok () := rfl
  have hfits : (⟨0x0A000001⟩ : Url.Ipv4).Fits := by
    unfold Url.Ipv4.Fits
    decide
  have hnone : parseAddress? (plain ⟨0x0A000001⟩ 9200) "ftp://" = none := by decide +kernel
  obtain ⟨s, _, _, hs, -⟩ := hall _ hcheck ⟨0x0A000001⟩ 9200 hfits (by decide) (by decide)
  exact absurd (hnone.symm.trans hs) (by simp)

end Config

end Failover
