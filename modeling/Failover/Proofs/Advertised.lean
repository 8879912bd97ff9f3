import Failover.Proofs.Canonical
import Failover.Proofs.Spelling

/-!
# The place that a node reports

Address and port of a reported address are put behind the scheme and read as a URL. To the
reading of reported addresses four characters have a meaning, to the reading of URLs some more:
a backslash, a question mark and a hash sign end the host as a slash does. An address that holds
none of them, backslashes in front aside, is the host up to its port (`IsWhole`), and the
server is at the scheme, the host and the port that were reported, with no path
(`authority_whole`). In any other address the host ends early. Then the colon and the port are
part of what comes behind it, and the server is at the scheme's own port, perhaps with a path
(`authority_cut`). `parseAddress?_place` puts the two together.
-/

namespace Failover

namespace Text

/-- Every digit is behind the controls and the space. -/
theorem toNat_of_isDigit {c : Char} (h : isDigit c = true) : 0x20 < c.toNat := by
  unfold isDigit at h
  split at h
  · simp only [Char.isDigit, Bool.and_eq_true, decide_eq_true_eq, UInt32.le_iff_toNat_le] at h
    have hlow : 48 ≤ c.toNat := h.1
    omega
  · omega

/-- Where something that stays stands behind a text, dropping from the front ends there. -/
theorem dropWhile_append_cons {α : Type} {p : α → Bool} {x : α} (hx : ¬ p x = true)
    (front rest : List α) :
    (front ++ x :: rest).dropWhile p = front.dropWhile p ++ x :: rest := by
  rw [List.dropWhile_append, List.dropWhile_cons_of_neg hx]
  split
  next hnil => rw [List.isEmpty_iff.1 hnil, List.nil_append]
  · rfl

/-- Where something that does not count stands behind a text, taking from the front ends there. -/
theorem takeWhile_append_cons {α : Type} {p : α → Bool} {x : α} (hx : ¬ p x = true)
    (front rest : List α) : (front ++ x :: rest).takeWhile p = front.takeWhile p := by
  rw [List.takeWhile_append, List.takeWhile_cons_of_neg hx, List.append_nil]
  split
  next hall =>
    exact ((List.takeWhile_prefix p).eq_of_length hall).symm
  · rfl

end Text

namespace Url

open Text

/-! ## Numbers of ports -/

/-- The digits of a port write its number. -/
theorem digitsNumber?_of_readPort? {cs : List Char} {n : Nat} (h : readPort? cs = some n) :
    digitsNumber? 10 cs = some n := by
  induction cs using List.reverseRecOn generalizing n with
  | nil => exact h
  | append_singleton front c ih =>
    rw [readPort?_concat] at h
    obtain ⟨m, hm, hc⟩ := Option.bind_eq_some_iff.1 h
    unfold takeDigit? at hc
    split at hc
    next hbounds =>
      cases hc
      have hdigit : c.isDigit = true := (Bool.and_eq_true_iff.1 hbounds).1
      have hlow : digitValue? 10 c = some (c.toNat - '0'.toNat) := by
        have hrange := hdigit
        simp only [Char.isDigit, Bool.and_eq_true, decide_eq_true_eq,
          UInt32.le_iff_toNat_le] at hrange
        have hhigh : c.toNat ≤ 57 := hrange.2
        have hzero : '0'.toNat = 48 := rfl
        rw [digitValue?, hexValue?, if_pos hdigit, Option.filter_some]
        exact if_pos (decide_eq_true (by omega))
      rw [digitsNumber?_concat, ih hm, hlow]
      rfl
    · cases hc

/-! ## Parts of an authority -/

/-- A text without an `@` at the end of an authority stands behind the user information. -/
theorem splitUserinfo_append {front back : List Char} (h : '@' ∉ back) :
    (splitUserinfo (front ++ back)).2 = (splitUserinfo front).2 ++ back := by
  have hback : ∀ c ∈ back.reverse, (c != '@') = true := fun c hc =>
    bne_iff_ne.2 fun heq => h (heq ▸ List.mem_reverse.1 hc)
  unfold splitUserinfo
  dsimp only
  rw [List.reverse_append, List.dropWhile_append_of_pos hback, List.takeWhile_append_of_pos hback]
  split <;> simp

/-- What is behind the user information is a part of the authority. -/
theorem mem_of_mem_splitUserinfo {authority : List Char} {c : Char}
    (h : c ∈ (splitUserinfo authority).2) : c ∈ authority := by
  unfold splitUserinfo at h
  dsimp only at h
  split at h
  · exact h
  · exact List.mem_reverse.1 ((List.takeWhile_sublist _).subset (List.mem_reverse.1 h))

/-- What an authority that could be read was made of. -/
theorem parts_of_readAuthority {scheme cs : List Char} {a : Authority}
    (h : readAuthority scheme .special cs = .ok a) {host port : List Char}
    (hsplit : splitHost false
      (splitUserinfo (cs.takeWhile (!endsAuthority .special ·))).2 = (host, port)) :
    Host.parse host = .ok a.host ∧
      a.rest = (port.drop 1).dropWhile (· != '\\') ++
        cs.dropWhile (!endsAuthority .special ·) ∧
      ∃ n, readPort? ((port.drop 1).takeWhile (· != '\\')) = some n ∧
        a.port = if ((port.drop 1).takeWhile (· != '\\')).isEmpty ||
          defaultPort? scheme == some n then none else some n := by
  unfold readAuthority at h
  simp only [beq_self_eq_true, if_true, throw, throwThe, MonadExceptOf.throw, bind, Except.bind,
    pure, Except.pure, hsplit] at h
  split at h
  · cases h
  · split at h
    · cases h
    · split at h
      · cases h
      next hhost =>
        split at h
        · cases h
        · split at h
          · cases h
          next n hport =>
            split at h
            · cases h
            · cases h
              exact ⟨hhost, rfl, n, hport, rfl⟩

end Url

namespace Discovery

open Text Url

/-! ## What a URL makes of an address -/

/-- What is read of an address behind the slashes of the scheme: tabs and line ends are skipped,
and backslashes in front count as slashes. -/
def heard (address : List Char) : List Char :=
  (address.filter (!isSkipped ·)).dropWhile (isSlash .special)

/-- No character of the address ends an authority. -/
def IsWhole (address : List Char) : Prop :=
  ∀ c ∈ heard address, endsAuthority .special c = false

instance (address : List Char) : Decidable (IsWhole address) :=
  List.decidableBAll _ (heard address)

/-- What stands for the host in an address: it ends with the authority, and begins behind the
user information. -/
def hostText (address : List Char) : List Char :=
  (splitUserinfo ((heard address).takeWhile (!endsAuthority .special ·))).2

/-- What a URL has behind its authority when the address is not whole. -/
def spilled (address port : List Char) : List Char :=
  (heard address).dropWhile (!endsAuthority .special ·) ++ ':' :: port

variable {address port : List Char}

theorem mem_of_mem_heard {c : Char} (h : c ∈ heard address) : c ∈ address :=
  (List.mem_filter.1 ((List.dropWhile_sublist _).subset h)).1

/-- The marks of reported addresses are not in what is read. -/
theorem not_mem_heard (h : IsPlain address) {mark : Char} (hmark : isMark mark = true) :
    mark ∉ heard address := fun hmem => by
  have hplain := h mark (mem_of_mem_heard hmem)
  rw [hmark] at hplain
  cases hplain

theorem not_mem_port (h : ∀ c ∈ port, isDigit c = true) {c : Char} (hc : isDigit c = false) :
    c ∉ port := fun hmem => by
  rw [h c hmem] at hc
  cases hc

/-- Address and port behind a scheme. -/
def reported (scheme address port : List Char) : List Char :=
  scheme ++ "://".toList ++ address ++ ':' :: port

/-- What is read of a text in front of a scheme's mark. -/
def schemeName (front : List Char) : List Char :=
  ((trimStart front).dropWhile isEdge).filter (!isSkipped ·)

theorem reported_eq (front address port : List Char) :
    reported front address port = front ++ ':' :: ('/' :: '/' :: (address ++ ':' :: port)) := by
  simp [reported]

theorem last_reported {front : List Char} (hne : port ≠ [])
    (hdigits : ∀ c ∈ port, isDigit c = true) :
    ∀ c ∈ (reported front address port).reverse.head?, 0x20 < c.toNat := by
  intro c hc
  rw [reported, List.head?_reverse, List.getLast?_append_of_ne_nil _ (List.cons_ne_nil _ _),
    List.getLast?_cons_of_ne_nil hne] at hc
  exact toNat_of_isDigit (hdigits c (List.mem_of_mem_getLast? hc))

/-- The characters that are read of a text, its mark, and an address and port behind it. Nothing
is skipped in the port. -/
theorem clean_reported (front : List Char) (hne : port ≠ [])
    (hdigits : ∀ c ∈ port, isDigit c = true) :
    clean (Server.addressUrl (trim (reported front address port))) =
      schemeName front ++
        ':' :: ('/' :: '/' :: (address.filter (!isSkipped ·) ++ ':' :: port)) := by
  have htrim : trim (reported front address port) = reported (trimStart front) address port := by
    have hstart : trimStart (reported front address port) =
        reported (trimStart front) address port := by
      rw [reported_eq, reported_eq]
      exact dropWhile_append_cons (by decide) _ _
    rw [trim, hstart, reported, trimEnd_port hne hdigits]
  have hmark : Server.addressUrl (reported (trimStart front) address port) =
      reported (trimStart front) address port := by
    rw [Server.addressUrl, reported_eq, if_pos (Server.hasSchemeMark_append _ _)]
  have hstart : (reported (trimStart front) address port).dropWhile isEdge =
      reported ((trimStart front).dropWhile isEdge) address port := by
    rw [reported_eq, reported_eq]
    exact dropWhile_append_cons (by decide) _ _
  have hend : (reported ((trimStart front).dropWhile isEdge) address port).reverse.dropWhile
      isEdge = (reported ((trimStart front).dropWhile isEdge) address port).reverse :=
    dropWhile_isEdge (last_reported hne hdigits)
  have hport : port.filter (!isSkipped ·) = port :=
    List.filter_eq_self.2 fun c hc => by rw [not_isSkipped (toNat_of_isDigit (hdigits c hc))]; rfl
  have hmarks : isSkipped ':' = false ∧ isSkipped '/' = false := by decide
  unfold clean
  dsimp only
  rw [htrim, hmark, hstart, hend, List.reverse_reverse, reported_eq]
  simp [schemeName, hmarks, hport]

/-- Address and port behind a scheme are an authority and what follows it. -/
theorem urlOf_reported {scheme : List Char} (hscheme : Server.isHttp scheme = true)
    (hne : port ≠ []) (hdigits : ∀ c ∈ port, isDigit c = true) :
    Server.urlOf (String.ofList (scheme ++ "://".toList) ++
        String.ofList (address ++ ':' :: port)) =
      (readAuthority scheme .special (heard address ++ ':' :: port)).map
        (ofAuthority scheme .special) := by
  have htext : (String.ofList (scheme ++ "://".toList) ++
      String.ofList (address ++ ':' :: port)).toList = reported scheme address port := by
    simp [reported]
  have hslashes : ('/' :: '/' :: (address.filter (!isSkipped ·) ++ ':' :: port)).dropWhile
      (isSlash .special) = heard address ++ ':' :: port :=
    dropWhile_append_cons (by decide) _ _
  have hsplit : ∀ rest, splitScheme? (schemeName scheme ++ ':' :: rest) = some (scheme, rest) := by
    intro rest
    rcases isHttp_iff.1 hscheme with rfl | rfl <;> rfl
  rw [Server.urlOf, htext, Url.parse, clean_reported scheme hne hdigits, hsplit]
  dsimp only
  rw [kind_of_isHttp hscheme]
  dsimp only
  rw [hslashes]

theorem heard_of_isWhole (h : IsWhole address) :
    (heard address).takeWhile (!endsAuthority .special ·) = heard address :=
  List.takeWhile_eq_self_iff.2 fun c hc => by rw [h c hc]; rfl

/-- No mark is in the text of the host. -/
theorem not_mem_hostText (h : IsPlain address) :
    ∀ c ∈ hostText address, c ≠ ':' ∧ c ≠ '[' := fun c hc => by
  have hmem : c ∈ heard address :=
    (List.takeWhile_sublist _).subset (mem_of_mem_splitUserinfo hc)
  exact ⟨fun heq => not_mem_heard h (by decide : isMark ':' = true) (heq ▸ hmem),
    fun heq => not_mem_heard h (by decide : isMark '[' = true) (heq ▸ hmem)⟩

/-- An address that is whole is the host up to its port. -/
theorem authority_whole {scheme : List Char} {a : Authority} (hwhole : IsWhole address)
    (hplain : IsPlain address) (hne : port ≠ []) (hdigits : ∀ c ∈ port, isDigit c = true)
    (h : readAuthority scheme .special (heard address ++ ':' :: port) = .ok a) :
    Host.parse (hostText address) = .ok a.host ∧ a.rest = [] ∧
      ∃ n, digitsNumber? 10 port = some n ∧
        a.port = if defaultPort? scheme == some n then none else some n := by
  have hother : ∀ c ∈ port, ∀ d, isDigit d = false → c ≠ d := fun c hc d hd heq =>
    not_mem_port hdigits hd (heq ▸ hc)
  have hinside : ∀ c ∈ heard address ++ ':' :: port, (!endsAuthority .special c) = true := by
    intro c hc
    rw [Bool.not_eq_true']
    rcases List.mem_append.1 hc with hc | hc
    · exact hwhole c hc
    · rcases List.mem_cons.1 hc with rfl | hc
      · decide
      · simp [endsAuthority, hother c hc '/' (by decide), hother c hc '?' (by decide),
          hother c hc '#' (by decide), hother c hc '\\' (by decide)]
  have hat : '@' ∉ ':' :: port := by
    simpa using not_mem_port hdigits (by decide)
  have hsplit : splitHost false (splitUserinfo ((heard address ++ ':' :: port).takeWhile
      (!endsAuthority .special ·))).2 = (hostText address, ':' :: port) := by
    have htext := Host.splitHost_text (not_mem_hostText hplain) (':' :: port)
    unfold hostText at htext ⊢
    rw [heard_of_isWhole hwhole] at htext ⊢
    rw [List.takeWhile_eq_self_iff.2 hinside, splitUserinfo_append hat, htext]
    simp [splitHost]
  obtain ⟨hhost, hrest, n, hread, hkept⟩ := parts_of_readAuthority h hsplit
  have hslash : ∀ c ∈ port, (c != '\\') = true := fun c hc =>
    bne_iff_ne.2 (hother c hc '\\' (by decide))
  have hempty : port.isEmpty = false := by simpa using hne
  rw [List.drop_one, List.tail_cons, List.dropWhile_eq_nil_iff.2 hslash,
    List.dropWhile_eq_nil_iff.2 hinside] at hrest
  rw [List.drop_one, List.tail_cons, List.takeWhile_eq_self_iff.2 hslash] at hread hkept
  rw [hempty, Bool.false_or] at hkept
  exact ⟨hhost, hrest, n, digitsNumber?_of_readPort? hread, hkept⟩

/-- In any other address the host ends early, and colon and port are read as what follows it. -/
theorem authority_cut {scheme : List Char} {a : Authority} (hcut : ¬ IsWhole address)
    (hplain : IsPlain address)
    (h : readAuthority scheme .special (heard address ++ ':' :: port) = .ok a) :
    Host.parse (hostText address) = .ok a.host ∧ a.rest = spilled address port ∧
      a.port = none := by
  have hend : ¬ ∀ c ∈ heard address, (!endsAuthority .special c) = true := fun hall =>
    hcut fun c hc => by
      rw [← Bool.not_eq_true']
      exact hall c hc
  have htake : (heard address ++ ':' :: port).takeWhile (!endsAuthority .special ·) =
      (heard address).takeWhile (!endsAuthority .special ·) := by
    rw [List.takeWhile_append, if_neg]
    intro hlength
    refine hend (List.takeWhile_eq_self_iff.1 ?_)
    exact (List.takeWhile_prefix _).eq_of_length hlength
  have hdrop : (heard address ++ ':' :: port).dropWhile (!endsAuthority .special ·) =
      spilled address port := by
    rw [List.dropWhile_append, if_neg]
    · rfl
    · rw [List.isEmpty_iff, List.dropWhile_eq_nil_iff]
      exact hend
  have hsplit : splitHost false (splitUserinfo ((heard address ++ ':' :: port).takeWhile
      (!endsAuthority .special ·))).2 = (hostText address, []) := by
    have htext := Host.splitHost_text (not_mem_hostText hplain) []
    rw [htake]
    simpa [hostText, splitHost] using htext
  obtain ⟨hhost, hrest, n, -, hnone⟩ := parts_of_readAuthority h hsplit
  rw [hdrop] at hrest
  exact ⟨hhost, hrest, hnone⟩

end Discovery

/-! ## Where a server is -/

namespace Server

open Url

/-- The server is at the host and the port of the scheme and at the path, slashes at its end
aside. -/
def IsAt (s : Server) (scheme : String) (host : Host) (port : Nat) (path : List Char) : Prop :=
  ∃ u segments, IsSite u host segments ∧ s = ofUrl u ∧
    u.scheme = scheme.toList ∧ u.effectivePort = some port ∧ u.basePath = path

variable {s : Server} {scheme scheme' : String} {host host' : Host} {port port' : Nat}
  {path path' : List Char}

/-- A server is in one place. -/
theorem IsAt.unique (h : s.IsAt scheme host port path) (h' : s.IsAt scheme' host' port' path') :
    scheme = scheme' ∧ host = host' ∧ port = port' ∧ path = path' := by
  obtain ⟨u, segments, hu, rfl, hscheme, hport, rfl⟩ := h
  obtain ⟨v, more, hv, hsame, hscheme', hport', rfl⟩ := h'
  have hplace := (ofUrl_eq_iff hu hv).1 hsame
  have hhost := hplace.host
  rw [hu.host_eq, hv.host_eq, Option.some.injEq] at hhost
  rw [hplace.port, hport', Option.some.injEq] at hport
  rw [hplace.scheme, hscheme', String.toList_inj] at hscheme
  exact ⟨hscheme.symm, hhost, hport.symm, hplace.path⟩

end Server

namespace Discovery

open Text Url

variable {scheme : String} {s : Server}

theorem endpoint?_of_spelling {raw : String} (p : Spelling) (h : trim raw.toList = p.write) :
    endpoint? raw = some (p.address, p.port) := by
  rw [endpoint?, h, readParts?_eq_some_iff.2 ⟨p, rfl, rfl, rfl⟩]

/-- The authority that a server was made of. -/
theorem exists_authority (hscheme : Server.isHttp scheme.toList = true) (p : Spelling)
    (h : Server.parse (scheme ++ "://" ++ String.ofList (p.address ++ ':' :: p.port)) = .ok s) :
    ∃ a segments,
      readAuthority scheme.toList .special (heard p.address ++ ':' :: p.port) = .ok a ∧
      IsSite (ofAuthority scheme.toList .special a) a.host segments ∧
      s = Server.ofUrl (ofAuthority scheme.toList .special a) := by
  obtain ⟨u, host, segments, hurl, hsite, rfl⟩ := Server.exists_site h
  have htext : scheme ++ "://" = String.ofList (scheme.toList ++ "://".toList) := by
    rw [String.ofList_append, String.ofList_toList]
    rfl
  rw [htext, urlOf_reported hscheme p.port_ne_nil p.port_digits] at hurl
  cases hread : readAuthority scheme.toList .special (heard p.address ++ ':' :: p.port) with
  | error e =>
    rw [hread] at hurl
    cases hurl
  | ok a =>
    rw [hread] at hurl
    cases hurl
    obtain rfl : a.host = host := Option.some.inj hsite.host_eq
    exact ⟨a, segments, rfl, hsite, rfl⟩

/-- The path of what an address spills behind its authority. -/
def spilledPath (address port : List Char) : List Char :=
  Server.dropTrailingSlashes
    (writeSegments (readSegments .special ((spilled address port).takeWhile (!endsPath ·))))

/-- The server of an authority is at its host, and at its port or the scheme's own. -/
theorem isAt_ofAuthority {name rest : List Char} {a : Authority} {segments : List (List Char)}
    {n : Nat} (hsite : IsSite (ofAuthority name .special a) a.host segments)
    (hport : (a.port <|> defaultPort? name) = some n) (hrest : a.rest = rest) :
    (Server.ofUrl (ofAuthority name .special a)).IsAt (String.ofList name) a.host n
      (Server.dropTrailingSlashes
        (writeSegments (readSegments .special (rest.takeWhile (!endsPath ·))))) :=
  ⟨_, segments, hsite, rfl, String.toList_ofList.symm, hport, by rw [← hrest]; rfl⟩

/-- The server of an address that is whole is where the address says. -/
theorem isAt_whole (hscheme : Server.isHttp scheme.toList = true) (p : Spelling)
    (h : Server.parse (scheme ++ "://" ++ String.ofList (p.address ++ ':' :: p.port)) = .ok s)
    (hwhole : IsWhole p.address) :
    ∃ host n, Host.parse (hostText p.address) = .ok host ∧ digitsNumber? 10 p.port = some n ∧
      s.IsAt scheme host n [] := by
  obtain ⟨a, segments, hread, hsite, rfl⟩ := exists_authority hscheme p h
  obtain ⟨hhost, hrest, n, hnumber, hport⟩ :=
    authority_whole hwhole p.address_plain p.port_ne_nil p.port_digits hread
  have hthere : (a.port <|> defaultPort? scheme.toList) = some n := by
    rw [hport]
    split
    next hown => exact beq_iff_eq.1 hown
    · rfl
  have hat := isAt_ofAuthority hsite hthere hrest
  rw [String.ofList_toList] at hat
  exact ⟨a.host, n, hhost, hnumber, hat⟩

/-- The server of any other is at the scheme's own port, and the port that was reported is part
of the path, if it is part of anything. -/
theorem isAt_cut (hscheme : Server.isHttp scheme.toList = true) (p : Spelling)
    (h : Server.parse (scheme ++ "://" ++ String.ofList (p.address ++ ':' :: p.port)) = .ok s)
    (hcut : ¬ IsWhole p.address) :
    ∃ host n, Host.parse (hostText p.address) = .ok host ∧
      defaultPort? scheme.toList = some n ∧
      s.IsAt scheme host n (spilledPath p.address p.port) := by
  obtain ⟨a, segments, hread, hsite, rfl⟩ := exists_authority hscheme p h
  obtain ⟨hhost, hrest, hport⟩ := authority_cut hcut p.address_plain hread
  obtain ⟨n, hn⟩ := exists_defaultPort hscheme
  have hthere : (a.port <|> defaultPort? scheme.toList) = some n := by
    rw [hport, hn]
    rfl
  have hat := isAt_ofAuthority hsite hthere hrest
  rw [String.ofList_toList] at hat
  exact ⟨a.host, n, hhost, hn, hat⟩

/-- **Where a discovered server is.** A server that was found in a text, with `http://` or
`https://` in front of it, is at that scheme and at the host that its address names. If the
address is whole, it is at the number that its port writes, and at no path. If it is not, it is
at the scheme's own port and at the path that the rest of the address and the port make. No
server is in two places (`Server.IsAt.unique`). -/
theorem parseAddress?_place {raw : String} (hscheme : scheme ∈ ["http", "https"])
    (h : parseAddress? raw (scheme ++ "://") = some s) :
    ∃ p : Spelling, trim raw.toList = p.write ∧
      ∃ host n path, Host.parse (hostText p.address) = .ok host ∧ s.IsAt scheme host n path ∧
        if IsWhole p.address then digitsNumber? 10 p.port = some n ∧ path = []
        else defaultPort? scheme.toList = some n ∧ path = spilledPath p.address p.port := by
  have hhttp : Server.isHttp scheme.toList = true := by
    simp only [List.mem_cons, List.not_mem_nil, or_false] at hscheme
    rcases hscheme with rfl | rfl <;> rfl
  obtain ⟨p, htext, hparse⟩ := parseAddress?_eq_some_iff.1 h
  refine ⟨p, htext, ?_⟩
  by_cases hwhole : IsWhole p.address
  · obtain ⟨host, n, hhost, hn, hat⟩ := isAt_whole hhttp p hparse hwhole
    exact ⟨host, n, [], hhost, hat, by rw [if_pos hwhole]; exact ⟨hn, rfl⟩⟩
  · obtain ⟨host, n, hhost, hn, hat⟩ := isAt_cut hhttp p hparse hwhole
    exact ⟨host, n, _, hhost, hat, by rw [if_neg hwhole]; exact ⟨hn, rfl⟩⟩

/-- A port that is the scheme's own and is left out of the server. -/
theorem parseAddress?_place_elided :
    parseAddress? "es1/10.0.0.1:443" "https://" = some ⟨"https://10.0.0.1"⟩ ∧
      ∃ host, Host.parse "10.0.0.1".toList = .ok host ∧
        (⟨"https://10.0.0.1"⟩ : Server).IsAt "https" host 443 [] := by
  have hfound : parseAddress? "es1/10.0.0.1:443" "https://" = some ⟨"https://10.0.0.1"⟩ := by
    decide +kernel
  have hread : endpoint? "es1/10.0.0.1:443" = some ("10.0.0.1".toList, "443".toList) := by
    decide +kernel
  have hwhole : IsWhole "10.0.0.1".toList ∧ hostText "10.0.0.1".toList = "10.0.0.1".toList ∧
      digitsNumber? 10 "443".toList = some 443 := by
    decide +kernel
  obtain ⟨p, htext, host, n, path, hhost, hat, hplace⟩ :=
    parseAddress?_place (by decide : "https" ∈ ["http", "https"]) hfound
  have hparts := (endpoint?_of_spelling p htext).symm.trans hread
  rw [Option.some.injEq, Prod.mk.injEq] at hparts
  rw [hparts.1, hwhole.2.1] at hhost
  rw [hparts.1, hparts.2, if_pos hwhole.1, hwhole.2.2, Option.some.injEq] at hplace
  obtain ⟨rfl, rfl⟩ := hplace
  exact ⟨hfound, host, hhost, hat⟩

/-- Not every server that was found is at the port that was reported, and at no path: a
backslash ends the host of one that is not. -/
theorem exists_misplaced : ¬ ∀ (raw scheme : String) (s : Server), scheme ∈ ["http", "https"] →
    parseAddress? raw (scheme ++ "://") = some s →
      ∃ p : Spelling, trim raw.toList = p.write ∧
        ∃ host n, digitsNumber? 10 p.port = some n ∧ s.IsAt scheme host n [] := by
  intro hall
  have hread : endpoint? "es1\\10.0.0.1:9200" =
      some ("es1\\10.0.0.1".toList, "9200".toList) := by
    decide +kernel
  have hfound : parseAddress? "es1\\10.0.0.1:9200" ("http" ++ "://") =
      some ⟨"http://es1/10.0.0.1:9200"⟩ := by
    decide +kernel
  have hcut : ¬ IsWhole "es1\\10.0.0.1".toList ∧
      spilledPath "es1\\10.0.0.1".toList "9200".toList ≠ [] := by
    decide +kernel
  obtain ⟨p, htext, hparse⟩ := parseAddress?_eq_some_iff.1 hfound
  have hparts := (endpoint?_of_spelling p htext).symm.trans hread
  rw [Option.some.injEq, Prod.mk.injEq] at hparts
  obtain ⟨host, n, -, -, hat⟩ := isAt_cut rfl p hparse (by rw [hparts.1]; exact hcut.1)
  rw [hparts.1, hparts.2] at hat
  obtain ⟨-, -, other, m, -, hat'⟩ := hall _ _ _ (by decide) hfound
  exact hcut.2 (hat.unique hat').2.2.2

end Discovery

end Failover
