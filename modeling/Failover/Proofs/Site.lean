import Failover.Proofs.Authority
import Failover.Proofs.Paths

/-!
# Base addresses and the places they name

What a URL of `http` or `https` has in it once it was read is collected in `IsSite`: a finished
host, a port that is kept, finished segments. The base address that is made of it has visible
characters only, so nothing is trimmed, skipped or added when it is read in its turn, and each
part ends where the next one begins. From this come both results of the module.
`Server.parse_ofUrl`: the base address is read as itself, or is refused for an overlong label.
`Server.ofUrl_eq_iff`: two base addresses are the same text when the two URLs agree on scheme,
host, effective port and path, slashes at its end aside.
-/

namespace Failover.Url

open Text Domain

/-! ## What is read -/

/-- A URL over HTTP as it is read, with its host and its segments. -/
structure IsSite (u : Url) (host : Host) (segments : List (List Char)) : Prop where
  http : Server.isHttp u.scheme = true
  host_eq : u.host = some host
  finished : host.Finished
  port : KeepsPort u.scheme u.port
  path_eq : u.path = .segments segments
  special : ∀ s ∈ segments, SpecialSegment s

theorem isHttp_iff {scheme : List Char} : Server.isHttp scheme = true ↔
    scheme = ['h', 't', 't', 'p'] ∨ scheme = ['h', 't', 't', 'p', 's'] := by
  simp only [Server.isHttp, Bool.or_eq_true, beq_iff_eq]
  exact Iff.rfl

theorem kind_of_isHttp {scheme : List Char} (h : Server.isHttp scheme = true) :
    SchemeKind.of scheme = .special := by
  rcases isHttp_iff.1 h with rfl | rfl <;> rfl

theorem exists_defaultPort {scheme : List Char} (h : Server.isHttp scheme = true) :
    ∃ n, defaultPort? scheme = some n := by
  rcases isHttp_iff.1 h with rfl | rfl <;> exact ⟨_, rfl⟩

theorem scheme_of_readFile {cs : List Char} {u : Url} (h : readFile cs = .ok u) :
    u.scheme = ['f', 'i', 'l', 'e'] := by
  unfold readFile at h
  simp only [bind, Except.bind, pure, Except.pure] at h
  split at h
  · split at h
    · split at h
      · cases h
        rfl
      · split at h
        · cases h
        · cases h
          rfl
    · cases h
      rfl
  · cases h
    rfl

/-- A URL over HTTP is read by the rules for special schemes, and was made of an authority. -/
theorem exists_authority_of_parse {text : List Char} {u : Url} (h : parse text = .ok u)
    (hhttp : Server.isHttp u.scheme = true) :
    ∃ scheme rest a, splitScheme? (clean text) = some (scheme, rest) ∧
      readAuthority scheme .special (rest.dropWhile (isSlash .special)) = .ok a ∧
      u = ofAuthority scheme .special a := by
  unfold parse at h
  split at h
  · cases h
  next scheme rest hsplit =>
    split at h
    next hkind =>
      rw [scheme_of_readFile h] at hhttp
      exact absurd hhttp (by decide)
    next hkind =>
      cases hread : readAuthority scheme .special (rest.dropWhile (isSlash .special)) with
      | error e => rw [hread] at h; cases h
      | ok a =>
        rw [hread] at h
        cases h
        exact ⟨scheme, rest, a, hsplit, hread, rfl⟩
    next hkind =>
      have hscheme : u.scheme = scheme := by
        split at h
        · cases hread : readAuthority scheme .other _ with
          | error e => rw [hread] at h; cases h
          | ok a => rw [hread] at h; cases h; rfl
        · cases h
          rfl
      rw [hscheme] at hhttp
      rw [kind_of_isHttp hhttp] at hkind
      cases hkind

theorem isSite_of_parse {text : List Char} {u : Url} (h : parse text = .ok u)
    (hhttp : Server.isHttp u.scheme = true) : ∃ host segments, IsSite u host segments := by
  obtain ⟨scheme, rest, a, -, hread, rfl⟩ := exists_authority_of_parse h hhttp
  obtain ⟨hfinished, hport⟩ := finished_of_readAuthority hread
  exact ⟨a.host, _, hhttp, rfl, hfinished, hport, rfl, specialSegment_readSegments⟩

/-! ## The text of a base address -/

/-- A character that is neither a control nor a space. -/
def isVisible (c : Char) : Bool := 0x20 < c.toNat && c.toNat < 0x7F

theorem isVisible_iff {c : Char} : isVisible c = true ↔ 0x20 < c.toNat ∧ c.toNat < 0x7F := by
  rw [isVisible, Bool.and_eq_true, decide_eq_true_eq, decide_eq_true_eq]

theorem not_blank_of_isVisible {c : Char} (h : isVisible c = true) : isBlank c = false := by
  have hbounds := isVisible_iff.1 h
  simp only [isBlank, Bool.or_eq_false_iff, Bool.and_eq_false_iff, decide_eq_false_iff_not,
    beq_eq_false_iff_ne]
  omega

theorem isVisible_of_labelChar {c : Char} (h : isLabelChar c = true) : isVisible c = true := by
  obtain ⟨hlt, hforbidden, -⟩ := isLabelChar_iff.1 h
  simp only [isForbidden, Bool.or_eq_false_iff, decide_eq_false_iff_not,
    beq_eq_false_iff_ne] at hforbidden
  rw [isVisible_iff]
  omega

theorem isVisible_of_hostChar {c : Char} (h : Host.isHostChar c = true) : isVisible c = true := by
  rw [Host.isHostChar, Bool.or_eq_true, List.contains_iff_mem] at h
  rcases h with hlabel | hmark
  · exact isVisible_of_labelChar hlabel
  · exact List.all_eq_true.1 (by decide : ['.', ':', '[', ']'].all isVisible = true) c hmark

theorem isVisible_of_pathSet {c : Char} (h : pathSet c = false) : isVisible c = true := by
  simp only [pathSet, querySet, controlSet, Bool.or_eq_false_iff, decide_eq_false_iff_not] at h
  have hspace : c.toNat ≠ 0x20 := fun heq => by
    have hc : c = ' ' := Char.toNat_inj.1 heq
    rw [hc] at h
    exact absurd h.1.2 (by decide)
  rw [isVisible_iff]
  omega

/-- Nothing is taken from a text of visible characters. -/
theorem trim_of_isVisible {cs : List Char} (h : ∀ c ∈ cs, isVisible c = true) : trim cs = cs :=
  trim_eq_self (fun c hc => not_blank_of_isVisible (h c (List.mem_of_mem_head? hc)))
    fun c hc => not_blank_of_isVisible (h c (List.mem_of_mem_getLast? hc))

theorem not_isEdge {c : Char} (h : 0x20 < c.toNat) : isEdge c = false :=
  decide_eq_false (by omega)

theorem not_isSkipped {c : Char} (h : 0x20 < c.toNat) : isSkipped c = false := by
  simp only [isSkipped, Bool.or_eq_false_iff, beq_eq_false_iff_ne]
  refine ⟨⟨?_, ?_⟩, ?_⟩ <;> rintro rfl <;> exact absurd h (by decide)

/-- Nothing is dropped in front of a visible character. -/
theorem dropWhile_isEdge {cs : List Char} (h : ∀ c ∈ cs.head?, 0x20 < c.toNat) :
    cs.dropWhile isEdge = cs := by
  cases cs with
  | nil => rfl
  | cons c r =>
    rw [List.dropWhile_cons_of_neg]
    rw [not_isEdge (h c rfl)]
    exact Bool.false_ne_true

theorem clean_of_not_edge {cs : List Char} (h : ∀ c ∈ cs, 0x20 < c.toNat) : clean cs = cs := by
  have hback : cs.reverse.dropWhile isEdge = cs.reverse :=
    dropWhile_isEdge fun c hc => h c (List.mem_reverse.1 (List.mem_of_mem_head? hc))
  unfold clean
  dsimp only
  rw [dropWhile_isEdge fun c hc => h c (List.mem_of_mem_head? hc), hback, List.reverse_reverse,
    List.filter_eq_self.2 fun c hc => by rw [not_isSkipped (h c hc)]; rfl]

/-- The port that is connected to: the one given, or the scheme's own. -/
def effectivePort (u : Url) : Option Nat := u.port <|> defaultPort? u.scheme

/-- The path without slashes at its end. -/
def basePath (u : Url) : List Char := Server.dropTrailingSlashes u.path.write

/-- Two URLs name the same place: user information, query and fragment do not count, nor do
slashes at the end of the path. -/
structure SamePlace (u v : Url) : Prop where
  scheme : u.scheme = v.scheme
  host : u.host = v.host
  port : u.effectivePort = v.effectivePort
  path : u.basePath = v.basePath

namespace IsSite

variable {u v : Url} {host other : Host} {segments more : List (List Char)}

theorem base_eq (h : u.IsSite host segments) :
    (Server.ofUrl u).base.toList =
      u.scheme ++ ':' :: '/' :: '/' :: (host.write ++ writePort u.port ++ u.basePath) := by
  unfold Server.ofUrl writeAuthority
  dsimp only
  rw [h.host_eq, String.toList_ofList, basePath]
  cases u.port <;> simp [writeUserinfo, writePort]

theorem basePath_eq (h : u.IsSite host segments) :
    u.basePath = Server.dropTrailingSlashes (writeSegments segments) := by
  rw [basePath, h.path_eq]
  rfl

theorem basePath_shape (h : u.IsSite host segments) :
    (u.basePath = [] ∨ ∃ r, u.basePath = '/' :: r) ∧ ∀ c ∈ u.basePath, pathSet c = false := by
  rw [h.basePath_eq]
  exact Url.basePath_shape h.special

theorem isVisible_base (h : u.IsSite host segments) :
    ∀ c ∈ (Server.ofUrl u).base.toList, isVisible c = true := by
  have hscheme : ∀ c ∈ u.scheme, isVisible c = true := by
    rw [← List.all_eq_true]
    rcases isHttp_iff.1 h.http with heq | heq <;> rw [heq] <;> decide
  rw [h.base_eq]
  intro c hc
  simp only [List.mem_append, List.mem_cons] at hc
  rcases hc with hc | rfl | rfl | rfl | (hc | hc) | hc
  · exact hscheme c hc
  · decide
  · decide
  · decide
  · exact isVisible_of_hostChar (Host.isHostChar_of_mem_write h.finished hc)
  · exact isVisible_of_hostChar (isHostChar_of_mem_writePort hc)
  · exact isVisible_of_pathSet (h.basePath_shape.2 c hc)

/-! ## Reading a base address -/

/-- What is read from a text that comes to scheme, host and port, and then ends or goes on with a
slash. -/
theorem parse_place (h : u.IsSite host segments) {text rest : List Char}
    (hclean : clean text =
      u.scheme ++ ':' :: '/' :: '/' :: (host.write ++ writePort u.port ++ rest))
    (hrest : rest = [] ∨ ∃ r, rest = '/' :: r) :
    parse text =
      if host.isOverlong then .error .domainName
      else .ok (ofAuthority u.scheme .special ⟨[], none, host, u.port, rest⟩) := by
  have hsplit : splitScheme? (u.scheme ++ ':' :: '/' :: '/' ::
      (host.write ++ writePort u.port ++ rest)) =
      some (u.scheme, '/' :: '/' :: (host.write ++ writePort u.port ++ rest)) := by
    rcases isHttp_iff.1 h.http with heq | heq <;> rw [heq] <;> rfl
  have hslashes : ('/' :: '/' :: (host.write ++ writePort u.port ++ rest)).dropWhile
      (isSlash .special) = host.write ++ writePort u.port ++ rest := by
    obtain ⟨c, r, hwrite⟩ := List.exists_cons_of_ne_nil (Host.write_ne_nil h.finished)
    have hc := (not_endsAuthority_of_mem_write h.finished (hwrite ▸ List.mem_cons_self)).1
    simp only [endsAuthority, Bool.or_eq_false_iff] at hc
    have hslash : ¬ isSlash .special c = true := by simp [isSlash, hc.1.1.1, hc.2]
    show (host.write ++ writePort u.port ++ rest).dropWhile (isSlash .special) = _
    rw [hwrite, List.cons_append, List.cons_append, List.dropWhile_cons_of_neg hslash]
  rw [parse, hclean, hsplit]
  dsimp only
  rw [kind_of_isHttp h.http]
  dsimp only
  rw [hslashes, readAuthority_write h.finished h.port hrest]
  cases host.isOverlong <;> rfl

/-- What is read from a base address. -/
theorem parse_base (h : u.IsSite host segments) :
    parse (Server.ofUrl u).base.toList =
      if host.isOverlong then .error .domainName
      else .ok (ofAuthority u.scheme .special ⟨[], none, host, u.port, u.basePath⟩) := by
  refine h.parse_place ?_ h.basePath_shape.1
  rw [clean_of_not_edge fun c hc => (isVisible_iff.1 (h.isVisible_base c hc)).1, h.base_eq]

theorem takeWhile_basePath (h : u.IsSite host segments) :
    u.basePath.takeWhile (!endsPath ·) = u.basePath := by
  rw [List.takeWhile_eq_self_iff]
  intro c hc
  have hset := h.basePath_shape.2 c hc
  rw [Bool.not_eq_true', endsPath, Bool.or_eq_false_iff, beq_eq_false_iff_ne, beq_eq_false_iff_ne]
  constructor <;> rintro rfl <;> exact absurd hset (by decide)

/-- What is read from a base address is a URL over HTTP too, with the same base path. -/
theorem again (h : u.IsSite host segments) :
    (ofAuthority u.scheme .special ⟨[], none, host, u.port, u.basePath⟩).IsSite host
        (readSegments .special u.basePath) ∧
      (ofAuthority u.scheme .special ⟨[], none, host, u.port, u.basePath⟩).basePath =
        u.basePath := by
  have hpath : (ofAuthority u.scheme .special ⟨[], none, host, u.port, u.basePath⟩).path =
      .segments (readSegments .special u.basePath) := by
    show Path.segments (readSegments .special (u.basePath.takeWhile (!endsPath ·))) = _
    rw [h.takeWhile_basePath]
  refine ⟨⟨h.http, rfl, h.finished, h.port, hpath, specialSegment_readSegments⟩, ?_⟩
  rw [basePath, hpath, h.basePath_eq]
  exact basePath_again h.special

/-! ## What a base address tells -/

theorem writePort_inj {p q : Option Nat} (h : writePort p = writePort q) : p = q := by
  cases p with
  | none =>
    cases q with
    | none => rfl
    | some n => cases h
  | some m =>
    cases q with
    | none => cases h
    | some n =>
      have hdigits := congrArg (digitsNumber? 10) (List.cons.inj h).2
      rw [digitsNumber?_toDigits (by decide) (by decide),
        digitsNumber?_toDigits (by decide) (by decide)] at hdigits
      exact hdigits

/-- A port that is kept is known from the one that is connected to. -/
theorem port_eq (hu : u.IsSite host segments) (hv : v.IsSite other more)
    (hscheme : u.scheme = v.scheme) (h : u.effectivePort = v.effectivePort) :
    u.port = v.port := by
  unfold effectivePort at h
  rw [← hscheme] at h
  cases hp : u.port with
  | none =>
    cases hq : v.port with
    | none => rfl
    | some n =>
      rw [hp, hq] at h
      exact absurd h (hscheme ▸ (hv.port n hq).2)
  | some m =>
    cases hq : v.port with
    | none =>
      rw [hp, hq] at h
      exact absurd h.symm (hu.port m hp).2
    | some n =>
      rw [hp, hq] at h
      exact h

/-- The scheme is told by the character behind the fourth. -/
theorem scheme_inj (hu : u.IsSite host segments) (hv : v.IsSite other more) {p q : List Char}
    (h : u.scheme ++ ':' :: p = v.scheme ++ ':' :: q) : u.scheme = v.scheme ∧ p = q := by
  rcases isHttp_iff.1 hu.http with hx | hx
  · rcases isHttp_iff.1 hv.http with hy | hy <;> rw [hx, hy] at h ⊢
    · exact ⟨rfl, by simpa using h⟩
    · simp at h
  · rcases isHttp_iff.1 hv.http with hy | hy <;> rw [hx, hy] at h ⊢
    · simp at h
    · exact ⟨rfl, by simpa using h⟩

theorem samePlace_of_base (hu : u.IsSite host segments) (hv : v.IsSite other more)
    (h : (Server.ofUrl u).base.toList = (Server.ofUrl v).base.toList) : u.SamePlace v := by
  rw [hu.base_eq, hv.base_eq] at h
  obtain ⟨hscheme, hrest⟩ := scheme_inj hu hv h
  have htext := (List.cons.inj (List.cons.inj hrest).2).2
  -- Both texts are cut where an authority ends, and then at the colon of the port.
  have hcutU := cut_place u.port
    (fun _ hc => (not_endsAuthority_of_mem_write hu.finished hc).1) hu.basePath_shape.1
  have hcutV := cut_place v.port
    (fun _ hc => (not_endsAuthority_of_mem_write hv.finished hc).1) hv.basePath_shape.1
  rw [htext] at hcutU
  have hplace := hcutU.1.symm.trans hcutV.1
  have hsplit := congrArg (splitHost false) hplace
  rw [Host.splitHost_write hu.finished (writePort_shape _),
    Host.splitHost_write hv.finished (writePort_shape _), Prod.mk.injEq] at hsplit
  have hhost : host = other := Host.write_inj hu.finished hv.finished hsplit.1
  exact {
    scheme := hscheme
    host := by rw [hu.host_eq, hv.host_eq, hhost]
    port := by rw [effectivePort, effectivePort, writePort_inj hsplit.2, hscheme]
    path := hcutU.2.symm.trans hcutV.2 }

end IsSite

end Failover.Url

namespace Failover.Server

open Text Url

variable {u v : Url} {host other : Host} {segments more : List (List Char)}

theorem ext_toList {s t : Server} (h : s.base.toList = t.base.toList) : s = t := by
  cases s
  cases t
  exact congrArg Server.mk (String.toList_inj.1 h)

/-- The base address of what is read from a base address. -/
theorem ofUrl_again (h : u.IsSite host segments) :
    ofUrl (ofAuthority u.scheme .special ⟨[], none, host, u.port, u.basePath⟩) = ofUrl u := by
  obtain ⟨hagain, hpath⟩ := h.again
  apply ext_toList
  rw [hagain.base_eq, hpath, h.base_eq]
  rfl

theorem addressUrl_base (h : u.IsSite host segments) :
    addressUrl (trim (ofUrl u).base.toList) = (ofUrl u).base.toList ∧
      (trim (ofUrl u).base.toList).isEmpty = false := by
  rw [trim_of_isVisible h.isVisible_base, h.base_eq]
  rcases isHttp_iff.1 h.http with heq | heq <;> rw [heq] <;> exact ⟨rfl, rfl⟩

/-- **A base address is read as itself**, unless a label of its host is overlong. -/
theorem parse_ofUrl (h : u.IsSite host segments) :
    parse (ofUrl u).base =
      if host.isOverlong then .error (.malformed (ofUrl u).base .domainName)
      else .ok (ofUrl u) := by
  obtain ⟨haddress, hsome⟩ := addressUrl_base h
  unfold parse
  dsimp only
  rw [haddress, hsome, if_neg Bool.false_ne_true, h.parse_base]
  cases host.isOverlong with
  | true => rfl
  | false =>
    have hhttp : isHttp (ofAuthority u.scheme .special
        ⟨[], none, host, u.port, u.basePath⟩).scheme = true := h.http
    show (if isHttp _ then Except.ok (ofUrl _) else _) = _
    rw [if_pos hhttp, ofUrl_again h]
    rfl

/-- **Base addresses are equal when the URLs name the same place**, and only then. -/
theorem ofUrl_eq_iff (hu : u.IsSite host segments) (hv : v.IsSite other more) :
    ofUrl u = ofUrl v ↔ u.SamePlace v := by
  refine ⟨fun h => hu.samePlace_of_base hv (congrArg (·.base.toList) h), fun h => ?_⟩
  have hhost : host = other := Option.some.inj (hu.host_eq ▸ hv.host_eq ▸ h.host)
  apply ext_toList
  rw [hu.base_eq, hv.base_eq, h.scheme, hhost, hu.port_eq hv h.scheme h.port, h.path]

end Failover.Server
