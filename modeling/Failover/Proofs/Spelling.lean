import Mathlib.Data.List.TakeWhile
import Failover.Discovery.Address

/-!
# The spellings of a reported address

A reported address is written out of parts, most of which may be missing: an opening `inet[`, a
host name in front of a slash, the address and the port that count, and a closing bracket
(`Spelling`). Reading finds an address exactly in the texts that are written so
(`readParts?_eq_some_iff`), and as a part holds none of the characters that separate parts, there
is only one way in which a text can be written. It follows that neither the host name nor the
brackets have any say in which server is found (`parseAddress?_spelled`).
-/

namespace Failover.Discovery

open Text

/-- No character of the text separates parts. -/
def IsPlain (cs : List Char) : Prop := ∀ c ∈ cs, isMark c = false

/-- A reported address in its parts. -/
structure Spelling where
  isOpened : Bool
  hostName : Option (List Char)
  address : List Char
  port : List Char
  isClosed : Bool
  hostName_plain : ∀ name ∈ hostName, IsPlain name
  address_ne_nil : address ≠ []
  address_plain : IsPlain address
  port_ne_nil : port ≠ []
  port_digits : ∀ c ∈ port, isDigit c = true

def opening (isOpened : Bool) : List Char := if isOpened then "inet[".toList else []

def closing (isClosed : Bool) : List Char := if isClosed then [']'] else []

/-- A host name and the slash behind it. -/
def writeHostName : Option (List Char) → List Char
  | some name => name ++ ['/']
  | none => []

/-- The parts one after the other. -/
def Spelling.write (p : Spelling) : List Char :=
  opening p.isOpened ++
    (writeHostName p.hostName ++ (p.address ++ ':' :: (p.port ++ closing p.isClosed)))

/-! ## Where a part ends -/

/-- A part ends at the first character that separates parts. -/
theorem span_plain {part : List Char} (h : IsPlain part) {mark : Char} (hmark : isMark mark = true)
    (rest : List Char) :
    (part ++ mark :: rest).takeWhile (!isMark ·) = part ∧
      (part ++ mark :: rest).dropWhile (!isMark ·) = mark :: rest := by
  have hall : ∀ c ∈ part, (!isMark c) = true := fun c hc => by rw [h c hc]; rfl
  rw [List.takeWhile_append_of_pos hall, List.dropWhile_append_of_pos hall]
  simp [hmark]

/-- What was passed over is plain. -/
theorem isPlain_takeWhile (cs : List Char) : IsPlain (cs.takeWhile (!isMark ·)) := by
  intro c hc
  have hplain := List.mem_takeWhile_imp hc
  rwa [Bool.not_eq_true'] at hplain

/-- The digits of a port end at the bracket, or at the end of the text. -/
theorem span_digits {port : List Char} (h : ∀ c ∈ port, isDigit c = true) (isClosed : Bool) :
    (port ++ closing isClosed).takeWhile isDigit = port ∧
      (port ++ closing isClosed).dropWhile isDigit = closing isClosed := by
  have hbracket : isDigit ']' = false := by decide
  rw [List.takeWhile_append_of_pos h, List.dropWhile_append_of_pos h]
  cases isClosed <;> simp [closing, hbracket]

/-! ## Reading part after part -/

/-- An address and a port are read where they stand, with a bracket behind them or without. -/
theorem readEndpoint?_eq_some_iff {cs address port : List Char} :
    readEndpoint? cs = some (address, port) ↔
      (address ≠ [] ∧ IsPlain address) ∧ (port ≠ [] ∧ ∀ c ∈ port, isDigit c = true) ∧
        ∃ isClosed, cs = address ++ ':' :: (port ++ closing isClosed) := by
  constructor
  · intro h
    have hcs := List.takeWhile_append_dropWhile (p := (!isMark ·)) (l := cs)
    unfold readEndpoint? at h
    split at h
    · cases h
    next r hdrop hne =>
      have hr := List.takeWhile_append_dropWhile (p := isDigit) (l := r)
      rw [hdrop] at hcs
      split at h
      · cases h
      next hend hsome =>
        cases h
        rw [hend] at hr
        exact ⟨⟨hne, isPlain_takeWhile cs⟩, ⟨hsome, fun c => List.mem_takeWhile_imp⟩, false,
          by rw [closing, if_neg Bool.false_ne_true, hr, hcs]⟩
      next hend hsome =>
        cases h
        rw [hend] at hr
        exact ⟨⟨hne, isPlain_takeWhile cs⟩, ⟨hsome, fun c => List.mem_takeWhile_imp⟩, true,
          by rw [closing, if_pos rfl, hr, hcs]⟩
      · cases h
    · cases h
  · rintro ⟨⟨hne, hplain⟩, ⟨hsome, hdigits⟩, isClosed, rfl⟩
    obtain ⟨htake, hdrop⟩ := span_plain hplain (by decide : isMark ':' = true)
      (port ++ closing isClosed)
    obtain ⟨htake', hdrop'⟩ := span_digits hdigits isClosed
    obtain ⟨c, r, rfl⟩ := List.exists_cons_of_ne_nil hne
    obtain ⟨d, ds, rfl⟩ := List.exists_cons_of_ne_nil hsome
    unfold readEndpoint?
    simp only [htake, hdrop, htake', hdrop']
    cases isClosed <;> rfl

theorem writeHostName_some (name rest : List Char) :
    writeHostName (some name) ++ rest = name ++ '/' :: rest :=
  List.append_assoc name ['/'] rest

/-- A host name in front of a slash is passed over. -/
theorem dropHostName_some {name : List Char} (h : IsPlain name) (rest : List Char) :
    dropHostName (name ++ '/' :: rest) = rest := by
  rw [dropHostName, (span_plain h (by decide : isMark '/' = true) rest).2]
  rfl

/-- An address in front of a colon is not. -/
theorem dropHostName_none {address : List Char} (h : IsPlain address) (rest : List Char) :
    dropHostName (address ++ ':' :: rest) = address ++ ':' :: rest := by
  rw [dropHostName, (span_plain h (by decide : isMark ':' = true) rest).2]
  rfl

theorem exists_hostName (cs : List Char) :
    ∃ hostName, (∀ name ∈ hostName, IsPlain name) ∧
      cs = writeHostName hostName ++ dropHostName cs := by
  unfold dropHostName
  split
  next r hdrop =>
    refine ⟨some (cs.takeWhile (!isMark ·)), ?_, ?_⟩
    · rintro _ ⟨rfl⟩
      exact isPlain_takeWhile cs
    · rw [writeHostName_some, ← hdrop, List.takeWhile_append_dropWhile]
  · exact ⟨none, (fun name h => by cases h), rfl⟩

/-- The opening is found where another mark comes first. -/
theorem dropOpening_opening {part : List Char} (h : IsPlain part) {mark : Char}
    (hmark : isMark mark = true) (hbracket : mark ≠ '[') (isOpened : Bool) (rest : List Char) :
    dropOpening (opening isOpened ++ (part ++ mark :: rest)) = part ++ mark :: rest := by
  cases isOpened with
  | true => rfl
  | false =>
    show dropOpening (part ++ mark :: rest) = _
    unfold dropOpening
    split
    next hprefix =>
      -- The first mark of the text would be the bracket.
      obtain ⟨r, hr⟩ := List.isPrefixOf_iff_prefix.1 hprefix
      have hfirst := (span_plain h hmark rest).2
      rw [← hr] at hfirst
      exact absurd (List.cons.inj hfirst).1.symm hbracket
    · rfl

theorem exists_opening (cs : List Char) : ∃ isOpened, cs = opening isOpened ++ dropOpening cs := by
  unfold dropOpening
  split
  next hprefix =>
    obtain ⟨r, rfl⟩ := List.isPrefixOf_iff_prefix.1 hprefix
    exact ⟨true, rfl⟩
  · exact ⟨false, rfl⟩

/-- **What is read is what is written.** -/
theorem readParts?_eq_some_iff {cs address port : List Char} :
    readEndpoint? (dropHostName (dropOpening cs)) = some (address, port) ↔
      ∃ p : Spelling, cs = p.write ∧ p.address = address ∧ p.port = port := by
  constructor
  · intro h
    obtain ⟨⟨hne, hplain⟩, ⟨hsome, hdigits⟩, isClosed, hend⟩ := readEndpoint?_eq_some_iff.1 h
    obtain ⟨isOpened, hopening⟩ := exists_opening cs
    obtain ⟨hostName, hname, hhost⟩ := exists_hostName (dropOpening cs)
    refine ⟨⟨isOpened, hostName, address, port, isClosed, hname, hne, hplain, hsome, hdigits⟩,
      ?_, rfl, rfl⟩
    rw [Spelling.write, ← hend, ← hhost, ← hopening]
  · rintro ⟨p, rfl, rfl, rfl⟩
    rw [readEndpoint?_eq_some_iff]
    refine ⟨⟨p.address_ne_nil, p.address_plain⟩, ⟨p.port_ne_nil, p.port_digits⟩, p.isClosed, ?_⟩
    unfold Spelling.write
    cases hname : p.hostName with
    | none =>
      rw [writeHostName, List.nil_append,
        dropOpening_opening p.address_plain (by decide) (by decide),
        dropHostName_none p.address_plain]
    | some name =>
      have hplain := p.hostName_plain name hname
      rw [writeHostName_some, dropOpening_opening hplain (by decide) (by decide),
        dropHostName_some hplain]

/-- A text is written in one way only, as far as address and port go. -/
theorem Spelling.endpoint_inj {p q : Spelling} (h : p.write = q.write) :
    p.address = q.address ∧ p.port = q.port := by
  have hp := readParts?_eq_some_iff.2 ⟨p, rfl, rfl, rfl⟩
  rw [h, readParts?_eq_some_iff.2 ⟨q, rfl, rfl, rfl⟩, Option.some.injEq, Prod.mk.injEq] at hp
  exact ⟨hp.1.symm, hp.2.symm⟩

/-- The server of a spelling is that of its address and port. -/
theorem parseAddress?_of_spelling {raw : String} (p : Spelling) (h : trim raw.toList = p.write)
    (scheme : String) :
    parseAddress? raw scheme =
      (Server.parse (scheme ++ String.ofList (p.address ++ ':' :: p.port))).toOption := by
  unfold parseAddress? endpoint?
  rw [h, readParts?_eq_some_iff.2 ⟨p, rfl, rfl, rfl⟩]
  rfl

theorem toOption_eq_some {result : Except Server.ParseError Server} {s : Server} :
    result.toOption = some s ↔ result = .ok s := by
  cases result <;> simp [Except.toOption]

theorem parseAddress?_eq_some_iff {raw scheme : String} {s : Server} :
    parseAddress? raw scheme = some s ↔
      ∃ p : Spelling, trim raw.toList = p.write ∧
        Server.parse (scheme ++ String.ofList (p.address ++ ':' :: p.port)) = .ok s := by
  constructor
  · intro h
    obtain ⟨⟨address, port⟩, hread, hserver⟩ := Option.bind_eq_some_iff.1 h
    obtain ⟨p, htext, rfl, rfl⟩ := readParts?_eq_some_iff.1 hread
    exact ⟨p, htext, toOption_eq_some.1 hserver⟩
  · rintro ⟨p, htext, hserver⟩
    rw [parseAddress?_of_spelling p htext, toOption_eq_some, hserver]

/-! ## What trimming leaves -/

/-- A text that is trimmed does not begin with a blank. -/
theorem not_blank_of_trim {cs : List Char} (h : trim cs = cs) :
    ∀ c ∈ cs.head?, isBlank c = false := by
  intro c hc
  cases cs with
  | nil => cases hc
  | cons d r =>
    obtain rfl : d = c := Option.some.inj hc
    rw [Bool.eq_false_iff]
    intro hblank
    have hshorter : (trim (d :: r)).length ≤ r.length := by
      unfold trim trimEnd trimStart
      rw [List.length_reverse, List.dropWhile_cons_of_pos hblank]
      refine (List.length_dropWhile_le ..).trans ?_
      rw [List.length_reverse]
      exact List.length_dropWhile_le ..
    rw [h, List.length_cons] at hshorter
    omega

/-- Nothing is trimmed behind a port. -/
theorem trimEnd_port {port : List Char} (hne : port ≠ []) (h : ∀ c ∈ port, isDigit c = true)
    (front : List Char) : trimEnd (front ++ ':' :: port) = front ++ ':' :: port := by
  refine trimEnd_eq_self fun c hc => ?_
  obtain ⟨most, last, rfl⟩ := (List.eq_nil_or_concat port).resolve_left hne
  rw [List.concat_eq_append, ← List.cons_append, ← List.append_assoc, List.getLast?_concat] at hc
  obtain rfl : last = c := Option.some.inj hc
  exact not_blank_of_isDigit (h last (by simp))

/-- Nothing is trimmed of a text in brackets. -/
theorem trim_bracketed (cs : List Char) :
    trim ("inet[".toList ++ cs ++ [']']) = "inet[".toList ++ cs ++ [']'] := by
  refine trim_eq_self (fun c hc => ?_) fun c hc => ?_
  · cases hc
    decide
  · rw [List.getLast?_concat] at hc
    cases hc
    decide

variable {name address port : List Char}

/-- Of a host name the blanks in front are trimmed, and nothing else is. -/
theorem trim_named (hne : port ≠ []) (h : ∀ c ∈ port, isDigit c = true) :
    trim (name ++ '/' :: (address ++ ':' :: port)) =
      trimStart name ++ '/' :: (address ++ ':' :: port) := by
  have hslash : ¬ isBlank '/' = true := by decide
  have hfront : trimStart (name ++ '/' :: (address ++ ':' :: port)) =
      trimStart name ++ '/' :: (address ++ ':' :: port) := by
    unfold trimStart
    rw [List.dropWhile_append, List.dropWhile_cons_of_neg hslash]
    split
    next hblank => rw [List.isEmpty_iff.1 hblank, List.nil_append]
    · rfl
  have hshift : trimStart name ++ '/' :: (address ++ ':' :: port) =
      (trimStart name ++ '/' :: address) ++ ':' :: port := by simp
  rw [trim, hfront, hshift, trimEnd_port hne h]

theorem IsPlain.trimStart (h : IsPlain name) : IsPlain (trimStart name) :=
  fun c hc => h c ((List.dropWhile_sublist _).subset hc)

theorem trim_endpoint (htrim : trim address = address) (hsome : address ≠ []) (hne : port ≠ [])
    (h : ∀ c ∈ port, isDigit c = true) :
    trim (address ++ ':' :: port) = address ++ ':' :: port := by
  obtain ⟨c, r, rfl⟩ := List.exists_cons_of_ne_nil hsome
  have hhead : ∀ d ∈ (c :: r ++ ':' :: port).head?, isBlank d = false :=
    fun d hd => not_blank_of_trim htrim d hd
  rw [trim, trimStart_eq_self hhead, trimEnd_port hne h]

/-- The spellings that nodes use, with a host name or without. -/
def spellings (name address port : List Char) : List (List Char) :=
  ["inet[".toList ++ (address ++ ':' :: port) ++ [']'],
    "inet[".toList ++ (name ++ '/' :: (address ++ ':' :: port)) ++ [']'],
    "inet[".toList ++ ('/' :: (address ++ ':' :: port)) ++ [']'],
    name ++ '/' :: (address ++ ':' :: port),
    address ++ ':' :: port]

/-- Each of them is a spelling of the same address and port. -/
theorem exists_spelling (hname : IsPlain name) (hsome : address ≠ []) (hplain : IsPlain address)
    (htrim : trim address = address) (hne : port ≠ []) (hdigits : ∀ c ∈ port, isDigit c = true)
    {text : List Char} (h : text ∈ spellings name address port) :
    ∃ p : Spelling, trim text = p.write ∧ p.address = address ∧ p.port = port := by
  let spelled (isOpened : Bool) (hostName : Option (List Char)) (isClosed : Bool)
      (hhost : ∀ n ∈ hostName, IsPlain n) : Spelling :=
    ⟨isOpened, hostName, address, port, isClosed, hhost, hsome, hplain, hne, hdigits⟩
  have hunnamed : ∀ n ∈ (none : Option (List Char)), IsPlain n := fun n hn => by cases hn
  have hnamed : ∀ {given : List Char}, IsPlain given → ∀ n ∈ some given, IsPlain n :=
    fun hgiven n hn => Option.some.inj hn ▸ hgiven
  simp only [spellings, List.mem_cons, List.not_mem_nil, or_false] at h
  rcases h with rfl | rfl | rfl | rfl | rfl
  · refine ⟨spelled true none true hunnamed, ?_, rfl, rfl⟩
    rw [trim_bracketed]
    simp [spelled, Spelling.write, opening, writeHostName, closing]
  · refine ⟨spelled true (some name) true (hnamed hname), ?_, rfl, rfl⟩
    rw [trim_bracketed]
    simp [spelled, Spelling.write, opening, writeHostName, closing]
  · refine ⟨spelled true (some []) true (hnamed fun c hc => by cases hc), ?_, rfl, rfl⟩
    rw [trim_bracketed]
    simp [spelled, Spelling.write, opening, writeHostName, closing]
  · refine ⟨spelled false (some (trimStart name)) false (hnamed hname.trimStart), ?_, rfl, rfl⟩
    rw [trim_named hne hdigits]
    simp [spelled, Spelling.write, opening, writeHostName, closing]
  · refine ⟨spelled false none false hunnamed, ?_, rfl, rfl⟩
    rw [trim_endpoint htrim hsome hne hdigits]
    simp [spelled, Spelling.write, opening, writeHostName, closing]

/-- **A reported address is read however it is spelled.** A server is found in a text exactly if
the text, once it is trimmed, is a spelling of an address and a port that make a server. A text
has one address and one port, and so the host name and the brackets do not matter: the spellings
of one address and port, with whatever host name, are one server, or none of them is. -/
theorem parseAddress?_spelled :
    (∀ raw scheme s, parseAddress? raw scheme = some s ↔
      ∃ p : Spelling, trim raw.toList = p.write ∧
        Server.parse (scheme ++ String.ofList (p.address ++ ':' :: p.port)) = .ok s) ∧
    (∀ p q : Spelling, p.write = q.write → p.address = q.address ∧ p.port = q.port) ∧
    ∀ name address port, IsPlain name → address ≠ [] → IsPlain address →
      trim address = address → port ≠ [] → (∀ c ∈ port, isDigit c = true) →
      ∀ scheme, ∀ text ∈ spellings name address port,
        parseAddress? (String.ofList text) scheme =
          (Server.parse (scheme ++ String.ofList (address ++ ':' :: port))).toOption := by
  refine ⟨fun raw scheme s => parseAddress?_eq_some_iff, fun p q => Spelling.endpoint_inj, ?_⟩
  intro name address port hname hsome hplain htrim hne hdigits scheme text htext
  obtain ⟨p, hspelled, rfl, rfl⟩ :=
    exists_spelling hname hsome hplain htrim hne hdigits htext
  exact parseAddress?_of_spelling p (by rw [String.toList_ofList, hspelled]) scheme

/-- The address of one node, with blanks around it and in all its spellings. -/
theorem parseAddress?_spelled_inet :
    (∃ p : Spelling, trim " inet[es1/10.0.0.1:9200]\n".toList = p.write ∧
      Server.parse ("http://" ++ String.ofList (p.address ++ ':' :: p.port)) =
        .ok ⟨"http://10.0.0.1:9200"⟩) ∧
    ∀ text ∈ ["inet[10.0.0.1:9200]", "inet[es1/10.0.0.1:9200]", "inet[/10.0.0.1:9200]",
        "es1/10.0.0.1:9200", "10.0.0.1:9200"],
      parseAddress? text "http://" = some ⟨"http://10.0.0.1:9200"⟩ := by
  obtain ⟨hgrammar, -, hspellings⟩ := parseAddress?_spelled
  have hfound : parseAddress? " inet[es1/10.0.0.1:9200]\n" "http://" =
      some ⟨"http://10.0.0.1:9200"⟩ := by decide +kernel
  have hserver : (Server.parse ("http://" ++ String.ofList
      ("10.0.0.1".toList ++ ':' :: "9200".toList))).toOption =
      some ⟨"http://10.0.0.1:9200"⟩ := by decide +kernel
  have htexts : (spellings "es1".toList "10.0.0.1".toList "9200".toList).map String.ofList =
      ["inet[10.0.0.1:9200]", "inet[es1/10.0.0.1:9200]", "inet[/10.0.0.1:9200]",
        "es1/10.0.0.1:9200", "10.0.0.1:9200"] := by decide +kernel
  have hname : IsPlain "es1".toList := isPlain_takeWhile "es1/".toList
  obtain ⟨⟨hsome, haddress⟩, ⟨hne, hport⟩, -⟩ := readEndpoint?_eq_some_iff.1
    (by decide +kernel : readEndpoint? "10.0.0.1:9200".toList =
      some ("10.0.0.1".toList, "9200".toList))
  refine ⟨(hgrammar _ _ _).1 hfound, fun text htext => ?_⟩
  rw [← htexts] at htext
  obtain ⟨cs, hcs, rfl⟩ := List.mem_map.1 htext
  rw [hspellings _ _ _ hname hsome haddress (by decide +kernel) hne hport _ cs hcs, hserver]

end Failover.Discovery
