import Failover.Proofs.HostAddress
import Failover.Proofs.Utf8
import Failover.Url.Basic

/-!
# Hosts that are read again

What reading makes of a host (`Host.Finished`) is read as the same host from the text that it
is written as, with the exception of names with an overlong label (`Host.parse_write`). No two
hosts are written alike (`Host.write_inj`), and the text of a host ends where the authority
around it goes on (`Host.splitHost_write`).
-/

namespace Failover.Url

open Text Domain

/-! ## Texts without percent signs -/

theorem percentDecode_eq_encode {cs : List Char} (h : '%' ∉ cs) :
    percentDecode cs = Utf8.encode cs := by
  induction cs with
  | nil => rw [percentDecode, Utf8.encode, List.flatMap_nil]
  | cons c r ih =>
    have hc : '%' ≠ c := fun hc => h (hc ▸ List.mem_cons_self)
    rw [percentDecode, ih fun hr => h (List.mem_cons_of_mem _ hr), Utf8.encode, Utf8.encode,
      List.flatMap_cons]
    rintro a b r' rfl -
    exact hc rfl

theorem toAscii?_percentDecode {cs : List Char} (h : '%' ∉ cs) :
    toAscii? (percentDecode cs) = textToAscii? cs := by
  rw [toAscii?, percentDecode_eq_encode h, Utf8.decode?_encode, Option.bind_eq_bind,
    Option.bind_some]

namespace Host

/-! ## What is read -/

/-- A host as it is read: a name in ASCII that could not be an address, or an address. -/
def Finished : Host → Prop
  | domain name =>
    (∃ text, textToAscii? text = some name) ∧ name ≠ [] ∧ Ipv4.endsInNumber name = false
  | ipv4 a => a.Fits
  | ipv6 a => a.Fits

/-- A name with a label that is refused when it is read once more. -/
def isOverlong : Host → Bool
  | domain name => isOverlongName name
  | _ => false

variable {x y : Host} {cs : List Char}

theorem finished_of_bracketed? (h : bracketed? cs = some (.ok x)) : x.Finished := by
  unfold bracketed? at h
  split at h
  · split at h
    · split at h
      next a hread =>
        cases h
        exact Ipv6.fits_of_parse? hread
      · cases h
    · cases h
  · cases h

/-- What is read is finished. -/
theorem finished_of_parse (h : parse cs = .ok x) : x.Finished := by
  unfold parse at h
  split at h
  next r hbracketed =>
    subst h
    exact finished_of_bracketed? hbracketed
  · split at h
    · cases h
    next name hascii =>
      obtain ⟨text, -, htext⟩ := Option.bind_eq_some_iff.1 hascii
      split at h
      · cases h
      next hne =>
        split at h
        · split at h
          next a hread =>
            cases h
            exact Ipv4.fits_of_parse? hread
          · cases h
        next hname =>
          cases h
          exact ⟨⟨text, htext⟩, by simpa using hne, Bool.eq_false_iff.2 hname⟩

/-! ## What is written -/

theorem bracketed?_plain {name : List Char} (h : IsPlainName name) : bracketed? name = none := by
  unfold bracketed?
  split
  · exact absurd List.mem_cons_self (h.not_mem (by decide) (by decide))
  · rfl

theorem ipv4_isPlainName (a : Ipv4) : IsPlainName a.write :=
  isPlainName_intercalate fun _ => Ipv4.isLabelChar_of_mem_bytes

theorem ipv4_write_ne_nil (a : Ipv4) : a.write ≠ [] := by
  intro hnil
  have hends := Ipv4.endsInNumber_write (a := a)
  rw [hnil] at hends
  revert hends
  decide

theorem bracketed?_ipv6 {a : Ipv6} (h : a.Fits) :
    bracketed? (ipv6 a).write = some (.ok (.ipv6 a)) := by
  have hlast : (a.write ++ [']']).getLast? = some ']' := List.getLast?_concat
  simp only [write, bracketed?, List.cons_append, List.nil_append, hlast, if_true,
    List.dropLast_concat, Ipv6.parse?_write h]

theorem textToAscii?_ipv4 (a : Ipv4) : textToAscii? a.write = some a.write := by
  refine textToAscii?_eq_self (by simp [Ipv4.bytes]) (fun _ => Ipv4.isLabelChar_of_mem_bytes) ?_
  intro label hlabel
  obtain ⟨n, -, rfl⟩ := List.mem_map.1 hlabel
  rw [← Bool.not_eq_true, List.isPrefixOf_iff_prefix]
  intro hbegins
  have hx : 'x'.isDigit = true :=
    Nat.isDigit_of_mem_toDigits (by decide) (by decide) (hbegins.subset List.mem_cons_self)
  revert hx
  decide

/-- A finished name is in ASCII. -/
theorem isPlainName_of_finished {name : List Char} (h : (domain name).Finished) :
    IsPlainName name := by
  obtain ⟨⟨_, htext⟩, -⟩ := h
  exact textToAscii?_plain htext

section

variable {name ascii : List Char} (h : IsPlainName name)

include h

/-- A text without brackets and percent signs is read as a name. -/
theorem parse_of_none (hascii : textToAscii? name = none) : parse name = .error .domainName := by
  have hdecode := toAscii?_percentDecode (h.not_mem (c := '%') (by decide) (by decide))
  unfold parse
  simp only [bracketed?_plain h, hdecode, hascii]

theorem parse_of_name (hascii : textToAscii? name = some ascii) (hne : ascii ≠ [])
    (hname : Ipv4.endsInNumber ascii = false) : parse name = .ok (.domain ascii) := by
  have hdecode := toAscii?_percentDecode (h.not_mem (c := '%') (by decide) (by decide))
  unfold parse
  simp only [bracketed?_plain h, hdecode, hascii, List.isEmpty_iff, hne, if_false, hname,
    Bool.false_eq_true]

theorem parse_of_address {a : Ipv4} (hascii : textToAscii? name = some ascii) (hne : ascii ≠ [])
    (hends : Ipv4.endsInNumber ascii = true) (hread : Ipv4.parse? ascii = some a) :
    parse name = .ok (.ipv4 a) := by
  have hdecode := toAscii?_percentDecode (h.not_mem (c := '%') (by decide) (by decide))
  unfold parse
  simp only [bracketed?_plain h, hdecode, hascii, List.isEmpty_iff, hne, if_false, hends, if_true,
    hread]

end

/-- **A finished host is read back**, unless it has an overlong label. -/
theorem parse_write (h : x.Finished) :
    parse x.write = if x.isOverlong then .error .domainName else .ok x := by
  cases x with
  | domain name =>
    have hplain := isPlainName_of_finished h
    obtain ⟨⟨text, htext⟩, hne, hname⟩ := h
    have hagain := textToAscii?_again htext
    show parse name = if isOverlongName name then _ else _
    split
    next hlong =>
      rw [if_pos hlong] at hagain
      exact parse_of_none hplain hagain
    next hlong =>
      rw [if_neg hlong] at hagain
      exact parse_of_name hplain hagain hne hname
  | ipv4 a =>
    exact parse_of_address (ipv4_isPlainName a) (textToAscii?_ipv4 a) (ipv4_write_ne_nil a)
      Ipv4.endsInNumber_write (Ipv4.parse?_write h)
  | ipv6 a =>
    rw [parse, bracketed?_ipv6 h]
    rfl

/-- The host that a text was written for. -/
def ofWritten? (text : List Char) : Option Host :=
  match bracketed? text with
  | some r => r.toOption
  | none =>
    if Ipv4.endsInNumber text then (Ipv4.parse? text).map .ipv4 else some (.domain text)

theorem ofWritten?_write (h : x.Finished) : ofWritten? x.write = some x := by
  cases x with
  | domain name =>
    show ofWritten? name = _
    rw [ofWritten?, bracketed?_plain (isPlainName_of_finished h)]
    simp only [h.2.2, Bool.false_eq_true, if_false]
  | ipv4 a =>
    show ofWritten? a.write = _
    rw [ofWritten?, bracketed?_plain (ipv4_isPlainName a)]
    simp only [Ipv4.endsInNumber_write, if_true, Ipv4.parse?_write h, Option.map_some]
  | ipv6 a =>
    rw [ofWritten?, bracketed?_ipv6 h]
    rfl

/-- No two hosts are written alike. -/
theorem write_inj (hx : x.Finished) (hy : y.Finished) (h : x.write = y.write) : x = y := by
  have hread := congrArg ofWritten? h
  rw [ofWritten?_write hx, ofWritten?_write hy] at hread
  exact Option.some.inj hread

/-! ## Where a host ends -/

/-- The characters of a host's text: those of names, and those of bracketed addresses. -/
def isHostChar (c : Char) : Bool := isLabelChar c || ['.', ':', '[', ']'].contains c

theorem isHostChar_of_labelChar {c : Char} (h : isLabelChar c = true) : isHostChar c = true := by
  rw [isHostChar, h, Bool.true_or]

theorem isHostChar_of_mem {name : List Char} (h : IsPlainName name) {c : Char} (hc : c ∈ name) :
    isHostChar c = true := by
  rcases h c hc with hlabel | rfl
  · exact isHostChar_of_labelChar hlabel
  · decide

theorem isHostChar_of_mem_write (h : x.Finished) {c : Char} (hc : c ∈ x.write) :
    isHostChar c = true := by
  cases x with
  | domain name => exact isHostChar_of_mem (isPlainName_of_finished h) hc
  | ipv4 a => exact isHostChar_of_mem (ipv4_isPlainName a) hc
  | ipv6 a =>
    simp only [write, List.mem_append, List.mem_singleton] at hc
    rcases hc with (rfl | hc) | rfl
    · decide
    · rcases Ipv6.mem_write hc with rfl | hlabel
      · decide
      · exact isHostChar_of_labelChar hlabel
    · decide

theorem write_ne_nil (h : x.Finished) : x.write ≠ [] := by
  cases x with
  | domain name => exact h.2.1
  | ipv4 a => exact ipv4_write_ne_nil a
  | ipv6 a => exact List.cons_ne_nil _ _

/-- Between brackets a host goes on to the closing one. -/
theorem splitHost_bracketed {cs : List Char} (h : ']' ∉ cs) (port : List Char) :
    splitHost true (cs ++ ']' :: port) =
      (cs ++ ']' :: (splitHost false port).1, (splitHost false port).2) := by
  induction cs with
  | nil => rfl
  | cons c r ih =>
    have hc : (c == '[' || (true && c != ']')) = true := by
      have hne : c ≠ ']' := fun hc => h (hc ▸ List.mem_cons_self)
      simp [hne]
    have hstop : (c == ':' && !true) = false := Bool.and_false _
    rw [List.cons_append, splitHost, hstop, if_neg Bool.false_ne_true, hc,
      ih fun hr => h (List.mem_cons_of_mem _ hr)]
    rfl

theorem splitHost_text {text : List Char} (h : ∀ c ∈ text, c ≠ ':' ∧ c ≠ '[')
    (port : List Char) :
    splitHost false (text ++ port) =
      (text ++ (splitHost false port).1, (splitHost false port).2) := by
  induction text with
  | nil => rfl
  | cons c r ih =>
    obtain ⟨hcolon, hbracket⟩ := h c List.mem_cons_self
    have hstop : (c == ':' && !false) = false := by simp [hcolon]
    have hopen : (c == '[' || (false && c != ']')) = false := by simp [hbracket]
    rw [List.cons_append, splitHost, hstop, if_neg Bool.false_ne_true, hopen,
      ih fun d hd => h d (List.mem_cons_of_mem _ hd)]
    rfl

theorem splitHost_plain {name : List Char} (h : IsPlainName name) (port : List Char) :
    splitHost false (name ++ port) =
      (name ++ (splitHost false port).1, (splitHost false port).2) :=
  splitHost_text (fun _ hc =>
    ⟨fun heq => h.not_mem (c := ':') (by decide) (by decide) (heq ▸ hc),
      fun heq => h.not_mem (c := '[') (by decide) (by decide) (heq ▸ hc)⟩) port

/-- The host of an authority is cut from the port behind it. -/
theorem splitHost_write (h : x.Finished) {port : List Char}
    (hport : port = [] ∨ ∃ digits, port = ':' :: digits) :
    splitHost false (x.write ++ port) = (x.write, port) := by
  have hend : splitHost false port = ([], port) := by
    rcases hport with rfl | ⟨digits, rfl⟩ <;> rfl
  cases x with
  | domain name =>
    show splitHost false (name ++ port) = _
    rw [splitHost_plain (isPlainName_of_finished h), hend, List.append_nil]
    rfl
  | ipv4 a =>
    show splitHost false (a.write ++ port) = _
    rw [splitHost_plain (ipv4_isPlainName a), hend, List.append_nil]
    rfl
  | ipv6 a =>
    have hmem : ']' ∉ a.write := fun hmem => by
      rcases Ipv6.mem_write hmem with hcolon | hplain
      · cases hcolon
      · revert hplain
        decide
    show splitHost false ('[' :: (a.write ++ [']']) ++ port) = ('[' :: (a.write ++ [']']), port)
    rw [List.cons_append, List.append_assoc, List.singleton_append, splitHost]
    simp [splitHost_bracketed hmem, hend]

end Host

end Failover.Url
