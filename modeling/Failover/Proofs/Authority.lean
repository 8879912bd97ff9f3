import Mathlib.Data.List.TakeWhile
import Failover.Proofs.Host

/-!
# Authorities that are read again

The port of an authority that was read is in range and not the one that the scheme means anyway
(`KeepsPort`). Host and port, written one behind the other, are read as themselves again
(`readAuthority_write`): the port's digits end where the authority does, and the first colon
that stands in no brackets is the one between the two.
-/

namespace Failover.Url

open Text Domain

/-! ## Ports -/

/-- A port with one more digit. -/
def takeDigit? (n : Nat) (c : Char) : Option Nat :=
  if c.isDigit && 10 * n + (c.toNat - '0'.toNat) ≤ 65535 then
    some (10 * n + (c.toNat - '0'.toNat))
  else none

theorem readPort?_concat (cs : List Char) (c : Char) :
    readPort? (cs ++ [c]) = (readPort? cs).bind (takeDigit? · c) := by
  show (cs ++ [c]).foldlM takeDigit? 0 = (cs.foldlM takeDigit? 0).bind (takeDigit? · c)
  rw [List.foldlM_append]
  cases cs.foldlM takeDigit? 0 with
  | none => rfl
  | some n =>
    show (takeDigit? n c >>= fun m => [].foldlM takeDigit? m) = takeDigit? n c
    cases takeDigit? n c <;> rfl

theorem takeDigit?_digitChar {n d : Nat} (hd : d < 10) (h : 10 * n + d ≤ 65535) :
    takeDigit? n (Nat.digitChar d) = some (10 * n + d) := by
  have hdigit : ∀ e < 10, (Nat.digitChar e).isDigit = true ∧
      (Nat.digitChar e).toNat - '0'.toNat = e := by decide
  obtain ⟨hisDigit, hvalue⟩ := hdigit d hd
  rw [takeDigit?, hisDigit, hvalue, decide_eq_true h]
  rfl

/-- What is read is in range. -/
theorem readPort?_le {cs : List Char} {n : Nat} (h : readPort? cs = some n) : n ≤ 65535 := by
  rcases List.eq_nil_or_concat cs with rfl | ⟨front, c, rfl⟩
  · cases h
    exact Nat.zero_le _
  · rw [List.concat_eq_append, readPort?_concat] at h
    obtain ⟨m, -, h⟩ := Option.bind_eq_some_iff.1 h
    unfold takeDigit? at h
    split at h
    next hbounds =>
      cases h
      exact of_decide_eq_true (Bool.and_eq_true_iff.1 hbounds).2
    · cases h

/-- The digits of a port are read as that port. -/
theorem readPort?_toDigits {n : Nat} (h : n ≤ 65535) :
    readPort? (Nat.toDigits 10 n) = some n := by
  induction n using Nat.strongRecOn with
  | ind n ih =>
    by_cases hlt : n < 10
    · rw [Nat.toDigits_of_lt_base hlt, ← List.nil_append [_], readPort?_concat]
      show takeDigit? 0 _ = _
      rw [takeDigit?_digitChar hlt (by omega), Nat.mul_zero, Nat.zero_add]
    · have hsum : 10 * (n / 10) + n % 10 = n := Nat.div_add_mod n 10
      rw [Nat.toDigits_of_base_le (by decide) (by omega), readPort?_concat,
        ih (n / 10) (by omega) (by omega), Option.bind_some,
        takeDigit?_digitChar (Nat.mod_lt n (by decide)) (by omega), hsum]

/-- The port is in range and is not what the scheme means without one. -/
def KeepsPort (scheme : List Char) (port : Option Nat) : Prop :=
  ∀ n, port = some n → n ≤ 65535 ∧ defaultPort? scheme ≠ some n

/-- A port behind its colon. -/
def writePort : Option Nat → List Char
  | some n => ':' :: Nat.toDigits 10 n
  | none => []

theorem writePort_shape (port : Option Nat) :
    writePort port = [] ∨ ∃ digits, writePort port = ':' :: digits := by
  cases port with
  | none => exact .inl rfl
  | some n => exact .inr ⟨_, rfl⟩

theorem isHostChar_of_mem_writePort {port : Option Nat} {c : Char} (h : c ∈ writePort port) :
    Host.isHostChar c = true := by
  cases port with
  | none => cases h
  | some n =>
    rcases List.mem_cons.1 h with rfl | h
    · decide
    · exact Host.isHostChar_of_labelChar
        (isLabelChar_of_mem_toDigits (by decide) (by decide) h)

/-! ## What is read -/

/-- What is read has a finished host and a port that is kept. -/
theorem finished_of_readAuthority {scheme cs : List Char} {a : Authority}
    (h : readAuthority scheme .special cs = .ok a) :
    a.host.Finished ∧ KeepsPort scheme a.port := by
  unfold readAuthority at h
  simp only [beq_self_eq_true, if_true, throw, throwThe, MonadExceptOf.throw, bind, Except.bind,
    pure, Except.pure] at h
  split at h
  · cases h
  · split at h
    · cases h
    · split at h
      · cases h
      next host hhost =>
        split at h
        · cases h
        · split at h
          · cases h
          next n hport =>
            split at h
            · cases h
            · cases h
              refine ⟨Host.finished_of_parse hhost, fun m hm => ?_⟩
              dsimp only at hm
              split at hm
              · cases hm
              next hkept =>
                cases hm
                rw [Bool.or_eq_true, not_or, beq_iff_eq] at hkept
                exact ⟨readPort?_le hport, hkept.2⟩

/-! ## What is written -/

/-- The characters of host and port end no authority, and stand in front of no user name. -/
theorem not_endsAuthority {c : Char} (h : Host.isHostChar c = true) :
    endsAuthority .special c = false ∧ c ≠ '@' ∧ c ≠ '\\' := by
  have hne : ∀ d, Host.isHostChar d = false → c ≠ d := by
    rintro d hd rfl
    rw [h] at hd
    cases hd
  refine ⟨?_, hne '@' (by decide), hne '\\' (by decide)⟩
  simp [endsAuthority, hne '/' (by decide), hne '?' (by decide), hne '#' (by decide),
    hne '\\' (by decide)]

theorem not_endsAuthority_of_mem_write {host : Host} (h : host.Finished) {c : Char}
    (hc : c ∈ host.write) : endsAuthority .special c = false ∧ c ≠ '@' :=
  have hmarks := not_endsAuthority (Host.isHostChar_of_mem_write h hc)
  ⟨hmarks.1, hmarks.2.1⟩

theorem splitUserinfo_of_not_mem {authority : List Char} (h : '@' ∉ authority) :
    splitUserinfo authority = (none, authority) := by
  have hall : authority.reverse.dropWhile (· != '@') = [] := by
    rw [List.dropWhile_eq_nil_iff]
    intro c hc
    rw [bne_iff_ne]
    rintro rfl
    exact h (List.mem_reverse.1 hc)
  unfold splitUserinfo
  simp only [hall]

/-- The digits of a port that is kept stand for it. -/
theorem keptPort {scheme : List Char} {port : Option Nat} (h : KeepsPort scheme port) :
    ((writePort port).drop 1).takeWhile (· != '\\') = (writePort port).drop 1 ∧
    ((writePort port).drop 1).dropWhile (· != '\\') = [] ∧
    ∃ n, readPort? ((writePort port).drop 1) = some n ∧
      (if ((writePort port).drop 1).isEmpty || defaultPort? scheme == some n then none
        else some n) = port := by
  have hdigits : ∀ c ∈ (writePort port).drop 1, (c != '\\') = true := fun c hc =>
    bne_iff_ne.2 (not_endsAuthority (isHostChar_of_mem_writePort (List.mem_of_mem_drop hc))).2.2
  refine ⟨List.takeWhile_eq_self_iff.2 hdigits, List.dropWhile_eq_nil_iff.2 hdigits, ?_⟩
  cases port with
  | none => exact ⟨0, rfl, rfl⟩
  | some n =>
    obtain ⟨hle, hother⟩ := h n rfl
    refine ⟨n, readPort?_toDigits hle, ?_⟩
    have hsome : (Nat.toDigits 10 n).isEmpty = false := by simp [Nat.toDigits_ne_nil]
    show (if (Nat.toDigits 10 n).isEmpty || _ then _ else _) = _
    rw [hsome, Bool.false_or, if_neg (by simpa using hother)]

/-- A text and a port end where the path begins. -/
theorem cut_place {text : List Char} (port : Option Nat) {rest : List Char}
    (htext : ∀ c ∈ text, endsAuthority .special c = false)
    (hrest : rest = [] ∨ ∃ r, rest = '/' :: r) :
    (text ++ writePort port ++ rest).takeWhile (!endsAuthority .special ·) =
        text ++ writePort port ∧
      (text ++ writePort port ++ rest).dropWhile (!endsAuthority .special ·) = rest := by
  have hinside : ∀ c ∈ text ++ writePort port, (!endsAuthority .special c) = true := by
    intro c hc
    rw [Bool.not_eq_true']
    rcases List.mem_append.1 hc with hc | hc
    · exact htext c hc
    · exact (not_endsAuthority (isHostChar_of_mem_writePort hc)).1
  have hend : rest.takeWhile (!endsAuthority .special ·) = [] ∧
      rest.dropWhile (!endsAuthority .special ·) = rest := by
    rcases hrest with rfl | ⟨r, rfl⟩ <;> exact ⟨rfl, rfl⟩
  constructor
  · rw [List.takeWhile_append_of_pos hinside, hend.1, List.append_nil]
  · rw [List.dropWhile_append_of_pos hinside, hend.2]

/-- The authority of a text that is cut from its port at the right place is what its host is
read as. -/
theorem readAuthority_text (scheme : List Char) {text : List Char} (port : Option Nat)
    {rest : List Char}
    (hne : text ≠ []) (htext : ∀ c ∈ text, endsAuthority .special c = false ∧ c ≠ '@')
    (hsplit : splitHost false (text ++ writePort port) = (text, writePort port))
    (hport : KeepsPort scheme port) (hrest : rest = [] ∨ ∃ r, rest = '/' :: r) :
    readAuthority scheme .special (text ++ writePort port ++ rest) =
      (Host.parse text).map fun host => ⟨[], none, host, port, rest⟩ := by
  obtain ⟨htake, hdrop⟩ := cut_place port (fun c hc => (htext c hc).1) hrest
  have huser : splitUserinfo (text ++ writePort port) = (none, text ++ writePort port) :=
    splitUserinfo_of_not_mem fun hat => by
      rcases List.mem_append.1 hat with hat | hat
      · exact (htext _ hat).2 rfl
      · exact (not_endsAuthority (isHostChar_of_mem_writePort hat)).2.1 rfl
  have hnoInfo : ((none : Option (List Char)) == some []) = false := rfl
  have hsome : text.isEmpty = false := by simpa using hne
  obtain ⟨htakeDigits, hdropDigits, n, hread, hkept⟩ := keptPort hport
  unfold readAuthority
  simp only [beq_self_eq_true, if_true, throw, throwThe, MonadExceptOf.throw, bind, Except.bind,
    pure, Except.pure, htake, hdrop, huser, hsplit, hsome, hnoInfo, Bool.false_and,
    Bool.false_eq_true, if_false, htakeDigits, hdropDigits, hread]
  cases hhost : Host.parse text with
  | error e => rfl
  | ok host =>
    -- The empty name could have no port, but it is not read as a host of a special scheme.
    have hname : (host == .domain []) = false := by
      rw [beq_eq_false_iff_ne]
      rintro rfl
      exact (Host.finished_of_parse hhost).2.1 rfl
    simp only [hname, Bool.false_and, Bool.false_eq_true, if_false, hkept]
    rfl

/-- **Host and port are read back**, unless the host has an overlong label. -/
theorem readAuthority_write {scheme : List Char} {host : Host} {port : Option Nat}
    {rest : List Char} (h : host.Finished) (hport : KeepsPort scheme port)
    (hrest : rest = [] ∨ ∃ r, rest = '/' :: r) :
    readAuthority scheme .special (host.write ++ writePort port ++ rest) =
      if host.isOverlong then .error .domainName else .ok ⟨[], none, host, port, rest⟩ := by
  rw [readAuthority_text scheme port (Host.write_ne_nil h)
    (fun _ hc => not_endsAuthority_of_mem_write h hc)
    (Host.splitHost_write h (writePort_shape port)) hport hrest, Host.parse_write h]
  cases host.isOverlong <;> rfl

end Failover.Url
