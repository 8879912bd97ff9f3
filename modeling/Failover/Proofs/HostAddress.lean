import Failover.Proofs.DomainName
import Failover.Url.Ipv6

/-!
# Addresses of hosts that are read again
-/

namespace Failover.Url

open Text

/-! ## IPv4 -/

namespace Ipv4

/-- The address has 32 bits. -/
def Fits (a : Ipv4) : Prop := a.value < 0x100000000

theorem readPart?_toDigits : ∀ n < 256, readPart? (Nat.toDigits 10 n) = some n := by
  decide +kernel

variable {a : Ipv4}

theorem bytes_lt {n : Nat} (h : n ∈ a.bytes) : n < 256 := by
  simp only [bytes, List.mem_cons, List.not_mem_nil, or_false] at h
  omega

theorem isLabelChar_of_mem_bytes {ds : List Char} (h : ds ∈ a.bytes.map (Nat.toDigits 10)) :
    ∀ c ∈ ds, Domain.isLabelChar c = true := by
  obtain ⟨n, -, rfl⟩ := List.mem_map.1 h
  exact fun c hc => Domain.isLabelChar_of_mem_toDigits (by decide) (by decide) hc

theorem ofParts?_four {p q r s : Nat} (hp : p < 256) (hq : q < 256) (hr : r < 256)
    (hs : s < 256) :
    ofParts? [p, q, r, s] = some ⟨256 * (256 * (256 * p + q) + r) + s⟩ := by
  have hfront : [p, q, r].any (255 < ·) = false := by
    simp only [List.any_cons, List.any_nil, Bool.or_false, Bool.or_eq_false_iff,
      decide_eq_false_iff_not]
    omega
  have hlast : ¬ 256 ≤ s := by omega
  simp [ofParts?, hfront, hlast, Nat.mul_comm _ 256]

theorem ofParts?_bytes (h : a.Fits) : ofParts? a.bytes = some a := by
  have hlt : a.value < 4294967296 := h
  have hsum : 256 * (256 * (256 * (a.value / 16777216 % 256) + a.value / 65536 % 256) +
      a.value / 256 % 256) + a.value % 256 = a.value := by omega
  rw [bytes, ofParts?_four (by omega) (by omega) (by omega) (by omega), hsum]

theorem parts_write : parts a.write = a.bytes.map (Nat.toDigits 10) := by
  have hsplit : splitOn (· == '.') a.write = a.bytes.map (Nat.toDigits 10) :=
    Domain.splitOn_dot (by simp [bytes]) fun _ hds => isLabelChar_of_mem_bytes hds
  have hlast : (a.bytes.map (Nat.toDigits 10)).getLast? ≠ some [] := by
    simp [bytes, Nat.toDigits_ne_nil]
  rw [parts, hsplit, beq_eq_false_iff_ne.2 hlast, Bool.and_false, if_neg Bool.false_ne_true]

/-- An address is read back. -/
theorem parse?_write (h : a.Fits) : parse? a.write = some a := by
  have hread : (a.bytes.map (Nat.toDigits 10)).mapM readPart? = some a.bytes := by
    rw [mapM_eq_some, List.map_map]
    exact List.map_congr_left fun n hn => readPart?_toDigits n (bytes_lt hn)
  rw [parse?, parts_write, hread, Option.bind_eq_bind, Option.bind_some, ofParts?_bytes h]

theorem endsInNumber_write : endsInNumber a.write = true := by
  rw [endsInNumber, parts_write]
  have hlast : (Nat.toDigits 10 (a.value % 256)).all Char.isDigit = true :=
    List.all_eq_true.2 fun c hc => Nat.isDigit_of_mem_toDigits (by decide) (by decide) hc
  simp [bytes, Nat.toDigits_ne_nil, hlast]

/-- What is read has 32 bits. -/
theorem fits_of_ofParts? {ns : List Nat} (h : ofParts? ns = some a) : a.Fits := by
  unfold ofParts? at h
  cases hlast : ns.getLast? with
  | none => simp [hlast] at h
  | some last =>
    simp only [hlast] at h
    split at h
    · cases h
    next hbounds =>
      cases h
      simp only [Bool.or_eq_true, decide_eq_true_eq, not_or, List.any_eq_true, not_exists, not_and,
        Nat.not_lt, Nat.not_le] at hbounds
      obtain ⟨⟨hlength, hfront⟩, hlt⟩ := hbounds
      have hhigh : ofDigits 256 ns.dropLast < Nat.pow 256 ns.dropLast.length :=
        ofDigits_lt fun d hd => by have := hfront d hd; omega
      have hcount : ns.dropLast.length ≤ 4 := by rw [List.length_dropLast]; omega
      -- The last part fills the bytes that the parts in front of it leave.
      show ofDigits 256 ns.dropLast * 256 ^ (4 - ns.dropLast.length) + last < 0x100000000
      generalize ofDigits 256 ns.dropLast = high at hhigh ⊢
      generalize ns.dropLast.length = count at hhigh hlt hcount ⊢
      calc high * 256 ^ (4 - count) + last
          < high * 256 ^ (4 - count) + 256 ^ (4 - count) := Nat.add_lt_add_left hlt _
        _ = (high + 1) * 256 ^ (4 - count) := (Nat.succ_mul _ _).symm
        _ ≤ 256 ^ count * 256 ^ (4 - count) := Nat.mul_le_mul_right _ hhigh
        _ = 256 ^ 4 := by rw [← Nat.pow_add, Nat.add_sub_cancel' hcount]
        _ = 0x100000000 := by decide

theorem fits_of_parse? {host : List Char} (h : parse? host = some a) : a.Fits := by
  obtain ⟨ns, -, h⟩ := Option.bind_eq_some_iff.1 h
  exact fits_of_ofParts? h

end Ipv4

/-! ## IPv6 -/

namespace Ipv6

/-- Eight pieces of 16 bits. -/
def Fits (a : Ipv6) : Prop := a.pieces.length = 8 ∧ ∀ n ∈ a.pieces, n < 0x10000

/-! ### The pieces of an address that is read -/

theorem readPiece?_lt {cs : List Char} {n : Nat} (h : readPiece? cs = some n) : n < 0x10000 := by
  unfold readPiece? at h
  split at h
  · cases h
  next hlength =>
    simp only [Bool.or_eq_true, List.isEmpty_iff, decide_eq_true_eq, not_or, Nat.not_lt] at hlength
    calc n < 16 ^ cs.length := digitsNumber?_lt h
      _ ≤ 16 ^ 4 := Nat.pow_le_pow_right (by decide) hlength.2

theorem readByte?_lt {cs : List Char} {n : Nat} (h : readByte? cs = some n) : n < 256 := by
  unfold readByte? at h
  split at h
  · cases h
  · cases h
  · rw [Option.filter_eq_some_iff] at h
    exact of_decide_eq_true h.2

/-- What is read from each item holds of all that is read. -/
theorem forall_of_mapM {α β : Type} {f : α → Option β} {P : β → Prop} {xs : List α} {ys : List β}
    (h : xs.mapM f = some ys) (hf : ∀ x y, f x = some y → P y) : ∀ y ∈ ys, P y := by
  rw [mapM_eq_some] at h
  intro y hy
  have hmem : some y ∈ xs.map f := h ▸ List.mem_map_of_mem hy
  obtain ⟨x, -, hx⟩ := List.mem_map.1 hmem
  exact hf x y hx

theorem readDotted?_lt {cs : List Char} {ns : List Nat} (h : readDotted? cs = some ns) :
    ∀ n ∈ ns, n < 0x10000 := by
  unfold readDotted? at h
  split at h
  next a b c d hbytes =>
    have hlt : ∀ n ∈ [a, b, c, d], n < 256 := forall_of_mapM hbytes fun _ _ => readByte?_lt
    simp only [List.forall_mem_cons] at hlt
    cases h
    simp only [List.forall_mem_cons]
    refine ⟨?_, ?_, by simp⟩ <;> omega
  · cases h

theorem readGroups?_lt {dotted : Bool} {cs : List Char} {ns : List Nat}
    (h : readGroups? dotted cs = some ns) : ∀ n ∈ ns, n < 0x10000 := by
  unfold readGroups? at h
  split at h
  · cases h
    simp
  · dsimp only at h
    split at h
    · cases h
    next last hlast =>
      obtain ⟨front, hfront, h⟩ := Option.bind_eq_some_iff.1 h
      have hfrontLt := forall_of_mapM hfront fun _ _ => readPiece?_lt
      have hback : ∃ back, (∀ n ∈ back, n < 0x10000) ∧ front ++ back = ns := by
        split at h
        · obtain ⟨back, hback, h⟩ := Option.bind_eq_some_iff.1 h
          exact ⟨back, readDotted?_lt hback, Option.some.inj h⟩
        · obtain ⟨back, hback, h⟩ := Option.bind_eq_some_iff.1 h
          obtain ⟨n, hn, rfl⟩ := Option.map_eq_some_iff.1 hback
          exact ⟨[n], by simpa using readPiece?_lt hn, Option.some.inj h⟩
      obtain ⟨back, hbackLt, rfl⟩ := hback
      intro n hn
      rcases List.mem_append.1 hn with hn | hn
      · exact hfrontLt n hn
      · exact hbackLt n hn

theorem fits_of_parse? {cs : List Char} {a : Ipv6} (h : parse? cs = some a) : a.Fits := by
  unfold parse? at h
  split at h
  next all hcut =>
    obtain ⟨ns, hns, h⟩ := Option.bind_eq_some_iff.1 h
    split at h
    next hlength =>
      cases h
      exact ⟨hlength, readGroups?_lt hns⟩
    · cases h
  next left right hcut =>
    obtain ⟨ls, hls, h⟩ := Option.bind_eq_some_iff.1 h
    obtain ⟨rs, hrs, h⟩ := Option.bind_eq_some_iff.1 h
    split at h
    next hlength =>
      cases h
      refine ⟨by simp; omega, fun n hn => ?_⟩
      simp only [List.mem_append, List.mem_replicate] at hn
      rcases hn with (hn | ⟨-, rfl⟩) | hn
      · exact readGroups?_lt hls n hn
      · decide
      · exact readGroups?_lt hrs n hn
    · cases h

/-! ### The pieces of an address that is written -/

theorem readPiece?_toDigits {n : Nat} (h : n < 0x10000) :
    readPiece? (Nat.toDigits 16 n) = some n := by
  have hlength : (Nat.toDigits 16 n).length ≤ 4 :=
    (Nat.length_toDigits_le_iff (by decide) (by decide)).2 h
  have hne : (Nat.toDigits 16 n).isEmpty = false := by simp [Nat.toDigits_ne_nil]
  have hshort : ¬ 4 < (Nat.toDigits 16 n).length := by omega
  simp only [readPiece?, hne, hshort, Bool.false_or, decide_false, Bool.false_eq_true, if_false]
  exact digitsNumber?_toDigits (by decide) (by decide) n

theorem isLabelChar_of_mem_pieces {ns : List Nat} {ds : List Char}
    (h : ds ∈ ns.map (Nat.toDigits 16)) : ∀ c ∈ ds, Domain.isLabelChar c = true := by
  obtain ⟨n, -, rfl⟩ := List.mem_map.1 h
  exact fun c hc => Domain.isLabelChar_of_mem_toDigits (by decide) (by decide) hc

theorem ne_colon_of_plain {c : Char} (h : Domain.isLabelChar c = true) : c ≠ ':' := by
  rintro rfl
  revert h
  decide

theorem mem_writePieces {ns : List Nat} {c : Char} (h : c ∈ writePieces ns) :
    c = ':' ∨ Domain.isLabelChar c = true := by
  rcases mem_intercalate h with rfl | ⟨ds, hds, hc⟩
  · exact .inl rfl
  · exact .inr (isLabelChar_of_mem_pieces hds c hc)

theorem readGroups?_writePieces (dotted : Bool) {ns : List Nat} (h : ∀ n ∈ ns, n < 0x10000) :
    readGroups? dotted (writePieces ns) = some ns := by
  rcases List.eq_nil_or_concat ns with rfl | ⟨front, last, rfl⟩
  · rfl
  · have hsplit : splitOn (· == ':') (writePieces (front ++ [last])) =
        (front ++ [last]).map (Nat.toDigits 16) :=
      splitOn_intercalate_pieces rfl (by simp) fun ds hds c hc =>
        beq_eq_false_iff_ne.2 (ne_colon_of_plain (isLabelChar_of_mem_pieces hds c hc))
    have hne : (writePieces (front ++ [last])).isEmpty = false := by
      rw [List.isEmpty_eq_false_iff]
      intro hnil
      rw [hnil] at hsplit
      have hlast := congrArg List.getLast? hsplit
      simp [splitOn, Nat.toDigits_ne_nil] at hlast
    have hfront : (front.map (Nat.toDigits 16)).mapM readPiece? = some front := by
      rw [mapM_eq_some, List.map_map]
      exact List.map_congr_left fun n hn => readPiece?_toDigits (h n (by simp [hn]))
    -- Without a dot the last group is a piece and not an IPv4 address.
    have hdot : '.' ∉ Nat.toDigits 16 last := fun hmem => by
      have hlabel := Domain.isLabelChar_of_mem_toDigits (by decide) (by decide) hmem
      exact (Domain.isLabelChar_iff.1 hlabel).2.2 rfl
    unfold readGroups?
    simp [hne, hsplit, hfront, hdot, readPiece?_toDigits (h last (by simp)), Option.bind]

/-! ### The cut -/

theorem cutDouble_append {g : List Char} (hg : ∀ c ∈ g, c ≠ ':') (t : List Char) :
    cutDouble (g ++ t) = (g ++ (cutDouble t).1, (cutDouble t).2) := by
  induction g with
  | nil => rfl
  | cons c r ih =>
    have hc : c ≠ ':' := hg c List.mem_cons_self
    rw [List.cons_append, cutDouble, ih fun d hd => hg d (List.mem_cons_of_mem _ hd)]
    · rfl
    · intro _ hcolon
      exact absurd hcolon hc

/-- A colon is not cut at where no other one follows. -/
theorem cutDouble_colon {c : Char} (hc : c ≠ ':') (t : List Char) :
    cutDouble (':' :: c :: t) = (':' :: (cutDouble (c :: t)).1, (cutDouble (c :: t)).2) := by
  rw [cutDouble]
  intro r _ hcolon
  exact hc (List.cons.inj hcolon).1

theorem writePieces_cons_cons (n m : Nat) (more : List Nat) :
    writePieces (n :: m :: more) = Nat.toDigits 16 n ++ ':' :: writePieces (m :: more) := by
  simp only [writePieces, List.map_cons, List.intercalate_cons_cons, List.append_assoc,
    List.singleton_append]

/-- Pieces begin with a digit. -/
theorem exists_writePieces_cons (n : Nat) (more : List Nat) :
    ∃ c r, writePieces (n :: more) = c :: r ∧ c ≠ ':' := by
  obtain ⟨c, ds, hds⟩ := List.exists_cons_of_ne_nil (Nat.toDigits_ne_nil (n := n) (b := 16))
  have hc : c ≠ ':' := ne_colon_of_plain
    (Domain.isLabelChar_of_mem_toDigits (by decide) (by decide) (hds ▸ List.mem_cons_self))
  cases more with
  | nil =>
    exact ⟨c, ds, by rw [writePieces, List.map_singleton, List.intercalate_singleton, hds], hc⟩
  | cons m more => exact ⟨c, _, by rw [writePieces_cons_cons, hds, List.cons_append], hc⟩

/-- Pieces are never cut, since no two colons follow each other in them. -/
theorem cutDouble_writePieces (ns : List Nat) (t : List Char) :
    cutDouble (writePieces ns ++ t) = (writePieces ns ++ (cutDouble t).1, (cutDouble t).2) := by
  induction ns with
  | nil => rfl
  | cons n more ih =>
    have hn : ∀ c ∈ Nat.toDigits 16 n, c ≠ ':' := fun c hc =>
      ne_colon_of_plain (Domain.isLabelChar_of_mem_toDigits (by decide) (by decide) hc)
    cases more with
    | nil =>
      rw [writePieces, List.map_singleton, List.intercalate_singleton]
      exact cutDouble_append hn t
    | cons m more =>
      obtain ⟨c, r, hhead, hc⟩ := exists_writePieces_cons m more
      rw [writePieces_cons_cons, List.append_assoc, cutDouble_append hn, List.cons_append]
      rw [hhead, List.cons_append] at ih ⊢
      rw [cutDouble_colon hc, ih]
      simp only [List.append_assoc, List.cons_append]

/-! ### The longest run -/

/-- The longest run is a run of zeros, where it says it is. -/
theorem longestRun_spec (ns : List Nat) :
    ns = ns.take (longestRun ns).1 ++ List.replicate (longestRun ns).2 0 ++
      ns.drop ((longestRun ns).1 + (longestRun ns).2) := by
  induction ns with
  | nil => rfl
  | cons n r ih =>
    unfold longestRun
    dsimp only
    split
    · have hzeros : (n :: r).takeWhile (· == 0) =
          List.replicate ((n :: r).takeWhile (· == 0)).length 0 :=
        List.eq_replicate_of_mem fun x hx => by
          simpa using List.all_eq_true.1 List.all_takeWhile x hx
      have hfront := List.prefix_iff_eq_take.1 (List.takeWhile_prefix (l := n :: r) (· == 0))
      rw [List.take_zero, List.nil_append, Nat.zero_add, ← hzeros]
      conv => lhs; rw [← List.take_append_drop ((n :: r).takeWhile (· == 0)).length (n :: r)]
      rw [← hfront]
    · rw [List.take_succ_cons, List.cons_append, List.cons_append, Nat.add_right_comm,
        List.drop_succ_cons, ← ih]

/-- Reading takes back the zeros that `::` stands for. -/
theorem restore_zeros {ns : List Nat} (hlength : ns.length = 8) :
    (ns.take (longestRun ns).1).length +
        (ns.drop ((longestRun ns).1 + (longestRun ns).2)).length + (longestRun ns).2 = 8 := by
  have h := congrArg List.length (longestRun_spec ns)
  simp only [List.length_append, List.length_replicate, hlength] at h
  omega

variable {a : Ipv6}

theorem mem_write {c : Char} (h : c ∈ a.write) : c = ':' ∨ Domain.isLabelChar c = true := by
  unfold write at h
  dsimp only at h
  split at h
  · exact mem_writePieces h
  · simp only [List.mem_append, List.mem_cons, List.not_mem_nil, or_false, or_self] at h
    rcases h with (h | h) | h
    · exact mem_writePieces h
    · exact .inl h
    · exact mem_writePieces h

/-- An address is read back. -/
theorem parse?_write (h : a.Fits) : parse? a.write = some a := by
  obtain ⟨ns⟩ := a
  obtain ⟨hlength, hlt⟩ := h
  dsimp only at hlength hlt
  unfold write
  dsimp only
  split
  · have hcut := cutDouble_writePieces ns []
    rw [List.append_nil] at hcut
    simp only [parse?, hcut, cutDouble, List.append_nil, readGroups?_writePieces true hlt,
      Option.bind_eq_bind, Option.bind_some, hlength, if_true]
  next hshort =>
    have hspec := longestRun_spec ns
    have hzeros := restore_zeros hlength
    generalize longestRun ns = run at hspec hzeros hshort ⊢
    generalize hls : ns.take run.1 = ls at hspec hzeros ⊢
    generalize hrs : ns.drop (run.1 + run.2) = rs at hspec hzeros ⊢
    have hcut : cutDouble (writePieces ls ++ ':' :: ':' :: writePieces rs) =
        (writePieces ls, some (writePieces rs)) := by
      rw [cutDouble_writePieces, cutDouble, List.append_nil]
    have hleft : readGroups? false (writePieces ls) = some ls :=
      readGroups?_writePieces false fun n hn => hlt n (List.mem_of_mem_take (hls ▸ hn))
    have hright : readGroups? true (writePieces rs) = some rs :=
      readGroups?_writePieces true fun n hn => hlt n (List.mem_of_mem_drop (hrs ▸ hn))
    have hfew : ls.length + rs.length ≤ 7 := by omega
    have hcount : 8 - (ls.length + rs.length) = run.2 := by omega
    rw [List.append_assoc]
    simp only [List.cons_append, List.nil_append, parse?, hcut, hleft, hright, Option.bind_eq_bind,
      Option.bind_some, if_pos hfew, hcount, ← hspec]

end Ipv6

end Failover.Url
