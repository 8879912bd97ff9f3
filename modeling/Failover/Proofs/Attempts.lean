import Mathlib.Data.List.Basic
import Mathlib.Data.Nat.Find
import Mathlib.Order.Bounds.Defs
import Mathlib.Tactic.Choose
import Failover.Proofs.Loop

/-!
# How many attempts a request makes

A request goes on until a reply ends it: a delivered response always does, a failure
does if its kind is not retried or if the ceiling is reached. `RetrySettings.IsLast`
says this of the settings alone, without the policy that is made of them. The policy
agrees with it (`policy_repeats`), also where the settings allow a single attempt and
the policy has no ceiling to compare with.

With the loop unrolled that is all there is to show: the number of attempts is the
least number of a last attempt (`execute_attempts`), and it is found because the
attempt at the ceiling is one. The count of attempts stays at or below the ceiling, a
number of 32 bits, and therefore never wraps around.
-/

namespace Failover

/-- What a policy with a ceiling says, in numbers. -/
theorem Retry.upTo_again {attempts : UInt32} {kinds : List FailureKind} {n : Nat}
    (hn : n < UInt32.size) (kind : FailureKind) :
    (upTo attempts kinds).again kind (UInt32.ofNat n) = true ↔
      n < attempts.toNat ∧ kind ∈ kinds := by
  simp [again, UInt32.lt_iff_toNat_lt, UInt32.toNat_ofNat_of_lt' hn]

namespace RetrySettings

/-- The most attempts that a request makes. -/
def ceiling (s : RetrySettings) : Nat := max 1 s.maxAttempts.toNat

/-- A failure of this kind may be repeated. The settings name it, or they name none at all, and
it is one of those after which another server is worth a try. -/
def Recovers (s : RetrySettings) (kind : FailureKind) : Prop :=
  kind ∈ s.recoverable ∨ s.recoverable = [] ∧
    kind ∈ [.connectRefused, .connectionReset, .nameResolution, .tlsHandshake]

/-- The `n`-th attempt is the last one if it gets this reply. -/
def IsLast (s : RetrySettings) (n : Nat) : Reply → Prop
  | .ok _ => True
  | .error failure => ¬s.Recovers failure.kind ∨ n = s.ceiling

theorem mem_kinds {s : RetrySettings} {kind : FailureKind} : kind ∈ s.kinds ↔ s.Recovers kind := by
  unfold kinds Recovers
  split
  next h =>
    rw [List.isEmpty_iff] at h
    simp [h, FailureKind.usuallyRecoverable]
  next h =>
    rw [List.isEmpty_iff] at h
    simp [h]

theorem ceiling_lt (s : RetrySettings) : s.ceiling < UInt32.size := by
  have h : s.maxAttempts.toNat < UInt32.size := s.maxAttempts.toNat_lt
  have hone : 1 < UInt32.size := by decide
  exact Nat.max_lt.2 ⟨hone, h⟩

theorem kinds_ne_nil (s : RetrySettings) : s.kinds ≠ [] := by
  unfold kinds
  split
  · simp [FailureKind.usuallyRecoverable]
  next h => simpa using h

/-- Settings always make a policy, and it repeats an attempt below the ceiling if the
kind of its failure is one of theirs. -/
theorem policy_again (s : RetrySettings) :
    ∃ r, s.policy = .ok r ∧ ∀ kind n, 1 ≤ n → n ≤ s.ceiling →
      (r.again kind (UInt32.ofNat n) = true ↔ n < s.ceiling ∧ s.Recovers kind) := by
  have hlt := s.ceiling_lt
  -- With a single attempt the policy is the one that never repeats, and has no ceiling.
  by_cases hone : s.maxAttempts ≤ 1
  · have hc : s.ceiling = 1 := by
      have h := UInt32.le_iff_toNat_le.1 hone
      rw [UInt32.toNat_one] at h
      unfold ceiling
      omega
    refine ⟨.never, by rw [policy, if_pos hone], fun kind n h1 hn => ?_⟩
    simp only [Retry.again, Bool.false_eq_true, false_iff]
    omega
  · have hone' : 1 < s.maxAttempts.toNat := by
      rw [UInt32.le_iff_toNat_le, UInt32.toNat_one] at hone
      omega
    have hc : s.ceiling = s.maxAttempts.toNat := by
      unfold ceiling
      omega
    have hzero : s.maxAttempts ≠ 0 := by
      intro h
      rw [h, UInt32.toNat_zero] at hone'
      omega
    refine ⟨.upTo s.maxAttempts s.kinds, ?_, fun kind n h1 hn => ?_⟩
    · rw [policy, if_neg hone, Retry.upTo?, if_neg hzero, if_neg (by simp [kinds_ne_nil])]
    · rw [Retry.upTo_again (Nat.lt_of_le_of_lt hn hlt), hc, mem_kinds]

/-- The policy of some settings wants another attempt exactly if this one is not the
last. -/
theorem policy_repeats (s : RetrySettings) :
    ∃ r, s.policy = .ok r ∧ ∀ n request reply, 1 ≤ n → n ≤ s.ceiling →
      (r.toPolicy.repeats (UInt32.ofNat n) request reply = true ↔ ¬s.IsLast n reply) := by
  obtain ⟨r, hpolicy, hagain⟩ := s.policy_again
  refine ⟨r, hpolicy, fun n request reply h1 hn => ?_⟩
  cases reply with
  | ok response => simp [RetryPolicy.repeats, IsLast]
  | error failure =>
    have h := hagain failure.kind n h1 hn
    simp only [RetryPolicy.repeats, Retry.toPolicy, IsLast, not_or, not_not]
    rw [h, and_comm]
    exact and_congr_right fun _ => ⟨fun hlt => by omega, fun hne => by omega⟩

/-- Some attempt is the last one, at the ceiling at the latest. -/
theorem exists_isLeast_isLast (s : RetrySettings) (replies : Nat → Reply) :
    ∃ k, IsLeast {n | 1 ≤ n ∧ s.IsLast n (replies n)} k ∧ k ≤ s.ceiling := by
  classical
  have hceiling : 1 ≤ s.ceiling ∧ s.IsLast s.ceiling (replies s.ceiling) := by
    refine ⟨Nat.le_max_left .., ?_⟩
    cases replies s.ceiling with
    | ok response => trivial
    | error failure => exact Or.inr rfl
  have hex : ∃ n, 1 ≤ n ∧ s.IsLast n (replies n) := ⟨_, hceiling⟩
  exact ⟨Nat.find hex, ⟨Nat.find_spec hex, fun n hn => Nat.find_min' hex hn⟩,
    Nat.find_min' hex hceiling⟩

end RetrySettings

namespace Client

theorem ofAction_of_body {settings : Settings} {a : Action} {body : Option String}
    (h : a.body = .ok body) (o : Options) : ∃ e, Encoded.ofAction settings a o = .ok e := by
  unfold Encoded.ofAction
  rw [h]
  exact ⟨_, rfl⟩

/-- The failure of an attempt, with the number of the attempt. -/
def failed? (n : Nat) : Reply → Option (Failure × Nat)
  | .ok _ => none
  | .error failure => some (failure, n)

/-- The questions are numbered like the replies that they are about. -/
theorem questions_toNat (replies : Nat → Reply) {k : Nat} (hk : k < UInt32.size) :
    ((List.range k).filterMap fun j => question? (j + 1) (replies (j + 1))).map
        (fun q => (q.1, q.2.toNat)) =
      (List.range' 1 k).filterMap fun n => failed? n (replies n) := by
  rw [List.map_filterMap, List.range'_eq_map_range, List.filterMap_map]
  apply List.filterMap_congr
  intro j hj
  have hj := List.mem_range.1 hj
  have hto : (UInt32.ofNat (j + 1)).toNat = j + 1 :=
    UInt32.toNat_ofNat_of_lt' (Nat.lt_of_le_of_lt hj hk)
  rw [Function.comp_apply, Nat.add_comm 1 j]
  cases replies (j + 1) with
  | ok response => rfl
  | error failure =>
    show some (failure, (UInt32.ofNat (j + 1)).toNat) = some (failure, j + 1)
    rw [hto]

/-- **The law of attempts.** A request of an open client makes exactly as many attempts
as the number of the first one that is the last, at the most the ceiling. What it comes
to is what the last reply says: the answer read from a delivered response, an error
that names the server of the last attempt if that server refused the connection, and
the failure itself otherwise. The policy is told each failure with the number of its
attempt. -/
theorem execute_attempts (s : RetrySettings) (c : Client) (a : Action) (o : Options)
    (replies : Nat → Reply) {body : Option String} (hbody : a.body = .ok body)
    (hopen : c.closed = false) (hmembers : c.roster.pool.members ≠ []) :
    ∃ retry, s.policy = .ok retry ∧ (c.settings.retry = retry →
      ∃ k outcome c' sent request,
        IsLeast {n | 1 ≤ n ∧ s.IsLast n (replies n)} k ∧ k ≤ s.ceiling ∧
        c.execute (answering replies) [] a o = (outcome, c', sent) ∧
        sent.length = k ∧ sent.getLast? = some request ∧
        outcome =
          (match replies k with
          | .ok response => a.interpret response request.url
          | .error failure => .error
            (if failure.kind = .connectRefused then .couldNotConnect request.server failure
            else .transport failure)) ∧
        (questions (answering replies) [] (c.start a o).1 (c.start a o).2).map
            (fun q => (q.1, q.2.toNat)) =
          (List.range' 1 k).filterMap fun n => failed? n (replies n)) := by
  obtain ⟨retry, hpolicy, hrepeats⟩ := s.policy_repeats
  refine ⟨retry, hpolicy, fun hretry => ?_⟩
  obtain ⟨k, hleast, hk⟩ := s.exists_isLeast_isLast replies
  -- Attempts are counted from one, the replies that are repeated after from none.
  obtain ⟨i, rfl⟩ : ∃ i, k = i + 1 := ⟨k - 1, by have := hleast.1.1; omega⟩
  obtain ⟨e, he⟩ : ∃ e, Encoded.ofAction c.settings a o = .ok e := ofAction_of_body hbody o
  choose servers hturn using fun j => Pool.exists_turn? hmembers j
  have hrep : ∀ j < i,
      c.settings.retry.repeats (UInt32.ofNat (j + 1)) (e.bind (servers j))
        (replies (j + 1)) = true := by
    intro j hj
    rw [hretry, hrepeats _ _ _ (by omega) (by omega)]
    intro hlast
    have := hleast.2 ⟨by omega, hlast⟩
    omega
  have hlast : c.settings.retry.repeats (UInt32.ofNat (i + 1)) (e.bind (servers i))
      (replies (i + 1)) = false := by
    rw [hretry, ← Bool.not_eq_true, hrepeats _ _ _ (by omega) hk, not_not]
    exact hleast.1.2
  obtain ⟨⟨c', hexec⟩, hasked⟩ := execute_eq hopen he (fun j _ => hturn j) hrep hlast
  refine ⟨i + 1, _, c', _, e.bind (servers i), hleast, hk, hexec, by simp, ?_, ?_, ?_⟩
  · rw [List.range_succ, List.map_append, List.map_singleton, List.getLast?_concat]
  · cases replies (i + 1) with
    | ok response => rfl
    | error failure => simp [Flight.outcome, failureError, FailureKind.isConnectFailure,
        Encoded.bind]
  · rw [hasked]
    exact questions_toNat replies (by have := s.ceiling_lt; omega)

/-- With two attempts allowed, and no kind but that of a time that ran out to be repeated, the
second attempt is made after such a failure, and none after a server has refused the first. -/
theorem execute_attempts_timed_out_once :
    let servers : List Server := [⟨"http://a"⟩, ⟨"http://b"⟩]
    let s : RetrySettings := { maxAttempts := 2, recoverable := [.timeout] }
    let c : Client :=
      { settings := { retry := Retry.upTo 2 [.timeout] }
        roster := ⟨⟨servers, servers, 0⟩, []⟩ }
    let late : Failure := ⟨.timeout, "http://a/", "late"⟩
    let refused : Failure := ⟨.connectRefused, "http://a/", "refused"⟩
    let replies (failure : Failure) : Nat → Reply := fun n =>
      if n = 1 then .error failure else .ok {}
    s.policy.map Retry.toPolicy = .ok c.settings.retry ∧ ping.body = .ok none ∧
      c.closed = false ∧ c.roster.pool.members ≠ [] ∧
      (∃ outcome c' sent, c.execute (answering (replies late)) [] ping {} = (outcome, c', sent) ∧
        sent.length = 2) ∧
      ∃ request c', c.execute (answering (replies refused)) [] ping {} =
        (.error (.couldNotConnect request.server refused), c', [request]) := by
  intro servers s c late refused replies
  have hmembers : c.roster.pool.members ≠ [] := by simp [c, servers]
  refine ⟨rfl, rfl, rfl, hmembers, ?_, ?_⟩
  · obtain ⟨retry, hpolicy, h⟩ := execute_attempts s c ping {} (replies late) rfl rfl hmembers
    have hretry : c.settings.retry = retry := congrArg Retry.toPolicy (Except.ok.inj hpolicy)
    obtain ⟨k, outcome, c', sent, -, hleast, hk, hexec, hlength, -⟩ := h hretry
    refine ⟨outcome, c', sent, hexec, ?_⟩
    have hone : k ≠ 1 := by
      rintro rfl
      exact absurd hleast.1.2
        (by simp [replies, late, s, RetrySettings.IsLast, RetrySettings.Recovers,
          RetrySettings.ceiling])
    have hpos : 1 ≤ k := hleast.1.1
    have hle : k ≤ 2 := hk
    omega
  · obtain ⟨retry, hpolicy, h⟩ := execute_attempts s c ping {} (replies refused) rfl rfl hmembers
    have hretry : c.settings.retry = retry := congrArg Retry.toPolicy (Except.ok.inj hpolicy)
    obtain ⟨k, outcome, c', sent, request, hleast, -, hexec, hlength, hrequest, houtcome, -⟩ :=
      h hretry
    have hlast : s.IsLast 1 (replies refused 1) :=
      Or.inl (by simp [s, refused, RetrySettings.Recovers])
    obtain rfl : k = 1 := Nat.le_antisymm (hleast.2 ⟨Nat.le_refl 1, hlast⟩) hleast.1.1
    obtain ⟨only, rfl⟩ := List.length_eq_one_iff.1 hlength
    obtain rfl : only = request := Option.some.inj hrequest
    exact ⟨only, c', hexec.trans (by rw [houtcome]; rfl)⟩

end Client

end Failover
