import Failover.Request

/-!
# Retry policies

A policy is asked after every failed attempt whether there shall be another one.
It is told the failure, how many attempts were made, the failed one included, and the
request that failed. A policy holds nothing that changes, so the same question always
gets the same answer.

A caller may bring a policy of any kind. Two kinds are at hand (`Retry`): the one that
never wants another attempt, and one with a ceiling, which makes at most that many
attempts, and only after failures of the kinds that it was given.
-/

namespace Failover

/-- Whether there shall be another attempt after so many of them, the last of which failed
in this way with this request. Attempts are counted in 32 bits, and a policy wants none
that could not be counted. -/
structure RetryPolicy where
  again : Failure → UInt32 → Request → Bool
  counted : ∀ failure attempts request, again failure attempts request = true →
    attempts + 1 ≠ 0

/-- The policies at hand. -/
inductive Retry where
  /-- Never. -/
  | never
  /-- After failures of these kinds, until so many attempts were made. -/
  | upTo (attempts : UInt32) (kinds : List FailureKind)
  deriving DecidableEq, Repr

namespace Retry

/-- What keeps a policy from being made. -/
inductive Fault where
  | noAttempts
  | noKinds
  deriving DecidableEq, Repr

def Fault.message : Fault → String
  | noAttempts => "max_attempts must be at least 1"
  | noKinds => "recoverable failure kinds must not be empty"

/-- The policy with a ceiling and some kinds, both of them necessary. -/
def upTo? (attempts : UInt32) (kinds : List FailureKind) : Except Fault Retry :=
  if attempts = 0 then .error .noAttempts
  else if kinds.isEmpty then .error .noKinds
  else .ok (.upTo attempts kinds)

/-- There shall be another attempt after `attempts` of them, the last of which
failed in this way. -/
def again (r : Retry) (kind : FailureKind) (attempts : UInt32) : Bool :=
  match r with
  | never => false
  | upTo ceiling kinds => attempts < ceiling && kinds.contains kind

/-- After an attempt below a ceiling there is a number for the next. -/
theorem counted_of_again {r : Retry} {kind : FailureKind} {attempts : UInt32}
    (h : r.again kind attempts = true) : attempts + 1 ≠ 0 := by
  cases r with
  | never => cases h
  | upTo ceiling kinds =>
    intro h0
    simp only [again, Bool.and_eq_true, decide_eq_true_eq] at h
    have h1 := UInt32.lt_iff_toNat_lt.1 h.1
    have h2 := ceiling.toNat_lt
    have h3 := congrArg UInt32.toNat h0
    rw [UInt32.toNat_add, UInt32.toNat_one, UInt32.toNat_zero] at h3
    omega

/-- What a policy at hand says. It looks at the kind of a failure only. -/
def toPolicy (r : Retry) : RetryPolicy where
  again failure attempts _ := r.again failure.kind attempts
  counted _ _ _ := counted_of_again

instance : Coe Retry RetryPolicy := ⟨toPolicy⟩

instance : Coe (Option Retry) (Option RetryPolicy) := ⟨Option.map toPolicy⟩

end Retry

/-- An attempt that is wanted has the next number. -/
theorem RetryPolicy.toNat_of_again {p : RetryPolicy} {failure : Failure} {attempts : UInt32}
    {request : Request} (h : p.again failure attempts request = true) :
    (attempts + 1).toNat = attempts.toNat + 1 := by
  have hlt := attempts.toNat_lt
  have hne : (attempts + 1).toNat ≠ 0 := fun h0 =>
    p.counted failure attempts request h (UInt32.toNat_inj.1 h0)
  rw [UInt32.toNat_add, UInt32.toNat_one] at hne ⊢
  omega

/-- What a configuration says about retries. -/
structure RetrySettings where
  maxAttempts : UInt32 := 0
  recoverable : List FailureKind := []
  deriving DecidableEq, Repr

/-- The kinds that are retried: the usual ones where none are named. -/
def RetrySettings.kinds (s : RetrySettings) : List FailureKind :=
  if s.recoverable.isEmpty then FailureKind.usuallyRecoverable else s.recoverable

/-- The policy of a configuration; a ceiling of one attempt or none is no retry. -/
def RetrySettings.policy (s : RetrySettings) : Except Retry.Fault Retry :=
  if s.maxAttempts ≤ 1 then .ok .never else Retry.upTo? s.maxAttempts s.kinds

end Failover
