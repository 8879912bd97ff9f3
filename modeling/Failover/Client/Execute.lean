import Failover.Client.Basic

/-!
# Executing one request

A request alone, against a transport that answers at once: each attempt gets its
reply before anything else happens. The transport has a state of its own, so it may
answer the second attempt differently from the first.

The attempts come to an end because a policy wants none that could not be counted: what
is left of the numbers of 32 bits, `remaining`, falls with every attempt.
-/

namespace Failover

/-- What answers requests: from its state and a request, a reply and a new state. -/
abbrev Transport (σ : Type) := σ → Request → Reply × σ

/-- How many replies a request may still wait for, one for each number that an attempt can
still have. -/
def Progress.remaining : Progress → Nat
  | waiting f => UInt32.size - f.attempts.toNat
  | ended _ => 0

namespace Client

theorem dispatch_remaining (c : Client) (e : Encoded) (interpret : Response → String → Outcome)
    (attempts : UInt32) :
    (c.dispatch e interpret attempts).2.remaining ≤ UInt32.size - (attempts + 1).toNat := by
  unfold dispatch
  split <;> simp [finish, Progress.remaining]

/-- A reply leaves fewer replies to wait for. -/
theorem resume_remaining (c : Client) (f : Flight) (reply : Reply) :
    (c.resume f reply).2.remaining < (Progress.waiting f).remaining := by
  have hlt : f.attempts.toNat < UInt32.size := f.attempts.toNat_lt
  unfold resume
  cases reply with
  | ok response =>
    simp only [finish, Progress.remaining]
    omega
  | error failure =>
    simp only
    split
    next h =>
      have hd := dispatch_remaining
        ((c.record (.attemptFailure failure.kind.name f.server.base)).record
          (.retry failure.kind.name)) f.encoded f.interpret f.attempts
      rw [RetryPolicy.toNat_of_again h] at hd
      show _ < UInt32.size - f.attempts.toNat
      omega
    · simp only [finish, Progress.remaining]
      omega

variable {σ : Type}

/-- Answers the attempts of a request until it has ended. -/
def drive (send : Transport σ) (s : σ) (c : Client) : Progress → Outcome × Client × σ
  | .ended outcome => (outcome, c, s)
  | .waiting f =>
    let reply := send s f.request
    let next := c.resume f reply.1
    drive send reply.2 next.1 next.2
termination_by p => p.remaining
decreasing_by exact resume_remaining c f _

/-- Executes a request to its end. -/
def execute (send : Transport σ) (s : σ) (c : Client) (a : Action) (o : Options) :
    Outcome × Client × σ :=
  let first := c.start a o
  drive send s first.1 first.2

end Client

end Failover
