import Failover.Json.Expect
import Failover.Text.Listing

/-!
# Credentials

A user name and, with it, perhaps a password. What is shown of credentials says
whether there is a password and nothing about it: `shown_eq` is the reason why no
log or error can give one away.
-/

namespace Failover

/-- A user name and perhaps a password. -/
structure Credentials where
  username : String
  password : Option String
  deriving DecidableEq, Repr

namespace Credentials

open Json

/-- What may be shown of credentials. -/
def shown (c : Credentials) : String :=
  Text.Listing.record "Credentials"
    [("username", Text.quoted c.username),
      ("password", Text.Listing.optional (c.password.map fun _ => Text.quoted "<redacted>"))]

/-- Which password it is makes no difference to what is shown. -/
theorem shown_eq {c d : Credentials} (h : c.username = d.username)
    (hp : c.password.isSome = d.password.isSome) : c.shown = d.shown := by
  unfold shown
  rw [h]
  obtain ⟨_, _ | _⟩ := c <;> obtain ⟨_, _ | _⟩ := d <;> simp_all

/-- The written form, the user name first. -/
def toJson (c : Credentials) : Value :=
  .object [("username", .string c.username),
    ("password", match c.password with
      | some p => .string p
      | none => .null)]

/-- Credentials as a record of two members, of which the second may be missing. -/
def record : Record (Option String) :=
  { title := "Credentials"
    members :=
      [("username", fun c => (readText "a string" c).map (·.map some), none),
        ("password", readOptional (readText "a string"), some none)] }

/-- Reads credentials from a text. -/
def ofJsonText (text : String) : Except Json.Error Credentials :=
  (Reader.run record.read text).map fun
    | [some username, password] => ⟨username, password⟩
    | _ => ⟨"", none⟩

end Credentials

end Failover
