import Failover.ClientError
import Failover.Json.Expect

/-!
# Servers in JSON

A server is written as its base address. It is read from any address, which is normalised
like those that come from elsewhere.
-/

namespace Failover.Server

open Json

/-- The written form. -/
def toJson (s : Server) : Value := .string s.base

/-- Reads a server from a text. An address that is none has no place in the text. -/
def ofJsonText (text : String) : Except Json.Error Server :=
  match (readText "a string").run text with
  | .error e => .error e
  | .ok address =>
    (parse address).mapError fun e => ⟨.shape (.refused (ClientError.ofAddress e).message), none⟩

end Failover.Server
