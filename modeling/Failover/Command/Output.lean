import Failover.ClientError
import Failover.Text.Quoted

/-!
# What a command prints

Lines on the standard output, and perhaps the trouble that kept the command from
being carried out. Trouble is told with its causes, one to a line; if there are
several they are numbered.
-/

namespace Failover.Command

/-- Why a command was not carried out. -/
inductive Trouble where
  /-- The configuration file could not be used. -/
  | configuration (path : String) (error : ClientError)
  /-- Discovery shall run without a pause. -/
  | interval
  /-- There is no such method. -/
  | method (name : String)
  /-- The body is not JSON. -/
  | body (error : Json.Error)
  /-- The client reports an error. -/
  | client (error : ClientError)
  /-- The cluster answered that it failed. -/
  | failed (status : Nat) (reason : String)

namespace Trouble

def message : Trouble → String
  | configuration path _ => s!"Failed to load config from {Text.quoted path}"
  | interval => "--interval must be at least 1 second"
  | method name => s!"Unsupported HTTP method '{name}'"
  | body _ => "Request body is not valid JSON"
  | client error => error.message
  | failed status reason => s!"Request failed ({status}): {reason}"

/-- The causes, the nearest first. -/
def causes : Trouble → List String
  | configuration _ error => error.message :: error.cause?.toList
  | body error => [error.message]
  | client error => error.cause?.toList
  | _ => []

/-- A text in lines, the first behind a mark and the others below it. -/
def indented (mark : String) (text : String) : String :=
  match Text.splitOn (· == '\n') text.toList with
  | [] => mark
  | first :: more =>
    "\n".intercalate ((mark ++ String.ofList first) ::
      more.map fun line => "".pushn ' ' mark.length ++ String.ofList line)

/-- A cause with its number. -/
def numbered (number : Nat) (text : String) : String :=
  let n := toString number
  indented ("".pushn ' ' (5 - n.length) ++ n ++ ": ") text

/-- What is printed on the error output. -/
def report (t : Trouble) : String :=
  let lines := match t.causes with
    | [] => []
    | [cause] => ["", "Caused by:", indented "    " cause]
    | causes => "" :: "Caused by:" :: causes.mapIdx numbered
  "\n".intercalate (s!"Error: {t.message}" :: lines) ++ "\n"

end Trouble

/-- What a command prints, and whether it was carried out. -/
structure Output where
  lines : List String := []
  trouble : Option Trouble := none

namespace Output

def ofTrouble (t : Trouble) : Output := { trouble := some t }

/-- The number with which the program ends. -/
def exitCode (o : Output) : Nat := if o.trouble.isSome then 1 else 0

/-- What is printed on the standard output. -/
def text (o : Output) : String := String.join (o.lines.map (· ++ "\n"))

end Output

end Failover.Command
