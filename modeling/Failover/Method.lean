/-!
# Request methods

The five methods of the cluster's interface. A method is named in capitals and
recognised in any case. `HEAD` asks for the headers of an answer, so no body goes
with it.
-/

namespace Failover

/-- A request method. -/
inductive Method where
  | get
  | post
  | put
  | delete
  | head
  deriving DecidableEq, Repr

namespace Method

def all : List Method := [get, post, put, delete, head]

def name : Method → String
  | get => "GET"
  | post => "POST"
  | put => "PUT"
  | delete => "DELETE"
  | head => "HEAD"

/-- The name under which a method is listed. -/
def title : Method → String
  | get => "Get"
  | post => "Post"
  | put => "Put"
  | delete => "Delete"
  | head => "Head"

/-- A name in ASCII capitals; other letters stay as they are. -/
def capitals (s : String) : String :=
  String.ofList (s.toList.map Char.toUpper)

/-- The method of a name in any case. -/
def ofName? (name : String) : Option Method :=
  all.find? (·.name == capitals name)

/-- The method of a name in capitals. -/
def ofExactName? (name : String) : Option Method :=
  all.find? (·.name == name)

/-- A body may be sent with the method. -/
def allowsBody (m : Method) : Bool := m != head

theorem ofExactName?_name (m : Method) : ofExactName? m.name = some m := by
  cases m <;> decide

end Method

end Failover
