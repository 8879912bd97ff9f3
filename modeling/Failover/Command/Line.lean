import Failover.Command.Option

/-!
# Reading a command line

A word is a command, a value, or an option: `--name value`, `--name=value`, `-n
value`, `-nvalue` or `-n=value`. Behind a lone `--` all words are values. What is
given behind the command counts more than what is given in front of it, and both
count more than the environment.
-/

namespace Failover.Command

/-- What is asked for. -/
inductive Task where
  | ping
  | nodes (filter : String)
  | request (method path : String) (body : Option String)
  /-- Discovery runs every so many seconds, a number of times or until interrupted. -/
  | watch (interval : Nat) (count : Option Nat)
  deriving DecidableEq, Repr

/-- A command line that makes sense. -/
structure Invocation where
  /-- The path of a configuration file. -/
  config : Option String
  servers : List String
  maxAttempts : Option UInt32
  task : Task
  deriving DecidableEq, Repr

/-- What keeps a command line from being carried out. -/
inductive Stop where
  | version
  /-- Help is asked for, on a command or on all of them. -/
  | help (command : Option Name)
  /-- Help is asked for on asking for help. -/
  | helpOnHelp
  | misuse
  deriving DecidableEq, Repr

/-- The words that were read on one side of the command. -/
structure Side where
  given : List (Setting × String) := []
  values : List String := []

namespace Side

def valuesOf (s : Side) (name : Setting) : List String :=
  (s.given.filter (·.1 = name)).map (·.2)

def value? (s : Side) (name : Setting) : Option String := (s.valuesOf name).head?

/-- Notes a setting, if it can have the value and need not be unique. -/
def set (s : Side) (name : Setting) (value : String) : Except Stop Side :=
  if !name.accepts value || (!name.isRepeatable && (s.value? name).isSome) then .error .misuse
  else .ok { s with given := s.given ++ [(name, value)] }

end Side

/-- A word as it is taken by itself. -/
inductive Word where
  /-- A lone `--`. -/
  | escape
  | long (name : String) (value : Option String)
  | short (name : Char) (more : String)
  | plain (text : String)

def Word.of (s : String) : Word :=
  match s.toList with
  | ['-', '-'] => .escape
  | '-' :: '-' :: cs =>
    let name := cs.takeWhile (· != '=')
    .long (String.ofList name)
      (if name.length < cs.length then some (String.ofList (cs.drop (name.length + 1))) else none)
  | '-' :: c :: cs => .short c (String.ofList cs)
  | _ => .plain s

/-- What may stand on one side of the command. -/
structure Shape where
  settings : List Setting
  arguments : Nat := 0
  takesCommand : Bool := false
  /-- The command whose help is shown. -/
  command : Option Name := none

/-- In front of the command. -/
def Shape.front : Shape := { settings := Setting.shared, takesCommand := true }

/-- Behind the command. -/
def Shape.behind (n : Name) : Shape :=
  { settings := n.settings, arguments := n.arguments.length, command := some n }

namespace Shape

def long? (s : Shape) (name : String) : Option Setting := s.settings.find? (·.long == name)

def short? (s : Shape) (name : Char) : Option Setting :=
  s.settings.find? (·.short? == some name)

/-- Whether the word asks for help or for the version. -/
def stop? (s : Shape) (word : Word) : Option Stop :=
  match word with
  | .long "help" none => some (.help s.command)
  | .short 'h' _ => some (.help s.command)
  | .long "version" none => if s.takesCommand then some .version else none
  | .short 'V' _ => if s.takesCommand then some .version else none
  | _ => none

/-- The setting that a word names, and the value that is attached to it. -/
def setting? (s : Shape) (word : Word) : Option (Setting × Option String) :=
  match word with
  | .long name value => (s.long? name).map (·, value)
  | .short name more =>
    (s.short? name).map fun setting =>
      (setting,
        if more.isEmpty then none
        else if more.startsWith "=" then some (String.ofList more.toList.tail)
        else some more)
  | _ => none

/-- Adds a value that stands without an option. -/
def addValue (s : Shape) (side : Side) (value : String) : Except Stop Side :=
  if side.values.length < s.arguments then .ok { side with values := side.values ++ [value] }
  else .error .misuse

end Shape

/-- Reads one side of a command line, up to the command or to the end. -/
def readSide (shape : Shape) (side : Side) :
    List String → Except Stop (Side × Option (String × List String))
  | [] => .ok (side, none)
  | text :: rest =>
    let word := Word.of text
    match shape.stop? word with
    | some stop => .error stop
    | none =>
      match word with
      -- From here on every word is a value.
      | .escape => do return (← rest.foldlM shape.addValue side, none)
      | .plain _ =>
        if shape.takesCommand then .ok (side, some (text, rest))
        else do readSide shape (← shape.addValue side text) rest
      | _ =>
        match shape.setting? word with
        | none => .error .misuse
        | some (name, some value) => do readSide shape (← side.set name value) rest
        | some (name, none) =>
          match rest with
          | [] => .error .misuse
          | value :: rest =>
            -- What looks like an option is not taken for a value.
            match Word.of value with
            | .plain _ => do readSide shape (← side.set name value) rest
            | _ => .error .misuse

/-- Help on what the words behind `help` name. -/
def helpOn : List String → Stop
  | [] => .help none
  | [word] => if word == "help" then .helpOnHelp else
      match Name.ofText? word with
      | some n => .help (some n)
      | none => .misuse
  | _ => .misuse

/-- The task of a command, with its values; both are known to be acceptable. -/
def taskOf (n : Name) (side : Side) : Except Stop Task :=
  match n, side.values with
  | .ping, [] => .ok .ping
  | .nodes, [] => .ok (.nodes ((side.value? .filter).getD "_all"))
  | .request, [method, path] => .ok (.request method path (side.value? .body))
  | .watch, [] =>
    .ok (.watch (((side.value? .interval).bind natural?).getD 10)
      ((side.value? .count).bind natural?))
  | _, _ => .error .misuse

/-- Reads a command line; `environment` is the path of a configuration file that is
named there. -/
def Invocation.ofArguments (environment : Option String) (arguments : List String) :
    Except Stop Invocation := do
  let (front, command) ← readSide .front {} arguments
  match command with
  | none => .error .misuse
  | some (text, rest) =>
    if text == "help" then throw (helpOn rest)
    match Name.ofText? text with
    | none => .error .misuse
    | some n =>
      let (behind, _) ← readSide (.behind n) {} rest
      let task ← taskOf n behind
      -- The environment is looked at for each side that does not name a file.
      let usesEnvironment := (front.value? .config).isNone || (behind.value? .config).isNone
      if usesEnvironment && environment.any (!Setting.config.accepts ·) then throw .misuse
      let value? (name : Setting) := (behind.value? name).or (front.value? name)
      let servers := behind.valuesOf .server
      return {
        config := (value? .config).or environment
        servers := if servers.isEmpty then front.valuesOf .server else servers
        maxAttempts := (value? .maxAttempts).bind attempts?
        task }

end Failover.Command
