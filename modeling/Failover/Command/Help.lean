import Failover.Command.Line

/-!
# Help texts

What is printed when help or the version is asked for. A help text says what a
command does, how it is written, and what its values and options are; options are
explained on a line of their own.
-/

namespace Failover.Command

/-- The name under which the program is called. -/
def programName : String := "trellis"

def versionLine : String := s!"{programName} 0.1.0"

/-- What the program is for. -/
def purpose : String :=
  "Trellis CLI - query and watch search clusters through a failover client"

/-- The variable of the environment that names a configuration file. -/
def environmentName : String := "TRELLIS_CONFIG"

/-- Terms with explanations beside them, aligned. -/
def glossary (terms : List (String × String)) : List String :=
  let width := terms.foldl (fun n (term, _) => max n term.length) 0
  terms.map fun (term, text) => "  " ++ term.pushn ' ' (width + 2 - term.length) ++ text

/-- What is said about a setting, with the value that it has by itself. -/
def explanation (environment : Option String) (s : Setting) : String :=
  match s, s.default? with
  | .config, _ =>
    let path := environment.getD ""
    s!"{s.help} [env: {environmentName}={path}]"
  | _, some value => s!"{s.help} [default: {value}]"
  | _, none => s.help

/-- The lines on an option. -/
def optionLines (short : Option Char) (usage explanation : String) : List String :=
  let head := match short with
    | some c => String.ofList [' ', ' ', '-', c, ',', ' ', '-', '-']
    | none => "      " ++ "--"
  [head ++ usage, "          " ++ explanation]

/-- The lines on options, and on asking for help. -/
def optionsSection (environment : Option String) (settings : List Setting) : List String :=
  "Options:" ::
    (settings.flatMap fun s =>
      optionLines s.short? s!"{s.long} <{s.placeholder}>" (explanation environment s)) ++
    optionLines (some 'h') "help" "Print help"

/-- How a command is written. -/
def usage (n : Name) : String :=
  " ".intercalate ([programName, n.text, "[OPTIONS]"] ++ n.arguments.map (·.1))

def helpOnCommand : String := "Print this message or the help of the given subcommand(s)"

/-- The help text on a command, or on all of them. -/
def helpText (environment : Option String) : Option Name → List String
  | some n =>
    [n.help, "", s!"Usage: {usage n}", ""] ++
      (if n.arguments.isEmpty then [] else "Arguments:" :: glossary n.arguments ++ [""]) ++
      optionsSection environment n.settings
  | none =>
    [purpose, "", s!"Usage: {programName} [OPTIONS] <COMMAND>", "", "Commands:"] ++
      glossary (Name.all.map (fun n => (n.text, n.help)) ++ [("help", helpOnCommand)]) ++ [""] ++
      optionsSection environment Setting.shared ++
      optionLines (some 'V') "version" "Print version"

/-- The help text on asking for help. -/
def helpOnHelpText : List String :=
  [helpOnCommand, "", s!"Usage: {programName} help [COMMAND]...", "", "Arguments:"] ++
    glossary [("[COMMAND]...", "Print help for the subcommand(s)")]

/-- What is printed instead of carrying anything out. What is said about misuse is not
for the standard output. -/
def Stop.lines (environment : Option String) : Stop → List String
  | version => [versionLine]
  | help command => helpText environment command
  | helpOnHelp => helpOnHelpText
  | misuse => []

/-- The number with which the program ends when nothing was carried out. -/
def Stop.exitCode : Stop → Nat
  | misuse => 2
  | _ => 0

end Failover.Command
