import Failover.Command.Help
import Failover.Command.Run
import Failover.Http.Connection

/-!
# The command

Carries out the plan of a command line: reads the one file that it may name, makes
the exchanges over the network, waits between discovery runs, and prints. What is
asked and what is printed is decided elsewhere.
-/

namespace Failover.Main

open Command Http

/-- What an error of the file system means for a configuration. -/
def fileFault (e : IO.Error) : Config.FileFault :=
  match Connection.code e with
  | 2 => .missing
  | 20 => .noDirectory
  | 21 => .directory
  | _ => .other (toString e)

/-- Reads a file. -/
def readFile (path : String) : IO (Except Config.FileFault Bytes) := do
  try
    return .ok (← IO.FS.readBinFile path).toList
  catch e => return .error (fileFault e)

/-- The reply to an attempt. -/
def reply (limits : Connection.Limits) (r : Request) : IO Reply := do
  let answer ← match Outgoing.ofRequest r with
    | .ok o => Connection.exchange limits o
    | .error e => pure (.error e)
  return answer.mapError (·.failure r.url)

/-- Answers the attempts of a request until it has ended. -/
partial def settle (limits : Connection.Limits) (c : Client) : Progress → IO (Outcome × Client)
  | .ended outcome => return (outcome, c)
  | .waiting f => do
    let (c, progress) := c.resume f (← reply limits f.request)
    settle limits c progress

/-- Executes a request. -/
def execute (limits : Connection.Limits) (c : Client) (a : Action) : IO (Outcome × Client) :=
  let (c, progress) := c.start a {}
  settle limits c progress

/-- The time since a moment, in milliseconds with a tenth. -/
def elapsed (start : Nat) : IO String := do
  let tenths := ((← IO.monoNanosNow) - start + 50000) / 100000
  return s!"{tenths / 10}.{tenths % 10}"

def printLines (lines : List String) : IO Unit := do
  let out ← IO.getStdout
  lines.forM out.putStrLn
  out.flush

/-- Runs discovery again and again, with pauses of so many seconds. -/
partial def watch (limits : Connection.Limits) (s : System) (interval : Nat) (count : Option Nat)
    (number : Nat) (c : Client) : IO Unit := do
  let (outcome, c) ← execute limits c s.question
  let (c, result) := Discovery.conclude s.scheme c outcome
  if result = .clientGone then return
  printLines [watchLine (number + 1) result c]
  if goesOn count (number + 1) then
    IO.sleep (UInt32.ofNat (min (1000 * interval) (UInt32.size - 1)))
    watch limits s interval count (number + 1) c

/-- Carries out a plan. -/
def carryOut (limits : Connection.Limits) : Plan → IO Output
  | .ask system action print => do
    let start ← IO.monoNanosNow
    let (outcome, _) ← execute limits system.client action
    return print (← elapsed start) outcome
  | .watch system interval count => do
    printLines [watchHead system.client]
    watch limits system interval count 0 system.client
    return {}

/-- Carries out an invocation. -/
def invoke (i : Invocation) : IO Output := do
  let file ← match i.config with
    | some path => readFile path
    | none => pure (.error .missing)
  match i.configuration fun _ => file with
  | .error t => return .ofTrouble t
  | .ok c =>
    match i.task.plan c with
    | .error t => return .ofTrouble t
    | .ok p => carryOut ⟨c.connectTimeout.toNat, c.readTimeout.toNat⟩ p

/-- What is said about misuse. -/
def advice : String :=
  s!"Usage: {programName} [OPTIONS] <COMMAND>\n\nFor more information, try '--" ++ "help'."

/-- Prints what is asked for instead of carrying anything out. -/
def halt (environment : Option String) (stop : Stop) : IO UInt32 := do
  printLines (stop.lines environment)
  if stop = .misuse then (← IO.getStderr).putStrLn advice
  return UInt32.ofNat stop.exitCode

end Failover.Main

def main (arguments : List String) : IO UInt32 := do
  let environment ← IO.getEnv Failover.Command.environmentName
  match Failover.Command.Invocation.ofArguments environment arguments with
  | .error stop => Failover.Main.halt environment stop
  | .ok i =>
    let output ← Failover.Main.invoke i
    Failover.Main.printLines output.lines
    match output.trouble with
    | some t => (← IO.getStderr).putStr t.report
    | none => pure ()
    return UInt32.ofNat output.exitCode
