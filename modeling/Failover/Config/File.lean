import Failover.Config.Toml
import Failover.Config.Yaml
import Failover.Request

/-!
# Configuration files

The extension of a file's name says which format it is in; a file without one is in
TOML. The file is read before its name is looked at.
-/

namespace Failover.Config

/-- Why a file could not be read. -/
inductive FileFault where
  | missing
  | directory
  /-- A part of the path that has to be a directory is a file. -/
  | noDirectory
  | notText
  /-- Anything else that the operating system says. -/
  | other (reason : String)
  deriving DecidableEq, Repr

def FileFault.message : FileFault → String
  | missing => "No such file or directory (os error 2)"
  | directory => "Is a directory (os error 21)"
  | noDirectory => "Not a directory (os error 20)"
  | notText => "stream did not contain valid UTF-8"
  | other reason => reason

/-- A way to read files by their paths. -/
abbrev Files := String → Except FileFault Bytes

/-- The last name of a path that says something. -/
def fileName? (path : String) : Option (List Char) :=
  let names := (Text.splitOn (· == '/') path.toList).filter
    fun name => !name.isEmpty && name != ['.']
  match names.getLast? with
  | some name => if name == ['.', '.'] then none else some name
  | none => none

/-- What stands behind the last dot of a name, if anything stands before it. -/
def extension? (path : String) : Option String := do
  let name ← fileName? path
  let behind := (name.reverse.takeWhile (· != '.')).reverse
  if behind.length + 1 < name.length then return String.ofList behind
  else none

/-- Reads a configuration in the format that a path tells of, and checks it. -/
def ofText (path text : String) : Except ClientError Config :=
  match extension? path with
  | some "yaml" | some "yml" => ofYaml text
  | some "toml" | none => ofToml text
  | some extension => .error (.config (.fileExtension extension))

/-- Loads a configuration file. -/
def load (files : Files) (path : String) : Except ClientError Config := do
  let fault (f : FileFault) := ClientError.io f.message
  let bytes ← (files path).mapError fault
  match Text.Utf8.decode? bytes with
  | some cs => ofText path (String.ofList cs)
  | none => .error (fault .notText)

/-- The files of a directory that holds nothing else, by their names. -/
def filesOf (contents : Dict Bytes) : Files := fun path =>
  let names := (Text.splitOn (· == '/') path.toList).filter
    fun name => !name.isEmpty && name != ['.']
  match names with
  | [] => .error (if path.isEmpty then .missing else .directory)
  | name :: more =>
    match contents.get? (String.ofList name) with
    | some bytes =>
      if path.startsWith "/" then .error .missing
      else if more.isEmpty && !path.endsWith "/" then .ok bytes
      else .error .noDirectory
    | none => .error .missing

end Failover.Config
