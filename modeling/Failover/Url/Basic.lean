import Failover.Url.Host
import Failover.Url.Path

/-!
# URLs

A URL in its parts, the reading of one from text, and its normalised text. The
reading forgives what a browser forgives (white space around and inside,
backslashes for slashes, missing or surplus slashes after `http:`) and refuses
what has no meaning: a relative reference, an empty host, a port out of range.

The authority ends at the first slash behind `//`, before anything in the path,
query or fragment is looked at. No path can therefore change the host.
-/

namespace Failover

namespace Url

/-- How a scheme's URLs are read. -/
inductive SchemeKind where
  | file
  | special
  | other
  deriving DecidableEq

/-- The port that a special scheme means when none is given. -/
def defaultPort? (scheme : List Char) : Option Nat :=
  if scheme = ['h', 't', 't', 'p'] ∨ scheme = ['w', 's'] then some 80
  else if scheme = ['h', 't', 't', 'p', 's'] ∨ scheme = ['w', 's', 's'] then some 443
  else if scheme = ['f', 't', 'p'] then some 21
  else none

def SchemeKind.of (scheme : List Char) : SchemeKind :=
  if scheme = ['f', 'i', 'l', 'e'] then .file
  else if (defaultPort? scheme).isSome then .special
  else .other

/-- What follows the authority: segments, or for `mailto:` and its like a text
without structure. -/
inductive Path where
  | segments (list : List (List Char))
  | plain (text : List Char)
  deriving DecidableEq

end Url

/-- A URL in its parts, all of them normalised and percent-encoded. An empty
domain name is the host of a URL that has `//` and nothing behind it. -/
structure Url where
  scheme : List Char
  username : List Char
  password : Option (List Char)
  host : Option Url.Host
  port : Option Nat
  path : Url.Path
  query : Option (List Char)
  fragment : Option (List Char)
  deriving DecidableEq

namespace Url

open Text

/-! ## Writing -/

/-- The URL names a host. -/
def hasHost (u : Url) : Bool :=
  match u.host with
  | none | some (.domain []) => false
  | some _ => true

/-- User name and password in front of the host. -/
def writeUserinfo (u : Url) : List Char :=
  match u.username, u.password with
  | [], none => []
  | name, none => name ++ ['@']
  | name, some word => name ++ [':'] ++ word ++ ['@']

/-- What stands between the scheme's colon and the path. A path that begins with
an empty segment is kept from looking like an authority. -/
def writeAuthority (u : Url) : List Char :=
  match u.host with
  | some h =>
    ['/', '/'] ++ u.writeUserinfo ++ h.write ++
      match u.port with
      | some p => ':' :: Nat.toDigits 10 p
      | none => []
  | none =>
    match u.path with
    | .segments ([] :: _ :: _) => ['/', '.']
    | _ => []

def Path.write : Path → List Char
  | .segments list => writeSegments list
  | .plain text => text

/-- The normalised text. -/
def write (u : Url) : List Char :=
  u.scheme ++ [':'] ++ u.writeAuthority ++ u.path.write ++
    (match u.query with
      | some q => '?' :: q
      | none => []) ++
    match u.fragment with
      | some f => '#' :: f
      | none => []

def toString (u : Url) : String :=
  String.ofList u.write

/-! ## Reading -/

/-- Controls and the space, which are stripped from both ends of the text. -/
def isEdge (c : Char) : Bool := c.toNat ≤ 0x20

/-- Tabs and line ends, which are removed wherever they stand. -/
def isSkipped (c : Char) : Bool := c == '\t' || c == '\n' || c == '\r'

/-- The characters that are read. -/
def clean (cs : List Char) : List Char :=
  let start := cs.dropWhile isEdge
  ((start.reverse.dropWhile isEdge).reverse).filter (!isSkipped ·)

def isSchemeChar (c : Char) : Bool :=
  c.isAlphanum || c == '+' || c == '-' || c == '.'

/-- The scheme in small letters, and what follows its colon. -/
def splitScheme? (cs : List Char) : Option (List Char × List Char) :=
  match cs with
  | [] => none
  | c :: _ =>
    if c.isAlpha then
      match cs.dropWhile isSchemeChar with
      | ':' :: rest => some ((cs.takeWhile isSchemeChar).map Char.toLower, rest)
      | _ => none
    else none

/-- The character ends the authority. Only special schemes take a backslash for
a slash. -/
def endsAuthority (kind : SchemeKind) (c : Char) : Bool :=
  c == '/' || c == '?' || c == '#' || (kind != .other && c == '\\')

/-- Slashes, of either kind for the special schemes. -/
def isSlash (kind : SchemeKind) (c : Char) : Bool :=
  c == '/' || (kind != .other && c == '\\')

/-- What stands before the last `@` of an authority, if there is one, and what
stands after it. -/
def splitUserinfo (authority : List Char) : Option (List Char) × List Char :=
  let fromEnd := authority.reverse
  match fromEnd.dropWhile (· != '@') with
  | [] => (none, authority)
  | _ :: before => (some before.reverse, (fromEnd.takeWhile (· != '@')).reverse)

/-- User name and password, encoded. A password is what follows the first colon,
unless nothing does. -/
def readUserinfo (info : List Char) : List Char × Option (List Char) :=
  let word := (info.dropWhile (· != ':')).drop 1
  (percentEncode userinfoSet (info.takeWhile (· != ':')),
    if word.isEmpty then none else some (percentEncode userinfoSet word))

/-- Cuts host from port, at the first colon that is not between brackets. -/
def splitHost (bracketed : Bool) : List Char → List Char × List Char
  | [] => ([], [])
  | c :: r =>
    if c == ':' && !bracketed then ([], c :: r)
    else
      let (host, port) := splitHost (c == '[' || (bracketed && c != ']')) r
      (c :: host, port)

/-- The number that the digits write, unless it or a beginning of it is out of range. -/
def readPort? (cs : List Char) : Option Nat :=
  cs.foldlM (fun n c =>
    if c.isDigit && 10 * n + (c.toNat - '0'.toNat) ≤ 65535 then
      some (10 * n + (c.toNat - '0'.toNat))
    else none) 0

/-- The parts of an authority, and what follows it in the text. -/
structure Authority where
  username : List Char
  password : Option (List Char)
  host : Host
  port : Option Nat
  rest : List Char

/-- Reads the authority behind `//`. The colon of a port may have no port behind
it; the port that the scheme means anyway is dropped. -/
def readAuthority (scheme : List Char) (kind : SchemeKind) (cs : List Char) :
    Except ParseError Authority := do
  let authority := cs.takeWhile (!endsAuthority kind ·)
  let after := cs.dropWhile (!endsAuthority kind ·)
  let (info, hostPort) := splitUserinfo authority
  -- An `@` alone is no authority, unless the text ends with it.
  if info == some [] && hostPort.isEmpty && !after.isEmpty then throw .emptyHost
  let (username, password) := readUserinfo (info.getD [])
  let (hostText, portText) := splitHost false hostPort
  let host ← if kind == .special then
      if hostText.isEmpty then throw .emptyHost else Host.parse hostText
    else Host.parseOpaque hostText
  if host == .domain [] && !portText.isEmpty then throw .emptyHost
  -- A backslash ends a port, though it does not end every authority.
  let digits := (portText.drop 1).takeWhile (· != '\\')
  match readPort? digits with
  | none => throw .port
  | some n =>
    if host == .domain [] && (!username.isEmpty || password.isSome) then throw .emptyHost
    -- The digits of a port may be missing, and zeros in front do not count.
    let port := if digits.isEmpty || defaultPort? scheme == some n then none else some n
    return ⟨username, password, host, port, (portText.drop 1).dropWhile (· != '\\') ++ after⟩

/-- What ends a path, or a query. -/
def endsPath (c : Char) : Bool := c == '?' || c == '#'

/-- Query and fragment behind a path. -/
def readTail (kind : SchemeKind) (cs : List Char) : Option (List Char) × Option (List Char) :=
  let querySet := if kind == .other then querySet else specialQuerySet
  let fragment := match cs.dropWhile (· != '#') with
    | [] => none
    | _ :: f => some (percentEncode fragmentSet f)
  match cs with
  | '?' :: q => (some (percentEncode querySet (q.takeWhile (· != '#'))), fragment)
  | _ => (none, fragment)

/-- The segments of a path that follows an authority. Special schemes always have
one; others have none where the text ends at once. -/
def readSegments (kind : SchemeKind) (text : List Char) : List (List Char) :=
  match text with
  | [] => if kind == .other then [] else [[]]
  | c :: r => normalise (splitOn (isSlash kind) (if isSlash kind c then r else c :: r))

/-- A drive letter of a file path: it counts as a root. -/
def isDrive (s : List Char) : Bool :=
  match s with
  | [a, b] => a.isAlpha && (b == ':' || b == '|')
  | _ => false

/-- The segments of a file path: empty ones in front are dropped, and a drive
letter in front has a colon and is not left. -/
def readFileSegments (text : List Char) : List (List Char) :=
  let raw := splitOn (isSlash .file) (if text.head?.any (isSlash .file) then text.drop 1 else text)
  let finished := match raw.dropWhile (·.isEmpty) with
    | s :: more =>
      if isDrive s && !more.isEmpty then (s.take 1 ++ [':']) :: normalise more
      else if isDrive s then [s.take 1 ++ [':']]
      else normalise (s :: more)
    | [] => [[]]
  match finished.dropWhile (·.isEmpty) with
  | [] => [[]]
  | ss => ss

/-- A URL from its parts up to the path, and the text behind the path. -/
def withTail (kind : SchemeKind) (u : Url) (tail : List Char) : Url :=
  let (query, fragment) := readTail kind tail
  { u with query := query, fragment := fragment }

/-- Reads what follows an authority of a scheme that is not `file`. -/
def ofAuthority (scheme : List Char) (kind : SchemeKind) (a : Authority) : Url :=
  withTail kind
    { scheme := scheme, username := a.username, password := a.password, host := some a.host
      port := a.port, path := .segments (readSegments kind (a.rest.takeWhile (!endsPath ·)))
      query := none, fragment := none }
    (a.rest.dropWhile (!endsPath ·))

/-- Reads what follows `file:`. A host is looked for behind two slashes, and
`localhost` is the same as none. -/
def readFile (cs : List Char) : Except ParseError Url := do
  let finish (host : Host) (rest : List Char) : Url :=
    withTail .file
      { scheme := ['f', 'i', 'l', 'e'], username := [], password := none, host := some host
        port := none, path := .segments (readFileSegments (rest.takeWhile (!endsPath ·)))
        query := none, fragment := none }
      (rest.dropWhile (!endsPath ·))
  match cs with
  | a :: b :: rest =>
    if isSlash .file a && isSlash .file b then
      let name := rest.takeWhile (!endsAuthority .file ·)
      if isDrive name || name.isEmpty then return finish (.domain []) rest
      else
        let host ← Host.parse name
        let host := if host == .domain ("localhost".toList) then .domain [] else host
        return finish host (rest.dropWhile (!endsAuthority .file ·))
    else return finish (.domain []) cs
  | _ => return finish (.domain []) cs

/-- Reads an absolute URL. -/
def parse (text : List Char) : Except ParseError Url :=
  match splitScheme? (clean text) with
  | none => .error .noScheme
  | some (scheme, rest) =>
    match SchemeKind.of scheme with
    | .file => readFile rest
    | .special =>
      (readAuthority scheme .special (rest.dropWhile (isSlash .special))).map
        (ofAuthority scheme .special)
    | .other =>
      match rest with
      | '/' :: '/' :: after => (readAuthority scheme .other after).map (ofAuthority scheme .other)
      | _ =>
        let path := match rest.takeWhile (!endsPath ·) with
          | '/' :: p => Path.segments (normalise (splitOn (· == '/') p))
          | p => Path.plain (percentEncode controlSet p)
        .ok (withTail .other
          { scheme := scheme, username := [], password := none, host := none, port := none
            path := path, query := none, fragment := none }
          (rest.dropWhile (!endsPath ·)))

/-- Reads an absolute URL given as a string. -/
def ofString (s : String) : Except ParseError Url :=
  parse s.toList

end Url

end Failover
