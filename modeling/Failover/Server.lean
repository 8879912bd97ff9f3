import Failover.Text.Blank
import Failover.Url.Basic

/-!
# Servers

A server is the base address of one node of a cluster: scheme, host, port where
it is not the scheme's own, and perhaps a path in front of every request path.
Addresses are normalised when they are read, so that two spellings of one address
are one server: `HTTP://Node1:80/` and `node1` both read as `http://node1`.

User information, query and fragment of an address are ignored.
-/

namespace Failover

/-- The base address of a node, in its normalised spelling. -/
structure Server where
  base : String
  deriving DecidableEq

namespace Server

open Text

/-- Why a text is no server address. -/
inductive ParseError where
  | blank
  | malformed (address : String) (cause : Url.ParseError)
  | unsupported (address : String) (scheme : String)
  deriving DecidableEq

def ParseError.message : ParseError → String
  | blank => "empty address"
  | malformed address cause => s!"'{address}': {cause.message}"
  | unsupported address scheme => s!"'{address}': unsupported scheme '{scheme}'"

/-- The text holds a scheme's `://` somewhere. -/
def hasSchemeMark : List Char → Bool
  | ':' :: '/' :: '/' :: _ => true
  | [] => false
  | _ :: r => hasSchemeMark r

/-- The URL that a trimmed address stands for: `http` is the scheme of those
without one. -/
def addressUrl (address : List Char) : List Char :=
  if hasSchemeMark address then address else "http://".toList ++ address

/-- The schemes that requests can be sent over. -/
def isHttp (scheme : List Char) : Bool :=
  scheme == "http".toList || scheme == "https".toList

/-- Without the slashes at the end. -/
def dropTrailingSlashes (cs : List Char) : List Char :=
  (cs.reverse.dropWhile (· == '/')).reverse

/-- The base address of a URL: what comes before its query, without user
information and without slashes at the end. -/
def ofUrl (u : Url) : Server :=
  let place : Url := { u with username := [], password := none }
  ⟨String.ofList (u.scheme ++ [':'] ++ place.writeAuthority ++ dropTrailingSlashes u.path.write)⟩

/-- Reads and normalises an address. -/
def parse (address : String) : Except ParseError Server :=
  let trimmed := trim address.toList
  if trimmed.isEmpty then .error .blank
  else
    match Url.parse (addressUrl trimmed) with
    | .error e => .error (.malformed address e)
    | .ok u =>
      if isHttp u.scheme then .ok (ofUrl u)
      else .error (.unsupported address (String.ofList u.scheme))

/-- The URL of a path at this server. A path that does not begin with a slash
gets one; the empty path is the base address itself. -/
def urlFor (s : Server) (path : String) : String :=
  match path.toList with
  | [] => s.base
  | '/' :: _ => s.base ++ path
  | _ => s.base ++ "/" ++ path

/-- Each server once, where it comes first. -/
def distinct (servers : List Server) : List Server :=
  servers.foldl (fun seen s => if s ∈ seen then seen else seen ++ [s]) []

/-- Reads addresses in order; the first that is none is the error of the list. -/
def parseAll (addresses : List String) : Except ParseError (List Server) :=
  (addresses.mapM parse).map distinct

end Server

end Failover
