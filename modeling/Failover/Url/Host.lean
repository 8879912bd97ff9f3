import Failover.Domain.Name
import Failover.Url.Ipv6
import Failover.Url.Percent

/-!
# Hosts of URLs

A host is a domain name, an IPv4 address or a bracketed IPv6 address. Schemes
that the URL rules know (`http` among them) have hosts with this meaning; under
any other scheme a host that is no IPv6 address is just text.
-/

namespace Failover.Url

/-- Why a text is no URL. -/
inductive ParseError where
  | emptyHost
  | domainName
  | port
  | ipv4
  | ipv6
  | domainCharacter
  | noScheme
  deriving DecidableEq

/-- The wording of an error. -/
def ParseError.message : ParseError → String
  | emptyHost => "empty host"
  | domainName => "invalid international domain name"
  | port => "invalid port number"
  | ipv4 => "invalid IPv4 address"
  | ipv6 => "invalid IPv6 address"
  | domainCharacter => "invalid domain character"
  | noScheme => "relative URL without a base"

/-- The host of a URL. A domain name is in ASCII and in small letters. -/
inductive Host where
  | domain (name : List Char)
  | ipv4 (address : Ipv4)
  | ipv6 (address : Ipv6)
  deriving DecidableEq

namespace Host

/-- The host as it stands in a URL. -/
def write : Host → List Char
  | domain name => name
  | ipv4 a => a.write
  | ipv6 a => ['['] ++ a.write ++ [']']

/-- What stands between brackets, if the text begins with one. -/
def bracketed? : List Char → Option (Except ParseError Host)
  | '[' :: r =>
    if r.getLast? = some ']' then
      match Ipv6.parse? r.dropLast with
      | some a => some (.ok (.ipv6 a))
      | none => some (.error .ipv6)
    else some (.error .ipv6)
  | _ => none

/-- Reads the host of a special scheme. -/
def parse (cs : List Char) : Except ParseError Host :=
  match bracketed? cs with
  | some r => r
  | none =>
    match Domain.toAscii? (percentDecode cs) with
    | none => .error .domainName
    | some name =>
      if name.isEmpty then .error .emptyHost
      else if Ipv4.endsInNumber name then
        match Ipv4.parse? name with
        | some a => .ok (.ipv4 a)
        | none => .error .ipv4
      else .ok (.domain name)

/-- Characters that not even the text of an unknown scheme's host may hold. -/
def isBarred (c : Char) : Bool :=
  ['\x00', '\t', '\n', '\r', ' ', '#', '/', ':', '<', '>', '?', '@', '[', '\\', ']', '^',
    '|'].contains c

/-- Reads the host of any other scheme. -/
def parseOpaque (cs : List Char) : Except ParseError Host :=
  match bracketed? cs with
  | some r => r
  | none =>
    if cs.any isBarred then .error .domainCharacter
    else .ok (.domain (percentEncode controlSet cs))

end Host

end Failover.Url
