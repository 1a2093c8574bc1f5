import SchemaScaffold.Url.Domain
import SchemaScaffold.Url.Error
import SchemaScaffold.Url.Ipv4
import SchemaScaffold.Url.Ipv6
import SchemaScaffold.Url.Percent

/-!
# Hosts

The machine that an address names. Schemes of the web know domains and numeric addresses; any
other scheme takes names as they are.
-/

namespace SchemaScaffold
namespace Url

/-- A host. -/
inductive Host where
  | name (value : List Char)
  | ipv4 (octets : List Nat)
  | ipv6 (pieces : List Nat)
deriving DecidableEq, Repr

namespace Host

/-- The host as it is written. -/
def text : Host → List Char
  | name value => value
  | ipv4 octets => Ipv4.text octets
  | ipv6 pieces => '[' :: (Ipv6.text pieces ++ [']'])

/-- Read the address between brackets. -/
def ofBrackets (host : List Char) : Except Fault Host :=
  if host.getLast? = some ']' then
    match Ipv6.ofText? (host.drop 1).dropLast with
    | some pieces => .ok (.ipv6 pieces)
    | none => .error .invalidIpv6
  else .error .invalidIpv6

/-- Read the host of a web address, or of a file. -/
def ofDomain (host : List Char) : Except Fault Host :=
  if host.head? = some '[' then ofBrackets host
  else
    match (Percent.decode? host).bind Domain.toAscii? with
    | none => .error .invalidDomain
    | some domain =>
      if domain.isEmpty then .error .emptyHost
      else if Ipv4.isExpected domain then
        match Ipv4.ofHost? domain with
        | some octets => .ok (.ipv4 octets)
        | none => .error .invalidIpv4
      else .ok (.name domain)

/-- Characters that no host may have. -/
def isForbidden (c : Char) : Bool :=
  c == '\x00' || c == '\t' || c == '\n' || c == '\r' || c == ' ' || c == '#' || c == '/' ||
    c == ':' || c == '<' || c == '>' || c == '?' || c == '@' || c == '[' || c == '\\' ||
    c == ']' || c == '^' || c == '|'

/-- Read the host of an address of any other scheme. -/
def ofName (host : List Char) : Except Fault Host :=
  if host.head? = some '[' then ofBrackets host
  else if host.any isForbidden then .error .invalidHostChar
  else .ok (.name (Percent.encode (fun c => 0x20 ≤ c.toNat && c.toNat < 0x7F) host))

end Host
end Url
end SchemaScaffold
