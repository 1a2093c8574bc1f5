/-!
# Faults of addresses

What can be wrong with a text that should be an absolute address.
-/

namespace SchemaScaffold
namespace Url

/-- The reason why a text is no address. -/
inductive Fault where
  | emptyHost
  | invalidDomain
  | invalidPort
  | invalidIpv4
  | invalidIpv6
  | invalidHostChar
  | noScheme
deriving DecidableEq, Repr

/-- The fault in words. -/
def Fault.message : Fault → String
  | .emptyHost => "empty host"
  | .invalidDomain => "invalid international domain name"
  | .invalidPort => "invalid port number"
  | .invalidIpv4 => "invalid IPv4 address"
  | .invalidIpv6 => "invalid IPv6 address"
  | .invalidHostChar => "invalid domain character"
  | .noScheme => "relative URL without a base"

end Url
end SchemaScaffold
