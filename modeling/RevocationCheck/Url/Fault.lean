/-!
# Why a text is no URL
-/

namespace RevocationCheck.Url

/-- Why a text is no URL. -/
inductive Fault
  | relativeWithoutBase
  | emptyHost
  | invalidInternationalName
  | invalidPort
  | invalidIpv4
  | invalidIpv6
  | invalidDomainCharacter
deriving Repr, DecidableEq

/-- The text of a fault. -/
def Fault.message : Fault → String
  | .relativeWithoutBase => "relative URL without a base"
  | .emptyHost => "empty host"
  | .invalidInternationalName => "invalid international domain name"
  | .invalidPort => "invalid port number"
  | .invalidIpv4 => "invalid IPv4 address"
  | .invalidIpv6 => "invalid IPv6 address"
  | .invalidDomainCharacter => "invalid domain character"

end RevocationCheck.Url
