/-!
# Faults of URLs

Why a text is no URL.
-/

namespace VersionedApi

/-- Why a text is no URL, or no reference that a base can resolve. -/
inductive UrlFault where
  /-- It has no scheme and there is no base. -/
  | relativeWithoutBase
  /-- It has no scheme and the base has no hierarchy to resolve it in. -/
  | relativeToOpaqueBase
  /-- It has no host where one is needed. -/
  | emptyHost
  /-- The port is no number or too large. -/
  | invalidPort
  /-- The host ends in a number and is no IPv4 address. -/
  | invalidIpv4
  /-- The host is in brackets and is no IPv6 address. -/
  | invalidIpv6
  /-- The host holds a character that no host may hold. -/
  | invalidDomainCharacter
  /-- The host is no domain name. -/
  | invalidDomainName
deriving DecidableEq, Repr

/-- The wording of a fault. -/
def UrlFault.message : UrlFault → String
  | .relativeWithoutBase => "relative URL without a base"
  | .relativeToOpaqueBase => "relative URL with a cannot-be-a-base base"
  | .emptyHost => "empty host"
  | .invalidPort => "invalid port number"
  | .invalidIpv4 => "invalid IPv4 address"
  | .invalidIpv6 => "invalid IPv6 address"
  | .invalidDomainCharacter => "invalid domain character"
  | .invalidDomainName => "invalid international domain name"

end VersionedApi
