import VersionedApi.Url.Address
import VersionedApi.Url.Domain
import VersionedApi.Url.Fault

/-!
# Hosts

A host is a name or a numeric address.  Under a special scheme a name is a domain name: percent
encoding is undone, the name is taken to its ASCII form, and a name that ends in a number must be
an IPv4 address.  Under other schemes a name is kept as it stands, controls and characters outside
ASCII percent-encoded.
-/

namespace VersionedApi.Url

/-- A host. -/
inductive Host where
  /-- A name. -/
  | name (text : String)
  /-- An IPv4 address. -/
  | ipv4 (address : UInt32)
  /-- An IPv6 address, as its eight pieces. -/
  | ipv6 (pieces : List UInt16)
deriving DecidableEq, Repr

namespace Host

/-- The text of a host. -/
def render : Host → String
  | .name text => text
  | .ipv4 address => String.ofList (Ipv4.render address)
  | .ipv6 pieces => String.ofList ('[' :: Ipv6.render pieces ++ [']'])

/-- The address in brackets that a text beginning with a bracket stands for. -/
def parseBracketed (cs : List Char) : Except UrlFault Host :=
  if cs.getLast? ≠ some ']' then .error .invalidIpv6
  else
    match Ipv6.parse? (cs.drop 1).dropLast with
    | some pieces => .ok (.ipv6 pieces)
    | none => .error .invalidIpv6

/-- The domain name that an encoded text stands for. -/
def domainName? (cs : List Char) : Option (List Char) :=
  (Utf8.decode? (Percent.decode (Utf8.encode (String.ofList cs)))).bind fun decoded =>
    Domain.toAscii? decoded.toList

/-- The host that a text stands for under a special scheme. -/
def parseSpecial (cs : List Char) : Except UrlFault Host :=
  if cs.head? = some '[' then parseBracketed cs
  else
    match domainName? cs with
    | none => .error .invalidDomainName
    | some [] => .error .emptyHost
    | some domain =>
        if Ipv4.endsInNumber domain then
          match Ipv4.parse? domain with
          | some address => .ok (.ipv4 address)
          | none => .error .invalidIpv4
        else .ok (.name (String.ofList domain))

/-- The characters that no host may hold under any scheme. -/
def forbidden (c : Char) : Bool :=
  c.toNat == 0 || Percent.oneOf "\t\n\r #/:<>?@[\\]^|" c

/-- The host that a text stands for under a scheme that is not special. -/
def parseOpaque (cs : List Char) : Except UrlFault Host :=
  if cs.head? = some '[' then parseBracketed cs
  else if cs.any forbidden then .error .invalidDomainCharacter
  else .ok (.name (String.ofList (Percent.encode Percent.controls cs)))

end Host

end VersionedApi.Url
