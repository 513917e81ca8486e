import SplitterLaunch.Url.Address
import SplitterLaunch.Url.Domain
import SplitterLaunch.Url.Percent

/-! Hosts in URLs: domain names, and numeric addresses of both kinds. A name whose last label is a number must
    be a numeric address. Where a scheme does not say what its hosts are, a name is kept as it is. -/

namespace SplitterLaunch
namespace Url

/-- Why a text is no URL. -/
inductive Fault where
  | relative
  | emptyHost
  | badDomain
  | badPort
  | badIpv4
  | badIpv6
  | badHostCharacter
deriving DecidableEq, Repr

def Fault.message : Fault → String
  | .relative => "relative URL without a base"
  | .emptyHost => "empty host"
  | .badDomain => "invalid international domain name"
  | .badPort => "invalid port number"
  | .badIpv4 => "invalid IPv4 address"
  | .badIpv6 => "invalid IPv6 address"
  | .badHostCharacter => "invalid domain character"

/-- Whether a host must not hold the character, whatever its kind. -/
def isForbidden (c : Char) : Bool :=
  ['\x00', '\t', '\n', '\r', ' ', '#', '/', ':', '<', '>', '?', '@', '[', '\\', ']', '^', '|'].contains c

/-- Whether a domain name must not hold the character. -/
def isForbiddenInDomain (c : Char) : Bool := isForbidden c || c.toNat < 0x20 || c == '%' || c == '\x7f'

def bracketed (cs : List Char) : Except Fault (List Char) :=
  match ipv6? (cs.drop 1).dropLast with
  | some address => if 2 ≤ cs.length ∧ cs.getLast? = some ']' then .ok ('[' :: address ++ [']']) else .error .badIpv6
  | none => .error .badIpv6

/-- A host that is a domain name or a numeric address, in its normal form. -/
def namedHost (cs : List Char) : Except Fault (List Char) :=
  if cs.head? = some '[' then bracketed cs
  else
    match (decode? cs).bind fun name => Domain.toAscii? isForbiddenInDomain name.toList with
    | none => .error .badDomain
    | some [] => .error .emptyHost
    | some domain =>
      if endsInNumber domain then
        match ipv4? domain with
        | some address => .ok address
        | none => .error .badIpv4
      else .ok domain

/-- A host of another kind, as it is written. -/
def opaqueHost (cs : List Char) : Except Fault (List Char) :=
  if cs.head? = some '[' then bracketed cs
  else if cs.any isForbidden then .error .badHostCharacter
  else .ok (encode [] cs)

end Url
end SplitterLaunch
