import ToolAgent.Url.Address
import ToolAgent.Url.Domain.Ascii
import ToolAgent.Url.Percent

/-!
# Hosts of URLs

A host is an address or a name. The schemes of the web take domain names, which are put in ASCII; in
other URLs a name is what it is.
-/

namespace ToolAgent

/-- Why a text is no URL. -/
inductive UrlFault where
  | relative
  | emptyHost
  | invalidName
  | invalidIpv4
  | invalidIpv6
  | invalidHostCharacter
  | invalidPort
deriving DecidableEq, Repr

def UrlFault.message : UrlFault → String
  | relative => "relative URL without a base"
  | emptyHost => "empty host"
  | invalidName => "invalid international domain name"
  | invalidIpv4 => "invalid IPv4 address"
  | invalidIpv6 => "invalid IPv6 address"
  | invalidHostCharacter => "invalid domain character"
  | invalidPort => "invalid port number"

inductive Host where
  | name (text : String)
  | ipv4 (address : Ipv4)
  | ipv6 (address : Ipv6)
deriving DecidableEq

namespace Host

def text : Host → String
  | name text => text
  | ipv4 address => address.text
  | ipv6 address => "[" ++ address.text ++ "]"

/-- Characters that a host that is no domain name may not hold. -/
def forbidden : List Char :=
  ['\x00', '\t', '\n', '\r', ' ', '#', '/', ':', '<', '>', '?', '@', '[', '\\', ']', '^', '|']

/-- The address between brackets. -/
def bracketed (cs : List Char) : Except UrlFault Host :=
  match cs.getLast? with
  | some ']' => ((Ipv6.parse? (cs.drop 1).dropLast).map ipv6).elim (.error .invalidIpv6) .ok
  | _ => .error .invalidIpv6

/-- A host of the web. A name that ends in a number is an address. -/
def ofDomain (cs : List Char) : Except UrlFault Host :=
  match Domain.toAscii? (Utf8.decodeLossy (Percent.decode (Utf8.encode cs))) with
  | none => .error .invalidName
  | some [] => .error .emptyHost
  | some domain =>
    if Ipv4.isMeant domain then ((Ipv4.parse? domain).map ipv4).elim (.error .invalidIpv4) .ok
    else .ok (name (String.ofList domain))

/-- A host of another URL. -/
def opaqueName (cs : List Char) : Except UrlFault Host :=
  if cs.any forbidden.contains then .error .invalidHostCharacter
  else .ok (name (String.ofList (Percent.encode [] cs)))

def parse (isWeb : Bool) (cs : List Char) : Except UrlFault Host :=
  if cs.head? = some '[' then bracketed cs
  else if isWeb then ofDomain cs
  else opaqueName cs

end Host

end ToolAgent
