import VideoProbe.Text.Percent
import VideoProbe.Text.Utf8
import VideoProbe.Url.Domain

/-!
# Hosts

The host of a URL is a name or a numeric address.  For the schemes of the web a name is a domain:
it is percent-decoded and put into ASCII by the rules of domains, and one that ends in a number has
to be an address.  For all other schemes a name stands for itself.
-/

namespace VideoProbe

/-- Why a text is no URL. -/
inductive Url.Fault where
  | noBase
  | rootlessBase
  | emptyHost
  | badDomain
  | badDomainCharacter
  | badPort
  | badFourOctets
  | badEightGroups
  deriving DecidableEq, Repr

namespace Url

/-- A fault in words. -/
def Fault.message : Fault → String
  | noBase => "relative URL without a base"
  | rootlessBase => "relative URL with a cannot-be-a-base base"
  | emptyHost => "empty host"
  | badDomain => "invalid international domain name"
  | badDomainCharacter => "invalid domain character"
  | badPort => "invalid port number"
  | badFourOctets => "invalid IPv4 address"
  | badEightGroups => "invalid IPv6 address"

/-- A host. -/
inductive Host where
  | name (text : String)
  | fourOctets (address : Nat)
  | eightGroups (groups : List Nat)
  deriving DecidableEq, Repr

namespace Host

/-- A host as it is written. -/
def text : Host → String
  | name s => s
  | fourOctets n => fourOctetsText n
  | eightGroups gs => "[" ++ eightGroupsText gs ++ "]"

/-- A control character of ASCII. -/
def isControl (b : UInt8) : Bool :=
  b < 0x20 || b == 0x7F

/-- A character that no other name holds. -/
def isForbiddenInName (c : Char) : Bool :=
  c == '\x00' || c == '\t' || c == '\n' || c == '\r' || c == ' ' ||
    "#/:<>?@[\\]^|".toList.contains c

/-- Reads an address between brackets. -/
def readBracketed (cs : List Char) : Except Fault Host :=
  if cs.getLast? = some ']' then
    match eightGroups? (cs.drop 1).dropLast with
    | some gs => .ok (eightGroups gs)
    | none => .error .badEightGroups
  else .error .badEightGroups

/-- The host that a domain in ASCII names: one that ends in a number has to be an address. -/
def ofAscii (ascii : List Char) : Except Fault Host :=
  if ascii.isEmpty then .error .emptyHost
  else if endsInNumber ascii then
    match fourOctets? ascii with
    | some n => .ok (fourOctets n)
    | none => .error .badFourOctets
  else .ok (name (String.ofList ascii))

/-- Reads the host of a URL of the web. -/
def readDomain [DomainRules] (cs : List Char) : Except Fault Host :=
  if cs.head? = some '[' then readBracketed cs
  else
    match Text.Utf8.decode? (Text.Percent.decode (Text.Utf8.encode cs)) with
    | none => .error .badDomain
    | some plain =>
      match DomainRules.toAscii? plain with
      | none => .error .badDomain
      | some ascii => ofAscii ascii

/-- Reads the host of any other URL. -/
def readName (cs : List Char) : Except Fault Host :=
  if cs.head? = some '[' then readBracketed cs
  else if cs.any isForbiddenInName then .error .badDomainCharacter
  else
    let keep := fun (b : UInt8) => b < 0x80 && !isControl b
    .ok (name (String.ofList (Text.Percent.encode keep (Text.Utf8.encode cs))))

end Host

end Url

end VideoProbe
