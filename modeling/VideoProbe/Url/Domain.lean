import VideoProbe.Text.Printable
import VideoProbe.Url.Address
import VideoProbe.Url.Punycode

/-!
# Domains

A domain is a name in labels, with full stops between them.  It is looked up in ASCII, and one with
other characters has a form in ASCII.  Which form that is, and which domains have none, is settled
by tables of all the characters there are: what counts as the lower case of what, what is composed
with what, and what may stand beside what.  They are nobody's business here, so the rules are a
parameter of everything that reads a URL (`DomainRules`).

What the rules say of the characters of ASCII takes no table.  There is no more to it than that
letters become lower-case and that some marks stand in no domain, unless a label says that it is
written in Punycode (`LawfulDomainRules`).

The programs run with a short form of the rules (`Domain.toAscii?`), which knows the letters of a
few scripts and leaves out what is composed and what may stand beside what.
-/

namespace VideoProbe.Url

/-- A character of ASCII that no domain holds. -/
def isForbiddenInDomain (c : Char) : Bool :=
  c.toNat ≤ 0x20 || c.toNat == 0x7F || "%#/:<>?@[\\]^|".toList.contains c

/-- The marks by which a URL tells its host from what stands around it. -/
def delimiters : List Char :=
  "/\\?#@:[]".toList

/-- The mark before a label in Punycode. -/
def punycodeMark : List Char := ['x', 'n', '-', '-']

/-- No label of a domain of ASCII says, in letters of either case, that it is written in Punycode.
-/
def IsUnmarked (domain : List Char) : Prop :=
  ∀ label ∈ splitAt (· == '.') (domain.map Char.toLower), punycodeMark.isPrefixOf label = false

/-- The rules by which a domain is put into ASCII. -/
class DomainRules where
  /-- A domain in ASCII; none if it has no such form. -/
  toAscii? : List Char → Option (List Char)

/-- What the rules say, whatever stands in their tables. -/
class LawfulDomainRules [DomainRules] : Prop where
  /-- No domain holds a delimiter.  None is the lower case of another character's, and none is
  composed with what stands beside it. -/
  no_delimiter {domain ascii : List Char} (h : DomainRules.toAscii? domain = some ascii) :
    ∀ c ∈ domain, c ∉ delimiters
  /-- A domain of ASCII that has a form is put into lower case, and that is all. -/
  ascii_eq {domain ascii : List Char} (hascii : ∀ c ∈ domain, c.toNat < 0x80)
    (h : DomainRules.toAscii? domain = some ascii) : ascii = domain.map Char.toLower
  /-- It has one if it holds nothing that is forbidden.  Only what is written in Punycode has to be
  looked at more closely. -/
  ascii_ok {domain : List Char} (hascii : ∀ c ∈ domain, c.toNat < 0x80)
    (hallowed : ∀ c ∈ domain, isForbiddenInDomain c = false) (hunmarked : IsUnmarked domain) :
    DomainRules.toAscii? domain = some (domain.map Char.toLower)

/-! ## A short form of the rules -/

namespace Domain

/-- The lower-case letter of a letter, as far as Latin, Greek, Cyrillic and the wide forms of ASCII
go; two more full stops count as one, and a character that only marks a place to break is dropped.
-/
def mapToLower (c : Char) : List Char :=
  let n := c.toNat
  if 0x41 ≤ n ∧ n ≤ 0x5A then [Char.ofNat (n + 0x20)]
  else if n = 0xAD ∨ n = 0x200B ∨ n = 0x2060 ∨ n = 0xFEFF then []
  else if 0xC0 ≤ n ∧ n ≤ 0xDE ∧ n ≠ 0xD7 then [Char.ofNat (n + 0x20)]
  else if n = 0x130 then ['i', '\u0307']
  else if n = 0x178 then ['\u00ff']
  else if 0x100 ≤ n ∧ n ≤ 0x137 ∧ n % 2 = 0 then [Char.ofNat (n + 1)]
  else if 0x139 ≤ n ∧ n ≤ 0x148 ∧ n % 2 = 1 then [Char.ofNat (n + 1)]
  else if 0x14A ≤ n ∧ n ≤ 0x177 ∧ n % 2 = 0 then [Char.ofNat (n + 1)]
  else if 0x179 ≤ n ∧ n ≤ 0x17E ∧ n % 2 = 1 then [Char.ofNat (n + 1)]
  else if 0x391 ≤ n ∧ n ≤ 0x3AB ∧ n ≠ 0x3A2 then [Char.ofNat (n + 0x20)]
  else if 0x400 ≤ n ∧ n ≤ 0x40F then [Char.ofNat (n + 0x50)]
  else if 0x410 ≤ n ∧ n ≤ 0x42F then [Char.ofNat (n + 0x20)]
  else if n = 0x3002 then ['.']
  else if 0xFF21 ≤ n ∧ n ≤ 0xFF3A then [Char.ofNat (n - 0xFEC0)]
  else if 0xFF01 ≤ n ∧ n ≤ 0xFF5E then [Char.ofNat (n - 0xFEE0)]
  else [c]

/-- One label in ASCII. -/
def labelToAscii? (label : List Char) : Option (List Char) :=
  if label.all fun c => c.toNat < 0x80 then
    if punycodeMark.isPrefixOf label then
      match Punycode.decode? (label.drop 4) with
      | some cs =>
        let isProper := (cs.any fun c => 0x80 ≤ c.toNat) && cs.all Text.isPrintable &&
          cs.flatMap mapToLower == cs
        if isProper && Punycode.encode cs == label.drop 4 then some label else none
      | none => none
    else some label
  else if label.any fun c => !Text.isPrintable c then none
  else some (punycodeMark ++ Punycode.encode label)

/-- A domain in ASCII. -/
def toAscii? (cs : List Char) : Option (List Char) :=
  let lower := cs.flatMap mapToLower
  if lower.any isForbiddenInDomain then none
  else
    ((splitAt (· == '.') lower).mapM labelToAscii?).map fun labels =>
      (labels.intersperse ['.']).flatten

end Domain

instance shortRules : DomainRules where
  toAscii? := Domain.toAscii?

end VideoProbe.Url
