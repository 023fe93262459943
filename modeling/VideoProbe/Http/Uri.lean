/-!
# Request URIs

The grammar of absolute URIs that a request may be addressed to, as far as it is looked at when a
client names the address of its webhook: a scheme, an authority with a host, and a path and a query
of permitted octets.  What follows a `#` is not looked at.

The authority is read octet by octet.  User information, which ends at the last `@`, and an address
in brackets may hold colons and percent signs; in the rest there may be one colon, before the port,
and no percent sign.
-/

namespace VideoProbe.Http.Uri

/-- The greatest length of a URI, in octets. -/
def maxLength : Nat := 65534

/-- An octet that may stand in an authority as it is: a letter, a digit, or one of the marks of a
URI. -/
def isMark (b : UInt8) : Bool :=
  (0x30 ≤ b && b ≤ 0x39) || (0x41 ≤ b && b ≤ 0x5A) || (0x61 ≤ b && b ≤ 0x7A) ||
    [0x21, 0x24, 0x26, 0x27, 0x28, 0x29, 0x2A, 0x2B, 0x2C, 0x2D, 0x2E, 0x3A, 0x3B, 0x3D, 0x40, 0x5B,
      0x5D, 0x5F, 0x7E].contains b

/-- An octet that ends the authority: `/`, `?` or `#`. -/
def endsAuthority (b : UInt8) : Bool :=
  b == 0x2F || b == 0x3F || b == 0x23

/-- What has been seen of an authority. -/
structure AuthorityScan where
  /-- Colons since the last `@` or `]`. -/
  colons : Nat := 0
  opened : Bool := false
  closed : Bool := false
  /-- A percent sign since the last `@` or `]`. -/
  percent : Bool := false
  /-- The last octet was an `@`. -/
  afterAt : Bool := false
  deriving DecidableEq, Repr

namespace AuthorityScan

/-- The most colons that are read in a row of octets without `@` and `]`. -/
def maxColons : Nat := 8

/-- Reads one octet. -/
def step (s : AuthorityScan) (b : UInt8) : Option AuthorityScan :=
  let s := { s with afterAt := false }
  if b = 0x3A then
    if maxColons ≤ s.colons then none else some { s with colons := s.colons + 1 }
  else if b = 0x5B then
    if s.percent || s.opened then none else some { s with opened := true }
  else if b = 0x5D then
    if !s.opened || s.closed then none
    else some { s with closed := true, colons := 0, percent := false }
  else if b = 0x40 then some { s with colons := 0, percent := false, afterAt := true }
  else if b = 0x25 then some { s with percent := true }
  else if isMark b then some s
  else none

/-- Whether an authority may end here. -/
def isAcceptable (s : AuthorityScan) : Bool :=
  s.opened == s.closed && s.colons ≤ 1 && !s.afterAt && !s.percent

end AuthorityScan

/-- Whether octets form an authority that is not empty. -/
def isAuthority (bs : List UInt8) : Bool :=
  !bs.isEmpty && ((bs.foldlM AuthorityScan.step {}).map AuthorityScan.isAcceptable).getD false

/-- The host in an authority: what follows the last `@`, up to the port. -/
def host (authority : List UInt8) : List UInt8 :=
  let hostPort := (authority.reverse.takeWhile (· != 0x40)).reverse
  match hostPort with
  | 0x5B :: rest => 0x5B :: (rest.takeWhile (· != 0x5D) ++ [0x5D])
  | _ => hostPort.takeWhile (· != 0x3A)

/-- An octet of a path.  What lies beyond ASCII may stand in one as it is; the last octet of ASCII,
a control character, may not. -/
def isPathOctet (b : UInt8) : Bool :=
  b == 0x21 || b == 0x22 || (0x24 ≤ b && b ≤ 0x3B) || b == 0x3D || (0x40 ≤ b && b ≤ 0x5F) ||
    (0x61 ≤ b && b ≤ 0x7E) || 0x80 ≤ b

/-- An octet of a query; the same holds there. -/
def isQueryOctet (b : UInt8) : Bool :=
  b == 0x21 || (0x24 ≤ b && b ≤ 0x3B) || b == 0x3D || (0x3F ≤ b && b ≤ 0x7E) || 0x80 ≤ b

/-- Whether octets form a path and, after a question mark, a query. -/
def isPathAndQuery (bs : List UInt8) : Bool :=
  let kept := bs.takeWhile (· != 0x23)
  (kept.takeWhile (· != 0x3F)).all isPathOctet &&
    ((kept.dropWhile (· != 0x3F)).drop 1).all isQueryOctet

/-- What follows a scheme and `://`, if the text begins with them; letters of either case do. -/
def afterScheme? (scheme : String) (bs : List UInt8) : Option (List UInt8) :=
  let start := (scheme ++ "://").toList.map fun c => UInt8.ofNat c.toNat
  let lower := fun (b : UInt8) => if 0x41 ≤ b && b ≤ 0x5A then b + 0x20 else b
  if (bs.take start.length).map lower = start then some (bs.drop start.length) else none

/-- The authority at the beginning of what follows a scheme. -/
def authorityOf (rest : List UInt8) : List UInt8 :=
  rest.takeWhile (!endsAuthority ·)

/-- Whether an authority, a path and a query follow a scheme. -/
def isHierarchy (rest : List UInt8) : Bool :=
  isAuthority (authorityOf rest) && isPathAndQuery (rest.dropWhile (!endsAuthority ·))

/-- Whether octets form an absolute URI with the scheme *http* or *https* and a host that is not
empty. -/
def isWebAddress (bs : List UInt8) : Bool :=
  bs.length ≤ maxLength &&
    match (afterScheme? "http" bs).or (afterScheme? "https" bs) with
    | none => false
    | some rest => isHierarchy rest && !(host (authorityOf rest)).isEmpty

/-- The longest name of a scheme. -/
def maxSchemeLength : Nat := 64

/-- An octet of a scheme. -/
def isSchemeOctet (b : UInt8) : Bool :=
  (0x30 ≤ b && b ≤ 0x39) || (0x41 ≤ b && b ≤ 0x5A) || (0x61 ≤ b && b ≤ 0x7A) ||
    b == 0x2B || b == 0x2D || b == 0x2E

/-- Whether octets form a URI of any scheme, or an authority alone, in which a scheme without
slashes passes for a host. -/
def isSendable (bs : List UInt8) : Bool :=
  bs.length ≤ maxLength &&
    match bs.dropWhile isSchemeOctet with
    | 0x3A :: 0x2F :: 0x2F :: rest =>
      (bs.takeWhile isSchemeOctet).length ≤ maxSchemeLength && isHierarchy rest
    | _ => isAuthority (authorityOf bs) && (authorityOf bs).length == bs.length

end VideoProbe.Http.Uri
