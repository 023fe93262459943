import VideoProbe.Decimal.Digits

/-!
# Numeric addresses

The two kinds of numeric host.  An address of four octets may be written in one to four parts, in
decimal, octal or hexadecimal; the last part fills the octets that are left.  An address of eight
groups is written in hexadecimal, one run of zero groups may be left out, and the last two groups
may be written as four octets.  Each address has one written form.
-/

namespace VideoProbe.Url

/-- The parts of a text between separators. -/
def splitAt (isSeparator : Char → Bool) : List Char → List (List Char)
  | [] => [[]]
  | c :: cs =>
    if isSeparator c then [] :: splitAt isSeparator cs
    else
      match splitAt isSeparator cs with
      | [] => [[c]]
      | part :: parts => (c :: part) :: parts

theorem splitAt_ne_nil (p : Char → Bool) (cs : List Char) : splitAt p cs ≠ [] := by
  cases cs with
  | nil => exact List.cons_ne_nil _ _
  | cons c cs =>
    rw [splitAt]
    split
    · exact List.cons_ne_nil _ _
    · split <;> exact List.cons_ne_nil _ _

/-- The value of a digit in a base up to sixteen. -/
def digitIn? (base : Nat) (c : Char) : Option Nat :=
  let n := c.toNat
  let v :=
    if 0x30 ≤ n ∧ n ≤ 0x39 then some (n - 0x30)
    else if 0x41 ≤ n ∧ n ≤ 0x46 then some (n - 0x37)
    else if 0x61 ≤ n ∧ n ≤ 0x66 then some (n - 0x57)
    else none
  v.filter (· < base)

/-- The number that digits of a base write. -/
def numberIn? (base : Nat) (cs : List Char) : Option Nat :=
  cs.foldlM (fun n c => (digitIn? base c).map (n * base + ·)) 0

/-! ## Four octets -/

/-- One part of an address of four octets: after `0x` hexadecimal, after `0` octal, else decimal;
a mark without digits is zero. -/
def octetsPart? (cs : List Char) : Option Nat :=
  match cs with
  | [] => none
  | '0' :: 'x' :: rest | '0' :: 'X' :: rest => numberIn? 16 rest
  | '0' :: c :: rest => numberIn? 8 (c :: rest)
  | cs => numberIn? 10 cs

/-- The parts between dots, without an empty one at the end. -/
def dottedParts (cs : List Char) : List (List Char) :=
  let parts := splitAt (· == '.') cs
  if parts.getLast? = some [] then parts.dropLast else parts

/-- Whether a domain ends in a number, and so must be an address. -/
def endsInNumber (cs : List Char) : Bool :=
  match (dottedParts cs).getLast? with
  | none => false
  | some last =>
    (!last.isEmpty && last.all Char.isDigit) || (octetsPart? last).isSome

/-- The address that parts write: each is one octet, but the last fills those left. -/
def joinOctets? : Nat → List Nat → Option Nat
  | _, [] => none
  | left, [last] => if last < Nat.pow 256 left then some last else none
  | left, n :: ns =>
    if n < 256 then (joinOctets? (left - 1) ns).map (n * Nat.pow 256 (left - 1) + ·) else none

/-- Reads an address of four octets. -/
def fourOctets? (cs : List Char) : Option Nat :=
  let parts := dottedParts cs
  if 4 < parts.length then none else (parts.mapM octetsPart?).bind (joinOctets? 4)

/-- An address of four octets, written. -/
def fourOctetsText (n : Nat) : String :=
  ".".intercalate
    ([n / 16777216 % 256, n / 65536 % 256, n / 256 % 256, n % 256].map Decimal.ofNat)

/-! ## Eight groups -/

/-- One group: one to four hexadecimal digits. -/
def group? (cs : List Char) : Option Nat :=
  if cs.isEmpty || 4 < cs.length then none else numberIn? 16 cs

/-- One octet in decimal, without leading zeros. -/
def plainOctet? (cs : List Char) : Option Nat :=
  match cs with
  | [] => none
  | '0' :: _ :: _ => none
  | cs => (numberIn? 10 cs).filter (· < 256)

/-- Two groups written as four octets. -/
def octetGroups? (cs : List Char) : Option (List Nat) :=
  match (splitAt (· == '.') cs).mapM plainOctet? with
  | some [a, b, c, d] => some [a * 256 + b, c * 256 + d]
  | _ => none

/-- Groups between colons; where it is allowed, the last may be written as four octets. -/
def groups? (octetsAllowed : Bool) : List (List Char) → Option (List Nat)
  | [] => some []
  | [last] =>
    if octetsAllowed && last.contains '.' then octetGroups? last
    else (group? last).map fun g => [g]
  | part :: parts =>
    match group? part, groups? octetsAllowed parts with
    | some g, some gs => some (g :: gs)
    | _, _ => none

/-- Groups between colons, or none at all. -/
def groupsOf? (octetsAllowed : Bool) (cs : List Char) : Option (List Nat) :=
  if cs.isEmpty then some [] else groups? octetsAllowed (splitAt (· == ':') cs)

/-- The texts before and after the first two colons in a row. -/
def cutAtGap? : List Char → Option (List Char × List Char)
  | [] => none
  | ':' :: ':' :: rest => some ([], rest)
  | c :: rest => (cutAtGap? rest).map fun (a, b) => (c :: a, b)

/-- Reads an address of eight groups. -/
def eightGroups? (cs : List Char) : Option (List Nat) :=
  match cutAtGap? cs with
  | none => (groupsOf? true cs).filter (·.length == 8)
  | some (before, after) =>
    match groupsOf? false before, groupsOf? true after with
    | some gs, some hs =>
      if gs.length + hs.length ≤ 7 then
        some (gs ++ List.replicate (8 - gs.length - hs.length) 0 ++ hs)
      else none
    | _, _ => none

/-- One lower-case hexadecimal digit of a group. -/
def groupDigit (n : Nat) : Char :=
  if n < 10 then Char.ofNat (48 + n) else Char.ofNat (87 + n)

/-- A group without leading zeros. -/
def groupText (n : Nat) : String :=
  let digits := [n / 4096 % 16, n / 256 % 16, n / 16 % 16, n % 16]
  String.ofList ((digits.take 3).dropWhile (· == 0) ++ digits.drop 3 |>.map groupDigit)

/-- The length of the run of zeros at the beginning. -/
def zeroRun (gs : List Nat) : Nat :=
  (gs.takeWhile (· == 0)).length

/-- Where the first of the longest runs of zeros begins, and its length; `best` is the one found so
far. -/
def longestZeros (best : Nat × Nat) : Nat → List Nat → Nat × Nat
  | _, [] => best
  | i, g :: gs =>
    let run := zeroRun (g :: gs)
    longestZeros (if best.2 < run then (i, run) else best) (i + 1) gs

/-- An address of eight groups, written: the first of the longest runs of zeros is left out, if it
is longer than one. -/
def eightGroupsText (gs : List Nat) : String :=
  let colons := fun (xs : List Nat) => ":".intercalate (xs.map groupText)
  let (start, run) := longestZeros (0, 0) 0 gs
  if run < 2 then colons gs else colons (gs.take start) ++ "::" ++ colons (gs.drop (start + run))

end VideoProbe.Url
