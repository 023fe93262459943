import VideoProbe.Decimal.Digits
import VideoProbe.Text.Quoted

/-!
# UUIDs

A UUID is thirty-two hexadecimal digits.  Four spellings are read, in any mixture of letter cases:
the digits alone, the digits in groups of 8, 4, 4, 4 and 12 with hyphens between, that form in
braces, and that form after `urn:uuid:`.  One spelling is written, the hyphenated one in lower
case; so texts of two UUIDs are equal only if the UUIDs are.

A text in none of these forms is blamed on its first character that is neither a digit nor a
hyphen, or else on its length, the number of its groups, or the first group of the wrong length.
-/

namespace VideoProbe

/-- Thirty-two hexadecimal digits. -/
structure Uuid where
  digits : List (Fin 16)
  length_eq : digits.length = 32
  deriving DecidableEq

namespace Uuid

/-- Why a text is no UUID.  Groups are counted from zero. -/
inductive Malformed where
  | invalidCharacter (found : Char) (offset : Nat)
  | invalidLength (length : Nat)
  | invalidGroupCount (count : Nat)
  | invalidGroupLength (group expected length : Nat)
  deriving DecidableEq, Repr

/-- A fault in words. -/
def Malformed.message (m : Malformed) : String :=
  "UUID parsing failed: " ++
    match m with
    | invalidCharacter found offset =>
      "invalid character: found `" ++ String.singleton found ++ "` at " ++ Decimal.ofNat offset
    | invalidLength length => "invalid length: found " ++ Decimal.ofNat length
    | invalidGroupCount count =>
      "invalid group count: expected 5, found " ++ Decimal.ofNat count
    | invalidGroupLength group expected length =>
      "invalid group length in group " ++ Decimal.ofNat group ++ ": expected " ++
        Decimal.ofNat expected ++ ", found " ++ Decimal.ofNat length

/-- The value of a hexadecimal digit. -/
def hexValue? (c : Char) : Option (Fin 16) :=
  if '0' ≤ c ∧ c ≤ '9' then some (Fin.ofNat 16 (c.toNat - 48))
  else if 'a' ≤ c ∧ c ≤ 'f' then some (Fin.ofNat 16 (c.toNat - 87))
  else if 'A' ≤ c ∧ c ≤ 'F' then some (Fin.ofNat 16 (c.toNat - 55))
  else none

/-- The values of hexadecimal digits. -/
def hexValues? (cs : List Char) : Option (List (Fin 16)) :=
  cs.mapM hexValue?

/-- The lengths of the groups. -/
def groupLengths : List Nat := [8, 4, 4, 4, 12]

/-- The text without the hyphens between its groups, if they stand where they should. -/
def joinGroups? : List Nat → List Char → Option (List Char)
  | [], _ => none
  | [n], cs => if cs.length = n then some cs else none
  | n :: lengths, cs =>
    match cs.drop n with
    | '-' :: rest => (joinGroups? lengths rest).map (cs.take n ++ ·)
    | _ => none

/-- The letters before a UUID in a uniform resource name. -/
def urnPrefix : List Char := ['u', 'r', 'n', ':', 'u', 'u', 'i', 'd', ':']

/-- What follows the letters of a uniform resource name, in whatever case they are. -/
def afterUrn? (cs : List Char) : Option (List Char) :=
  if (cs.take 9).map Char.toLower = urnPrefix then some (cs.drop 9) else none

/-- What stands between braces. -/
def betweenBraces? (cs : List Char) : Option (List Char) :=
  match cs with
  | '\x7b' :: rest =>
    match rest.getLast? with
    | some '\x7d' => some rest.dropLast
    | _ => none
  | _ => none

/-- The UUID of hexadecimal digits, if there are thirty-two. -/
def ofHex? (cs : List Char) : Option Uuid :=
  match hexValues? cs with
  | some ds => if h : ds.length = 32 then some ⟨ds, h⟩ else none
  | none => none

/-- The UUID of a hyphenated text. -/
def ofGroups? (cs : List Char) : Option Uuid :=
  (joinGroups? groupLengths cs).bind ofHex?

/-- The UUID that a text spells in one of the four forms. -/
def ofChars? (cs : List Char) : Option Uuid :=
  if cs.length = 32 then ofHex? cs
  else if cs.length = 36 then ofGroups? cs
  else if cs.length = 38 then (betweenBraces? cs).bind ofGroups?
  else if cs.length = 45 then (afterUrn? cs).bind ofGroups?
  else none

/-- The first character that is neither a hexadecimal digit nor a hyphen, with the number of
octets before it (every character before it has one octet). -/
def firstStray? : Nat → List Char → Option (Char × Nat)
  | _, [] => none
  | offset, c :: rest =>
    if c = '-' ∨ (hexValue? c).isSome then firstStray? (offset + 1) rest else some (c, offset)

/-- The offsets of the hyphens. -/
def hyphens : Nat → List Char → List Nat
  | _, [] => []
  | offset, c :: rest => if c = '-' then offset :: hyphens (offset + 1) rest
    else hyphens (offset + 1) rest

/-- The first group whose hyphen is not where it should be; `start` is where the group starts. -/
def firstBadGroup? : (group start : Nat) → (lengths : List Nat) → List Nat → Option Malformed
  | group, start, n :: lengths, h :: hs =>
    if h = start + n then firstBadGroup? (group + 1) (start + n + 1) lengths hs
    else some (.invalidGroupLength group n (h - start))
  | _, _, _, _ => none

/-- What is wrong with a text that is no UUID. -/
def blame (cs : List Char) : Malformed :=
  let (body, shift, plain) :=
    match betweenBraces? cs, afterUrn? cs with
    | some body, _ => (body, 1, false)
    | none, some body => (body, 9, false)
    | none, none => (cs, 0, true)
  match firstStray? shift body with
  | some (c, offset) => .invalidCharacter c offset
  | none =>
    let hs := hyphens 0 body
    if hs.isEmpty && plain then .invalidLength cs.length
    else if hs.length ≠ 4 then .invalidGroupCount (hs.length + 1)
    else
      match firstBadGroup? 0 0 groupLengths hs with
      | some m => m
      | none => .invalidGroupLength 4 12 (cs.length - 24)

/-- Reads a UUID. -/
def parse (s : String) : Except Malformed Uuid :=
  match ofChars? s.toList with
  | some u => .ok u
  | none => .error (blame s.toList)

/-- Digits as characters. -/
def hexChars (ds : List (Fin 16)) : List Char :=
  ds.map fun d => Text.Quoted.hexDigit d.val

/-- The written form: groups of 8, 4, 4, 4 and 12 digits in lower case with hyphens between. -/
def chars (u : Uuid) : List Char :=
  let cs := hexChars u.digits
  cs.take 8 ++ '-' :: ((cs.drop 8).take 4 ++ '-' :: ((cs.drop 12).take 4 ++ '-' ::
    ((cs.drop 16).take 4 ++ '-' :: cs.drop 20)))

/-- The written form of a UUID. -/
def text (u : Uuid) : String :=
  String.ofList u.chars

/-- The version digit. -/
def version (u : Uuid) : Nat :=
  (u.digits.getD 12 0).val

/-- The UUID whose digits are all zero. -/
def zero : Uuid :=
  ⟨List.replicate 32 0, rfl⟩

/-- A UUID of version seven made from a count: the count stands in the last twelve digits. -/
def ofCount (n : Nat) : Uuid where
  digits :=
    (List.replicate 12 0 ++ [7, 0, 0, 0, 8, 0, 0, 0]) ++
      (List.range 12).map fun i => Fin.ofNat 16 (n / Nat.pow 16 (11 - i))
  length_eq := by simp

end Uuid

end VideoProbe
