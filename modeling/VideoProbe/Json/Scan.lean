import VideoProbe.Json.Reader
import VideoProbe.Text.Utf8

/-!
# Strings and numbers

The two tokens of JSON that take work.  A string is read character by character: a backslash
starts an escape, a pair of escaped surrogates is one character, and octets that are not UTF-8
are noticed where they stand but reported only once the closing quote is found.

A number is read into its sign, its digits as one whole number below `2^64`, and a power of ten;
digits that do not fit are dropped and counted in the power.  The double is then one conversion
and one multiplication or division away, so the last bit of a long number may differ from the
nearest double: this rule is part of what the format of recorded numbers means.
-/

namespace VideoProbe.Json

/-! ## Strings -/

/-- The value of a hexadecimal digit. -/
def hexValue? (b : UInt8) : Option Nat :=
  if 0x30 ≤ b ∧ b ≤ 0x39 then some (b.toNat - 0x30)
  else if 0x61 ≤ b ∧ b ≤ 0x66 then some (b.toNat - 0x57)
  else if 0x41 ≤ b ∧ b ≤ 0x46 then some (b.toNat - 0x37)
  else none

/-- The number that four hexadecimal digits spell. -/
def hexFour (s : Octets) : Reading Nat :=
  match s with
  | a :: b :: c :: d :: r =>
    match hexValue? a, hexValue? b, hexValue? c, hexValue? d with
    | some a, some b, some c, some d => .ok (((a * 16 + b) * 16 + c) * 16 + d, r)
    | _, _, _, _ => faultAt .invalidEscape r
  | _ => faultAt (.ended .string) []

/-- Takes an octet of the second half of a surrogate pair. -/
def takeEscapeOctet (wanted : UInt8) (s : Octets) : Reading Unit :=
  match s with
  | [] => faultAt (.ended .string) []
  | b :: r => if b = wanted then .ok ((), r) else faultAt .unexpectedEndOfEscape r

/-- The character of a numeric escape, after its letter: one number, or two for a pair of
surrogates. -/
def numericEscape (s : Octets) : Reading Char :=
  match hexFour s with
  | .error f => .error f
  | .ok (n, r) =>
    if 0xDC00 ≤ n ∧ n ≤ 0xDFFF then faultAt .loneSurrogate r
    else if n < 0xD800 ∨ 0xDBFF < n then .ok (Char.ofNat n, r)
    else
      match takeEscapeOctet backslash r with
      | .error f => .error f
      | .ok (_, r) =>
        match takeEscapeOctet 0x75 r with
        | .error f => .error f
        | .ok (_, r) =>
          match hexFour r with
          | .error f => .error f
          | .ok (m, r) =>
            if m < 0xDC00 ∨ 0xDFFF < m then faultAt .loneSurrogate r
            else .ok (Char.ofNat ((n - 0xD800) * 1024 + (m - 0xDC00) + 0x10000), r)

/-- The character that a one-letter escape stands for. -/
def simpleEscape? (b : UInt8) : Option Char :=
  if b = 0x22 then some '"'
  else if b = 0x5C then some '\\'
  else if b = 0x2F then some '/'
  else if b = 0x62 then some '\x08'
  else if b = 0x66 then some '\x0c'
  else if b = 0x6E then some '\n'
  else if b = 0x72 then some '\r'
  else if b = 0x74 then some '\t'
  else none

/-- The character of an escape, after its backslash. -/
def readEscape (s : Octets) : Reading Char :=
  match s with
  | [] => faultAt (.ended .string) []
  | b :: r =>
    match simpleEscape? b with
    | some c => .ok (c, r)
    | none => if b = 0x75 then numericEscape r else faultAt .invalidEscape r

/-- The loop of `readString`: the characters so far in reverse, and the octets after the first
one that is not UTF-8, if there was one. -/
def stringLoop : Nat → List Char → Option Octets → Octets → Reading (List Char)
  | 0, _, _, s => faultAt (.ended .string) s
  | _ + 1, _, _, [] => faultAt (.ended .string) []
  | fuel + 1, done, broken, b :: r =>
    if b = quoteMark then
      match broken with
      | none => .ok (done.reverse, r)
      | some rest => faultAt .invalidCodePoint rest
    else if b = backslash then
      match readEscape r with
      | .ok (c, r) => stringLoop fuel (c :: done) broken r
      | .error f => .error f
    else if b < 0x20 then faultAt .controlCharacter r
    else
      match Text.Utf8.next? (b :: r) with
      | some (c, r) => stringLoop fuel (c :: done) broken r
      | none => stringLoop fuel done (broken.or (some r)) r

/-- The characters of a string, after its opening quote. -/
def readChars (fuel : Nat) (s : Octets) : Reading (List Char) :=
  stringLoop fuel [] none s

/-- A string, after its opening quote. -/
def readString (fuel : Nat) (s : Octets) : Reading String :=
  match readChars fuel s with
  | .ok (cs, r) => .ok (String.ofList cs, r)
  | .error f => .error f

/-! ## Numbers -/

/-- A number that was read: whole, or not. -/
inductive Numeral where
  | whole (value : Int)
  | real (value : Float)
  deriving DecidableEq

/-- What a number is when something else was expected. -/
def Numeral.found : Numeral → Found
  | whole n => .integer n
  | real x => .real x

/-- Digits and what follows them. -/
def spanDigits (s : Octets) : Octets × Octets :=
  s.span isDigitOctet

/-- Takes digits into a number as long as it stays below a limit; answers with the number and the
digits that did not fit. -/
def takeDigits (limit : Nat) : Nat → Octets → Nat × Octets
  | n, [] => (n, [])
  | n, b :: r =>
    let n' := n * 10 + (b.toNat - 0x30)
    if n' < limit then takeDigits limit n' r else (n, b :: r)

/-- The double of a power of ten that a double can hold as a factor. -/
def powerOfTen (n : Nat) : Float :=
  Float.ofScientific 1 false n

/-- Divides by `10^308` while the power of ten is out of reach; three rounds take every
significand to zero. -/
def scaleDown : Nat → Float → Int → Float
  | 0, f, _ => f
  | fuel + 1, f, e =>
    if -308 ≤ e then f / powerOfTen e.natAbs
    else if f == 0.0 then f
    else scaleDown fuel (f / powerOfTen 308) (e + 308)

/-- The double of a significand and a power of ten, unless it exceeds every double. -/
def realOfParts? (negative : Bool) (significand : Nat) (exponent : Int) : Option Float :=
  let f := Float.ofNat significand
  let signed := fun (x : Float) => if negative then -x else x
  if exponent < 0 then some (signed (scaleDown 4 f exponent))
  else if exponent ≤ 308 then
    let x := f * powerOfTen exponent.toNat
    if x.isInf then none else some (signed x)
  else if significand = 0 then some (signed f)
  else none

/-- The double of a significand and a power of ten as the end of a number. -/
def finishReal (negative : Bool) (significand : Nat) (exponent : Int) (s : Octets) :
    Reading Numeral :=
  match realOfParts? negative significand exponent with
  | some x => .ok (.real x, s)
  | none => faultAt .numberOutOfRange s

/-- Exponents are kept within 32 bits. -/
def clampExponent (e : Int) : Int :=
  max (-2147483648) (min 2147483647 e)

/-- Whether an exponent is positive, and what follows its sign. -/
def exponentSign (s : Octets) : Bool × Octets :=
  match s with
  | b :: r => if b = 0x2B then (true, r) else if b = minusSign then (false, r) else (true, s)
  | [] => (true, [])

/-- The exponent of a number, after its sign. -/
def readExponentDigits (negative : Bool) (significand : Nat) (scale : Int) (up : Bool)
    (s : Octets) : Reading Numeral :=
  match s with
  | [] => faultAt (.ended .value) []
  | b :: r =>
    if isDigitOctet b then
      let (ds, rest) := spanDigits (b :: r)
      let (e, excess) := takeDigits 2147483648 0 ds
      match excess with
      | [] => finishReal negative significand (clampExponent (if up then scale + e else scale - e))
          rest
      | _ :: more =>
        if significand ≠ 0 ∧ up then faultAt .numberOutOfRange (more ++ rest)
        else .ok (.real (if negative then -0.0 else 0.0), rest)
    else faultAt .invalidNumber r

/-- The exponent of a number, after its letter. -/
def readExponent (negative : Bool) (significand : Nat) (scale : Int) (s : Octets) :
    Reading Numeral :=
  let (up, s) := exponentSign s
  readExponentDigits negative significand scale up s

/-- What may follow the digits of a number that is not whole. -/
def realTail (negative : Bool) (significand : Nat) (scale : Int) (s : Octets) : Reading Numeral :=
  match s with
  | b :: r =>
    if b = 0x65 ∨ b = 0x45 then readExponent negative significand scale r
    else finishReal negative significand scale s
  | [] => finishReal negative significand scale s

/-- The decimals of a number, after the point. -/
def readDecimals (negative : Bool) (significand : Nat) (scale : Int) (s : Octets) :
    Reading Numeral :=
  let (ds, rest) := spanDigits s
  match ds with
  | [] =>
    match rest with
    | [] => faultAt (.ended .value) []
    | _ :: r => faultAt .invalidNumber r
  | _ :: _ =>
    let (n, excess) := takeDigits (Nat.pow 2 64) significand ds
    realTail negative n (scale - ((ds.length : Int) - excess.length)) rest

/-- A number below `2^64` with its sign: whole where 64 bits hold it, a double otherwise. -/
def wholeNumeral (negative : Bool) (n : Nat) : Numeral :=
  if !negative then .whole n
  else if n = 0 ∨ Nat.pow 2 63 < n then .real (-(Float.ofNat n))
  else .whole (-(n : Int))

/-- What may follow the digits before the point. -/
def numberTail (negative : Bool) (n : Nat) (excess : Octets) (s : Octets) : Reading Numeral :=
  match s with
  | b :: r =>
    if b = 0x2E then readDecimals negative n excess.length r
    else if b = 0x65 ∨ b = 0x45 then readExponent negative n excess.length r
    else if excess.isEmpty then .ok (wholeNumeral negative n, s)
    else finishReal negative n excess.length s
  | [] =>
    if excess.isEmpty then .ok (wholeNumeral negative n, [])
    else finishReal negative n excess.length []

/-- A number, after its sign. -/
def readUnsigned (negative : Bool) (s : Octets) : Reading Numeral :=
  match s with
  | [] => faultAt (.ended .value) []
  | b :: r =>
    if b = 0x30 then
      match r with
      | c :: r' => if isDigitOctet c then faultAt .invalidNumber r' else numberTail negative 0 [] r
      | [] => numberTail negative 0 [] []
    else if isDigitOctet b then
      let (ds, rest) := spanDigits (b :: r)
      let (n, excess) := takeDigits (Nat.pow 2 64) 0 ds
      numberTail negative n excess rest
    else faultAt .invalidNumber r

/-- Whether an octet can start a number. -/
def startsNumber (b : UInt8) : Bool :=
  b == minusSign || isDigitOctet b

/-- A number, from its first octet. -/
def readNumeral (s : Octets) : Reading Numeral :=
  match s with
  | b :: r => if b = minusSign then readUnsigned true r else readUnsigned false s
  | [] => faultAt (.ended .value) []

/-! ## Anything but what was expected -/

/-- The fault of a value of the wrong type: a scalar is read to its end first, of a list or an
object nothing is taken. -/
def wrongType (expected : String) (fuel : Nat) (s : Octets) : Reading α :=
  let wrong := fun (f : Found) (rest : Octets) => faultAt (.invalidType f expected) rest
  match s with
  | [] => faultAt (.ended .value) []
  | b :: r =>
    if b = 0x6E then
      match takeWord nullTail r with
      | .ok (_, rest) => wrong .null rest
      | .error f => .error f
    else if b = 0x74 then
      match takeWord trueTail r with
      | .ok (_, rest) => wrong (.boolean true) rest
      | .error f => .error f
    else if b = 0x66 then
      match takeWord falseTail r with
      | .ok (_, rest) => wrong (.boolean false) rest
      | .error f => .error f
    else if startsNumber b then
      match readNumeral s with
      | .ok (n, rest) => wrong n.found rest
      | .error f => .error f
    else if b = quoteMark then
      match readString fuel r with
      | .ok (t, rest) => wrong (.string t) rest
      | .error f => .error f
    else if b = openList then wrong .sequence s
    else if b = openObject then wrong .map s
    else faultAt .expectedValue r

end VideoProbe.Json
