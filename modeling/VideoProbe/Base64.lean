import VideoProbe.Decimal.Digits

/-!
# Base64

Bytes as text of sixty-four symbols, the standard alphabet, three bytes to four symbols, the last
group filled up with equals signs.  Reading is strict: the padding has to be there, and the bits of
the last symbol that carry no byte have to be zero.  So of all texts exactly the written ones are
accepted, and two different accepted texts are never the same bytes.

Groups of four symbols are read from the left as long as more than four octets remain; the last
one to four octets are the tail, the only place where padding may stand.
-/

namespace VideoProbe.Base64

/-- Why a text is not base64. -/
inductive Malformed where
  /-- An octet outside the alphabet, or padding in the wrong place. -/
  | invalidSymbol (offset : Nat) (octet : UInt8)
  /-- A last symbol with bits that carry no byte. -/
  | invalidLastSymbol (offset : Nat) (octet : UInt8)
  | invalidLength (length : Nat)
  | invalidPadding
  deriving DecidableEq, Repr

/-- A fault in words. -/
def Malformed.message : Malformed → String
  | invalidSymbol offset octet =>
    "Invalid symbol " ++ Decimal.ofNat octet.toNat ++ ", offset " ++ Decimal.ofNat offset ++ "."
  | invalidLastSymbol offset octet =>
    "Invalid last symbol " ++ Decimal.ofNat octet.toNat ++ ", offset " ++ Decimal.ofNat offset
      ++ "."
  | invalidLength length => "Invalid input length: " ++ Decimal.ofNat length
  | invalidPadding => "Invalid padding"

/-- The equals sign. -/
def pad : UInt8 := 0x3D

/-- The symbol of a six-bit number. -/
def symbol (n : Nat) : UInt8 :=
  if n < 26 then UInt8.ofNat (0x41 + n)
  else if n < 52 then UInt8.ofNat (0x61 + (n - 26))
  else if n < 62 then UInt8.ofNat (0x30 + (n - 52))
  else if n = 62 then 0x2B
  else 0x2F

/-- The six-bit number of a symbol. -/
def value? (b : UInt8) : Option Nat :=
  if 0x41 ≤ b ∧ b ≤ 0x5A then some (b.toNat - 0x41)
  else if 0x61 ≤ b ∧ b ≤ 0x7A then some (b.toNat - 0x61 + 26)
  else if 0x30 ≤ b ∧ b ≤ 0x39 then some (b.toNat - 0x30 + 52)
  else if b = 0x2B then some 62
  else if b = 0x2F then some 63
  else none

/-- The symbols of some bytes. -/
def encode : List UInt8 → List UInt8
  | a :: b :: c :: rest =>
    symbol (a.toNat / 4) :: symbol (a.toNat % 4 * 16 + b.toNat / 16) ::
      symbol (b.toNat % 16 * 4 + c.toNat / 64) :: symbol (c.toNat % 64) :: encode rest
  | [a, b] =>
    [symbol (a.toNat / 4), symbol (a.toNat % 4 * 16 + b.toNat / 16), symbol (b.toNat % 16 * 4), pad]
  | [a] => [symbol (a.toNat / 4), symbol (a.toNat % 4 * 16), pad, pad]
  | [] => []

/-- The number of a symbol at an offset. -/
def valueAt (offset : Nat) (b : UInt8) : Except Malformed Nat :=
  match value? b with
  | some n => .ok n
  | none => .error (.invalidSymbol offset b)

/-- The three bytes of a full group of symbols. -/
def group (offset : Nat) (a b c d : UInt8) : Except Malformed (List UInt8) := do
  let a ← valueAt offset a
  let b ← valueAt (offset + 1) b
  let c ← valueAt (offset + 2) c
  let d ← valueAt (offset + 3) d
  return [UInt8.ofNat (a * 4 + b / 16), UInt8.ofNat (b % 16 * 16 + c / 4),
    UInt8.ofNat (c % 4 * 64 + d)]

/-- The tail, octet by octet: `place` counts its octets, `symbols` holds those read so far (the
last one first) and `padding` the padding seen, with the place of the first. -/
def tailLoop (offset : Nat) :
    (place : Nat) → (symbols : List (UInt8 × Nat)) → (padding : Nat) → (firstPad : Nat) →
      List UInt8 → Except Malformed (List (UInt8 × Nat) × Nat)
  | _, symbols, padding, _, [] => .ok (symbols, padding)
  | place, symbols, padding, firstPad, b :: rest =>
    if b = pad then
      if place < 2 then .error (.invalidSymbol (offset + place) b)
      else
        tailLoop offset (place + 1) symbols (padding + 1)
          (if padding = 0 then place else firstPad) rest
    else if 0 < padding then .error (.invalidSymbol (offset + firstPad) pad)
    else
      match valueAt (offset + place) b with
      | .error e => .error e
      | .ok n => tailLoop offset (place + 1) ((b, n) :: symbols) padding firstPad rest

/-- The bytes of the tail. -/
def tail (offset : Nat) (s : List UInt8) : Except Malformed (List UInt8) :=
  match tailLoop offset 0 [] 0 0 s with
  | .error e => .error e
  | .ok (symbols, padding) =>
    match symbols with
    | [] => if offset = 0 ∧ s.isEmpty then .ok [] else .error (.invalidLength offset)
    | [_] => .error (.invalidLength (offset + 1))
    | (last, d) :: earlier =>
      if (symbols.length + padding) % 4 ≠ 0 then .error .invalidPadding
      else
        match earlier with
        | [(_, a)] =>
          if d % 16 ≠ 0 then .error (.invalidLastSymbol (offset + 1) last)
          else .ok [UInt8.ofNat (a * 4 + d / 16)]
        | [(_, b), (_, a)] =>
          if d % 4 ≠ 0 then .error (.invalidLastSymbol (offset + 2) last)
          else .ok [UInt8.ofNat (a * 4 + b / 16), UInt8.ofNat (b % 16 * 16 + d / 4)]
        | (_, c) :: (_, b) :: (_, a) :: _ =>
          .ok [UInt8.ofNat (a * 4 + b / 16), UInt8.ofNat (b % 16 * 16 + c / 4),
            UInt8.ofNat (c % 4 * 64 + d)]
        | [] => .ok []

/-- Reads groups as long as more than four octets remain, and then the tail. -/
def decodeFrom (offset : Nat) : List UInt8 → Except Malformed (List UInt8)
  | a :: b :: c :: d :: e :: rest =>
    match group offset a b c d with
    | .error f => .error f
    | .ok bytes =>
      match decodeFrom (offset + 4) (e :: rest) with
      | .error f => .error f
      | .ok more => .ok (bytes ++ more)
  | s => tail offset s

/-- The bytes that a text of symbols stands for.  A single octet left over after full groups is
looked at first: one outside the alphabet, a line feed for instance, is the fault then. -/
def decode (s : List UInt8) : Except Malformed (List UInt8) :=
  match s.getLast? with
  | some b =>
    if s.length % 4 = 1 ∧ b ≠ pad ∧ (value? b).isNone then .error (.invalidSymbol (s.length - 1) b)
    else decodeFrom 0 s
  | none => .ok []

end VideoProbe.Base64
