/-!
# Percent-encoding

Octets inside a URL: an octet that may stand for itself does so, and any other is written as a
percent sign and two hexadecimal digits.  Which octets may stand for themselves depends on the part
of the URL, so it is a parameter.  Reading accepts digits of either case, and leaves a percent sign
that begins no such triple as it is.
-/

namespace VideoProbe.Text.Percent

/-- One upper-case hexadecimal digit. -/
def upperHexDigit (n : Nat) : Char :=
  if n < 10 then Char.ofNat (48 + n) else Char.ofNat (55 + n)

/-- One octet; `keep` tells which octets stand for themselves. -/
def encodeOctet (keep : UInt8 → Bool) (b : UInt8) : List Char :=
  if keep b then [Char.ofNat b.toNat]
  else ['%', upperHexDigit (b.toNat / 16), upperHexDigit (b.toNat % 16)]

/-- Octets as characters of a URL. -/
def encode (keep : UInt8 → Bool) (bs : List UInt8) : List Char :=
  bs.flatMap (encodeOctet keep)

/-- The value of an octet that is a hexadecimal digit. -/
def hexValue? (b : UInt8) : Option Nat :=
  let n := b.toNat
  if 0x30 ≤ n ∧ n ≤ 0x39 then some (n - 0x30)
  else if 0x41 ≤ n ∧ n ≤ 0x46 then some (n - 0x37)
  else if 0x61 ≤ n ∧ n ≤ 0x66 then some (n - 0x57)
  else none

/-- The octets behind a percent-encoded text. -/
def decode : List UInt8 → List UInt8
  | a :: b :: c :: rest =>
    match hexValue? b, hexValue? c with
    | some x, some y =>
      if a = 0x25 then UInt8.ofNat (x * 16 + y) :: decode rest else a :: decode (b :: c :: rest)
    | _, _ => a :: decode (b :: c :: rest)
  | bs => bs

end VideoProbe.Text.Percent
