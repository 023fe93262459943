import VideoProbe.Decimal.Digits

/-!
# The shortest decimal of a floating-point number

A double is `m · 2^q` for whole numbers `m` and `q`, and every real number between the midpoints
to its two neighbours rounds to it (a midpoint itself rounds to the neighbour whose `m` is even).
The shortest decimal of the double is the one with the fewest digits inside that interval, and of
several with equally few the one nearest to the double; of two equally near ones, the one whose
last digit is even.

To find it no floating-point arithmetic is needed.  With one digit, two digits, and so on up to
seventeen, the two points of the decimal grid around the value are tested for membership; if any
point of a grid lies in the interval, one of these two does.  Everything is compared as a quotient
of natural numbers over a common denominator.
-/

namespace VideoProbe.Decimal

/-- A positive double in pieces: the value `mantissa · 2^exponent`, and whether the gap to the
next smaller double is half the gap to the next greater one (`mantissa` is a power of two). -/
structure Binary where
  mantissa : Nat
  exponent : Int
  lowerGapIsHalf : Bool
  deriving Repr, DecidableEq

/-- A decimal number `digits · 10^exponent`. -/
structure Scaled where
  digits : Nat
  exponent : Int
  deriving Repr, DecidableEq

namespace Binary

/-- The pieces of the absolute value of a finite double, read off its bits. -/
def ofBits (bits : Nat) : Binary :=
  let fraction : Nat := bits % Nat.pow 2 52
  let biased : Nat := bits / Nat.pow 2 52 % Nat.pow 2 11
  if biased = 0 then ⟨fraction, -1074, false⟩
  else ⟨Nat.pow 2 52 + fraction, (biased : Int) - 1075, fraction = 0 && 1 < biased⟩

/-- The interval of a double over a common denominator. -/
structure Interval where
  low : Nat
  value : Nat
  high : Nat
  denominator : Nat
  /-- Whether the two ends belong to the interval. -/
  closed : Bool

/-- The numbers that round to a double, as quarters of its last place. -/
def interval (b : Binary) : Interval :=
  let up := Nat.pow 2 b.exponent.toNat
  let down := Nat.pow 2 (-b.exponent).toNat
  { low := (4 * b.mantissa - (if b.lowerGapIsHalf then 1 else 2)) * up
    value := 4 * b.mantissa * up
    high := (4 * b.mantissa + 2) * up
    denominator := 4 * down
    closed := b.mantissa % 2 = 0 }

/-- The number of digits before the point of a quotient: `k` with `10^(k-1) ≤ n / d < 10^k`. -/
def magnitude (n d : Nat) : Int :=
  if d ≤ n then ((Decimal.digits (n / d)).length : Int)
  else
    let t := (Decimal.digits (d / n)).length
    if n * Nat.pow 10 (t - 1) = d then 2 - (t : Int) else 1 - (t : Int)

/-- A point of the decimal grid as a quotient over the interval's denominator times a power of
ten, tested for membership. -/
def Interval.contains (i : Interval) (point : Scaled) : Bool :=
  let up := Nat.pow 10 point.exponent.toNat
  let down := Nat.pow 10 (-point.exponent).toNat
  let p := point.digits * up * i.denominator
  if i.closed then i.low * down ≤ p && p ≤ i.high * down
  else i.low * down < p && p < i.high * down

/-- Of the two grid points with `count` digits around the value, the one in the interval, or the
nearer one if both are. -/
def Interval.onGrid? (i : Interval) (place : Int) (count : Nat) : Option Scaled :=
  let e := place - (count : Int)
  let up := Nat.pow 10 e.toNat
  let down := Nat.pow 10 (-e).toNat
  let num := i.value * down
  let den := i.denominator * up
  let below := num / den
  let lower : Scaled := ⟨below, e⟩
  let upper : Scaled := ⟨below + 1, e⟩
  match i.contains lower, i.contains upper with
  | true, false => some lower
  | false, true => some upper
  | false, false => none
  | true, true =>
    let twice := 2 * (num - below * den)
    if twice < den then some lower
    else if den < twice then some upper
    else if below % 2 = 0 then some lower else some upper

/-- The loop over the digit counts. -/
def Interval.search (i : Interval) (place : Int) : Nat → Nat → Scaled
  | 0, _ => ⟨0, 0⟩
  | fuel + 1, count =>
    match i.onGrid? place count with
    | some s => s
    | none => i.search place fuel (count + 1)

/-- The shortest decimal of a positive double. -/
def shortest (b : Binary) : Scaled :=
  let i := b.interval
  i.search (magnitude i.value i.denominator) 17 1

end Binary

/-- Drops the zeros at the end of the digits, at most `fuel` of them. -/
def Scaled.trimZeros : Nat → Scaled → Scaled
  | 0, s => s
  | fuel + 1, s =>
    if s.digits ≠ 0 ∧ s.digits % 10 = 0 then Scaled.trimZeros fuel ⟨s.digits / 10, s.exponent + 1⟩
    else s

/-- How a floating-point number is laid out: for which powers of ten of the first digit the point
is written in its place, and whether an exponent carries a plus sign. -/
structure Layout where
  least : Int
  greatest : Int
  plusSign : Bool

/-- The text of a nonzero decimal: `0.00012`, `120.0`, `1.2`, or `1.2e-7`. -/
def Layout.positive (layout : Layout) (s : Scaled) : List Char :=
  let ds := digits s.digits
  let first := (ds.length : Int) - 1 + s.exponent
  if layout.least ≤ first ∧ first ≤ layout.greatest then
    if 0 ≤ s.exponent then ds ++ List.replicate s.exponent.toNat '0' ++ ['.', '0']
    else if 0 ≤ first then
      ds.take (first.toNat + 1) ++ '.' :: ds.drop (first.toNat + 1)
    else '0' :: '.' :: List.replicate ((-first).toNat - 1) '0' ++ ds
  else
    let mark := if first < 0 then ['e', '-'] else if layout.plusSign then ['e', '+'] else ['e']
    let fraction := if ds.length = 1 then [] else '.' :: ds.drop 1
    ds.take 1 ++ fraction ++ mark ++ digits first.natAbs

/-- The text of a finite double: its shortest decimal in a layout, with the sign of zero kept. -/
def Layout.finite (layout : Layout) (x : Float) : List Char :=
  let bits := x.toBits.toNat
  let sign := if bits / Nat.pow 2 63 = 1 then ['-'] else []
  let size := bits % Nat.pow 2 63
  if size = 0 then sign ++ ['0', '.', '0']
  else sign ++ layout.positive ((Binary.ofBits size).shortest.trimZeros 17)

end VideoProbe.Decimal
