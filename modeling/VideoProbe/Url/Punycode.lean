/-!
# Punycode

A label of a domain in which characters outside ASCII are written with letters, digits and hyphens.
The characters of ASCII come first, followed by a hyphen; the others are inserted one after another
in the order of their numbers, each as the distance that a counter over numbers and positions
travels from the last insertion.  A distance is a number whose digits have weights that adapt to
the distances so far, least significant digit first.
-/

namespace VideoProbe.Url.Punycode

/-- The digit with a value: `a` to `z`, then `0` to `9`. -/
def digit (d : Nat) : Char :=
  if d < 26 then Char.ofNat (0x61 + d) else Char.ofNat (0x16 + d)

/-- The value of a digit of either case. -/
def digitValue? (c : Char) : Option Nat :=
  let n := c.toNat
  if 0x61 ≤ n ∧ n ≤ 0x7A then some (n - 0x61)
  else if 0x41 ≤ n ∧ n ≤ 0x5A then some (n - 0x41)
  else if 0x30 ≤ n ∧ n ≤ 0x39 then some (n - 0x16)
  else none

/-- The least value that does not end a distance, at the digit with weight position `k`. -/
def threshold (k bias : Nat) : Nat :=
  if k ≤ bias then 1 else if bias + 26 ≤ k then 26 else k - bias

/-- Divides a distance by 35 until it is small; counts 36 for every division. -/
def shrink (delta k : Nat) : Nat × Nat :=
  if 455 < delta then shrink (delta / 35) (k + 36) else (delta, k)
termination_by delta
decreasing_by exact Nat.div_lt_self (by omega) (by omega)

/-- The bias after a distance that leads to the given number of characters. -/
def adapt (delta points : Nat) (first : Bool) : Nat :=
  let d := if first then delta / 700 else delta / 2
  let (small, k) := shrink (d + d / points) 0
  k + 36 * small / (small + 38)

/-- The digits of a distance; no more of them are written than `fuel` allows, which the distance
itself does. -/
def distanceDigits (bias : Nat) : Nat → Nat → Nat → List Char
  | 0, _, _ => []
  | fuel + 1, k, q =>
    let t := threshold k bias
    if q < t then [digit q]
    else digit (t + (q - t) % (36 - t)) :: distanceDigits bias fuel (k + 36) ((q - t) / (36 - t))

/-- What has been written so far. -/
structure Writing where
  out : List Char
  delta : Nat
  bias : Nat
  /-- How many characters have been written. -/
  done : Nat

/-- Passes one character of the label while those with number `n` are inserted. -/
def pass (basic n : Nat) (w : Writing) (c : Char) : Writing :=
  if c.toNat < n then { w with delta := w.delta + 1 }
  else if c.toNat = n then
    { out := w.out ++ distanceDigits w.bias (w.delta + 1) 36 w.delta, delta := 0,
      bias := adapt w.delta (w.done + 1) (w.done == basic), done := w.done + 1 }
  else w

/-- Inserts the characters with the given numbers, which ascend. -/
def insertAll (label : List Char) (basic : Nat) : List Nat → Nat → Writing → Writing
  | [], _, w => w
  | n :: ns, from_, w =>
    let ready := { w with delta := w.delta + (n - from_) * (w.done + 1) }
    let passed := label.foldl (pass basic n) ready
    insertAll label basic ns (n + 1) { passed with delta := passed.delta + 1 }

/-- Inserts a number into ascending ones, once. -/
def insertNumber (n : Nat) : List Nat → List Nat
  | [] => [n]
  | m :: ms => if n < m then n :: m :: ms else if n = m then m :: ms else m :: insertNumber n ms

/-- A label in letters, digits and hyphens. -/
def encode (label : List Char) : List Char :=
  let basic := label.filter fun c => c.toNat < 0x80
  let numbers := (label.filter fun c => 0x80 ≤ c.toNat).foldr (fun c ns => insertNumber c.toNat ns) []
  let head := if basic.isEmpty then [] else basic ++ ['-']
  (insertAll label basic.length numbers 0x80 ⟨head, 0, 72, basic.length⟩).out

/-- Reads a distance: the counter after it, and the text after its digits. -/
def readDistance? (bias : Nat) : List Char → Nat → Nat → Nat → Option (Nat × List Char)
  | [], _, _, _ => none
  | c :: rest, k, weight, i =>
    match digitValue? c with
    | none => none
    | some d =>
      let t := threshold k bias
      if d < t then some (i + d * weight, rest)
      else readDistance? bias rest (k + 36) (weight * (36 - t)) (i + d * weight)

/-- Inserts the characters that distances describe; every distance has a digit, so the length of
the text is fuel enough. -/
def insertDescribed : Nat → Nat → Nat → Nat → List Char → List Char → Option (List Char)
  | _, _, _, _, out, [] => some out
  | 0, _, _, _, _, _ => none
  | fuel + 1, bias, n, i, out, text =>
    match readDistance? bias text 36 1 i with
    | none => none
    | some (j, rest) =>
      let points := out.length + 1
      let number := n + j / points
      if number.isValidChar then
        insertDescribed fuel (adapt (j - i) points (i == 0)) number (j % points + 1)
          (out.take (j % points) ++ Char.ofNat number :: out.drop (j % points)) rest
      else none

/-- The label behind letters, digits and hyphens, if they describe one. -/
def decode? (text : List Char) : Option (List Char) :=
  let tail := (text.reverse.takeWhile (· != '-')).reverse
  let head := (text.take (text.length - tail.length)).dropLast
  if text.any fun c => 0x80 ≤ c.toNat then none
  else insertDescribed tail.length 72 0x80 0 head tail

end VideoProbe.Url.Punycode
