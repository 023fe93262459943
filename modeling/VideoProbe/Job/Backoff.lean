/-!
# Waiting between attempts

The delay after a failed attempt grows with the fourth power of the number of the attempt, up to an
hour.  The number is a signed word of thirty-two bits; its power is taken in words of sixty-four
bits, and where it is too great for one, the greatest word stands for it.
-/

namespace VideoProbe

namespace Word

/-- The product of two words, if it is a word. -/
def checkedMul (a b : UInt64) : Option UInt64 :=
  if a.toNat * b.toNat < UInt64.size then some (a * b) else none

/-- The power of a word, if it is a word. -/
def checkedPow (a : UInt64) : Nat → Option UInt64
  | 0 => some 1
  | n + 1 => (checkedPow a n).bind (checkedMul a)

/-- The greatest word. -/
def greatest : UInt64 :=
  UInt64.ofNat (UInt64.size - 1)

end Word

namespace Job

/-- The longest delay, in seconds. -/
def longestDelay : UInt64 := 3600

/-- The delay after an attempt, in seconds; an attempt below the first counts as the first.  The
number becomes a word by the bits of its two's complement. -/
def retryDelay (attempt : Int) : Nat :=
  let power := Word.checkedPow (UInt64.ofInt (max attempt 1)) 4
  (min (power.getD Word.greatest) longestDelay).toNat

end Job

end VideoProbe
