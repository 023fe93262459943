import VideoProbe.Decimal.Digits

/-!
# Reading numbers

Whole numbers as settings give them: an optional plus sign and digits, nothing else, not even a
space.  Floating-point numbers as a probe prints them: a sign, digits with an optional point, an
optional exponent, or the words for infinity and for no number at all.  The double nearest to the
decimal is taken, and of two equally near ones the even one.
-/

namespace VideoProbe.Decimal

/-- Why a text is no whole number below a limit. -/
inductive MalformedNumber where
  | empty
  | invalidDigit
  | tooLarge
  deriving DecidableEq, Repr

/-- A fault in words. -/
def MalformedNumber.message : MalformedNumber → String
  | empty => "cannot parse integer from empty string"
  | invalidDigit => "invalid digit found in string"
  | tooLarge => "number too large to fit in target type"

/-- A whole number of at least zero and below a limit. -/
def parseBelow (limit : Nat) (s : String) : Except MalformedNumber Nat :=
  let ds :=
    match s.toList with
    | '+' :: rest => rest
    | cs => cs
  if s.isEmpty then .error .empty
  else if ds.isEmpty || !ds.all isDigit then .error .invalidDigit
  else if ofDigits ds < limit then .ok (ofDigits ds)
  else .error .tooLarge

/-- A whole number of at least zero and below a limit, if the text is one. -/
def below? (limit : Nat) (s : String) : Option Nat :=
  match parseBelow limit s with
  | .ok n => some n
  | .error _ => none

/-- A number of sixteen bits, a port for instance. -/
def word16? (s : String) : Option Nat := below? (Nat.pow 2 16) s

/-- A number of thirty-two bits. -/
def word32? (s : String) : Option Nat := below? (Nat.pow 2 32) s

/-- A number of sixty-four bits. -/
def word64? (s : String) : Option Nat := below? (Nat.pow 2 64) s

/-- The double nearest to `digits · 10^exponent`.  Powers so large or small that the result is
infinite or zero whatever the digits are cut down first. -/
def nearestDouble (digits : Nat) (exponent : Int) : Float :=
  if digits = 0 then 0.0
  else
    let places : Int := digits.log2
    if 1100 < exponent then 1.0 / 0.0
    else if exponent < -1100 - places then 0.0
    else if 0 ≤ exponent then Float.ofScientific digits false exponent.toNat
    else Float.ofScientific digits true exponent.natAbs

/-- Whether a number has a minus sign, and what follows its sign. -/
def takeSign (cs : List Char) : Bool × List Char :=
  match cs with
  | '-' :: rest => (true, rest)
  | '+' :: rest => (false, rest)
  | cs => (false, cs)

/-- The exponent of a number, after its letter: a sign and at least one digit, nothing after. -/
def exponent? (cs : List Char) : Option Int :=
  let (negative, ds) := takeSign cs
  if ds.isEmpty || !ds.all isDigit then none
  else if negative then some (-(ofDigits ds : Int)) else some (ofDigits ds)

/-- The exponent of a number, with its letter; zero if there is none. -/
def exponentPart? (cs : List Char) : Option Int :=
  match cs with
  | [] => some 0
  | c :: r => if c = 'e' ∨ c = 'E' then exponent? r else none

/-- The decimals of a number, and what follows them. -/
def takeFraction (cs : List Char) : List Char × List Char :=
  match cs with
  | '.' :: r => (r.takeWhile isDigit, r.dropWhile isDigit)
  | cs => ([], cs)

/-- A number without its sign. -/
def unsigned? (cs : List Char) : Option Float :=
  let whole := cs.takeWhile isDigit
  let (fraction, rest) := takeFraction (cs.dropWhile isDigit)
  if whole.isEmpty && fraction.isEmpty then none
  else
    (exponentPart? rest).map fun e =>
      nearestDouble (ofDigits (whole ++ fraction)) (e - fraction.length)

/-- The words for numbers that are none. -/
def word? (cs : List Char) : Option Float :=
  let w := cs.map Char.toLower
  if w = ['i', 'n', 'f'] ∨ w = ['i', 'n', 'f', 'i', 'n', 'i', 't', 'y'] then some (1.0 / 0.0)
  else if w = ['n', 'a', 'n'] then some (0.0 / 0.0)
  else none

/-- The floating-point number that a text spells. -/
def float? (s : String) : Option Float :=
  let (negative, cs) := takeSign s.toList
  let size := (word? cs).or (unsigned? cs)
  size.map fun x => if negative then -x else x

end VideoProbe.Decimal
