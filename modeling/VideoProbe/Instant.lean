import VideoProbe.Decimal.Digits
import VideoProbe.Text.Blank

/-!
# Points in time

A point in time is a number of seconds since the start of 1970 in universal time, and a fraction of
a second in nanoseconds.  During a leap second the fraction goes on past one second instead of
starting anew, so that `23:59:60` is told apart from the second after it.

Times are written with a `Z`, four digits of the year (a sign and more digits outside the years 0
to 9999), and no more decimals than needed, in groups of three.  They are read in a wider form: a
space for the `T`, spaces around the parts, any offset from universal time, decimals beyond the
ninth (which are dropped).  Dates are those of the Gregorian calendar, carried back without end.
-/

namespace VideoProbe

/-- A point in time. -/
structure Instant where
  /-- Seconds since the start of 1970. -/
  seconds : Int
  /-- Nanoseconds; from `10^9` on the point lies in a leap second. -/
  nanos : Nat
  deriving DecidableEq, Repr

namespace Instant

/-- Why a text is no point in time. -/
inductive Malformed where
  | outOfRange
  | impossible
  | invalid
  | tooShort
  | tooLong
  deriving DecidableEq, Repr

/-- A fault in words. -/
def Malformed.message : Malformed → String
  | outOfRange => "input is out of range"
  | impossible => "no possible date and time matching input"
  | invalid => "input contains invalid characters"
  | tooShort => "premature end of input"
  | tooLong => "trailing input"

/-! ## Calendar -/

/-- Days from the start of 1970 to a date, counted through years that start in March. -/
def daysOfDate (year : Int) (month day : Nat) : Int :=
  let y := if month ≤ 2 then year - 1 else year
  let era := Int.fdiv y 400
  let yearOfEra := y - era * 400
  let shifted : Int := if month ≤ 2 then (month : Int) + 9 else (month : Int) - 3
  let dayOfYear := Int.fdiv (153 * shifted + 2) 5 + (day : Int) - 1
  let dayOfEra := yearOfEra * 365 + Int.fdiv yearOfEra 4 - Int.fdiv yearOfEra 100 + dayOfYear
  era * 146097 + dayOfEra - 719468

/-- The date of a number of days from the start of 1970. -/
def dateOfDays (days : Int) : Int × Nat × Nat :=
  let z := days + 719468
  let era := Int.fdiv z 146097
  let dayOfEra := (z - era * 146097).toNat
  let yearOfEra := (dayOfEra - dayOfEra / 1460 + dayOfEra / 36524 - dayOfEra / 146096) / 365
  let dayOfYear := dayOfEra - (365 * yearOfEra + yearOfEra / 4 - yearOfEra / 100)
  let shifted := (5 * dayOfYear + 2) / 153
  let day := dayOfYear - (153 * shifted + 2) / 5 + 1
  let month := if shifted < 10 then shifted + 3 else shifted - 9
  let year := (yearOfEra : Int) + era * 400
  (if month ≤ 2 then year + 1 else year, month, day)

/-- A year with a twenty-ninth of February. -/
def isLeapYear (year : Int) : Bool :=
  year % 4 == 0 && (year % 100 != 0 || year % 400 == 0)

/-- The number of days of a month. -/
def daysInMonth (year : Int) (month : Nat) : Nat :=
  if month = 2 then (if isLeapYear year then 29 else 28)
  else if month = 4 ∨ month = 6 ∨ month = 9 ∨ month = 11 then 30
  else 31

/-- The first and the last year of the calendar. -/
def firstYear : Int := -262143
def lastYear : Int := 262142

/-- The first second of the calendar. -/
def firstSecond : Int := daysOfDate firstYear 1 1 * 86400

/-- The last second of the calendar. -/
def lastSecond : Int := daysOfDate lastYear 12 31 * 86400 + 86399

theorem firstSecond_eq : firstSecond = -8334601228800 := by
  decide +kernel

theorem lastSecond_eq : lastSecond = 8210266876799 := by
  decide +kernel

/-- A point in time that the calendar covers. -/
def isCovered (t : Instant) : Bool :=
  firstSecond ≤ t.seconds && t.seconds ≤ lastSecond

/-- A point in time that the clock of a machine shows: it counts nanoseconds since the start of 1970
in sixty-three bits, which last until the year 2262, and knows no leap seconds. -/
def isShown (t : Instant) : Bool :=
  0 ≤ t.seconds && t.seconds * 1000000000 + (t.nanos : Int) < (Nat.pow 2 63 : Nat) &&
    t.nanos < 1000000000

theorem isShown_start : (⟨0, 0⟩ : Instant).isShown = true := by
  decide

/-! ## Writing -/

/-- The year: four digits, or a sign and at least four digits. -/
def yearChars (year : Int) : List Char :=
  if 0 ≤ year ∧ year ≤ 9999 then Decimal.padded 4 year.toNat
  else (if year < 0 then '-' else '+') :: Decimal.padded 4 year.natAbs

/-- The decimals of a second, in as few groups of three as hold them. -/
def fractionChars (nanos : Nat) : List Char :=
  if nanos = 0 then []
  else if nanos % 1000000 = 0 then '.' :: Decimal.padded 3 (nanos / 1000000)
  else if nanos % 1000 = 0 then '.' :: Decimal.padded 6 (nanos / 1000)
  else '.' :: Decimal.padded 9 nanos

/-- The written form. -/
def chars (t : Instant) : List Char :=
  let days := Int.fdiv t.seconds 86400
  let ofDay := (t.seconds - days * 86400).toNat
  let (year, month, day) := dateOfDays days
  let leap := if t.nanos < 1000000000 then 0 else 1
  yearChars year ++ '-' :: (Decimal.twoDigits month ++ '-' :: (Decimal.twoDigits day ++ 'T' ::
    (Decimal.twoDigits (ofDay / 3600) ++ ':' :: (Decimal.twoDigits (ofDay / 60 % 60) ++ ':' ::
      (Decimal.twoDigits (ofDay % 60 + leap) ++
        (fractionChars (t.nanos % 1000000000) ++ ['Z']))))))

/-- The written form of a point in time. -/
def text (t : Instant) : String :=
  String.ofList t.chars

/-- The day of a point in time. -/
def dateText (t : Instant) : String :=
  String.ofList (t.chars.takeWhile (· ≠ 'T'))

/-! ## Reading -/

/-- A part of a time that was read, and the characters after it. -/
abbrev Part (α : Type) := Except Malformed (α × List Char)

/-- The characters after white space. -/
def skipBlank (cs : List Char) : List Char :=
  cs.dropWhile Text.isBlank

/-- A whole number of at least one and at most `width` digits, below `2^63`. -/
def number (width : Option Nat) (cs : List Char) : Part Nat :=
  match cs with
  | [] => .error .tooShort
  | _ :: _ =>
    let window :=
      match width with
      | some w => cs.take w
      | none => cs
    let ds := window.takeWhile Decimal.isDigit
    if ds.isEmpty then .error .invalid
    else
      let n := Decimal.ofDigits ds
      if n < Nat.pow 2 63 then .ok (n, cs.drop ds.length) else .error .outOfRange

/-- A number after white space that has to lie between two bounds. -/
def bounded (low high : Nat) (cs : List Char) : Part Nat :=
  match number (some 2) (skipBlank cs) with
  | .error e => .error e
  | .ok (n, rest) => if low ≤ n ∧ n ≤ high then .ok (n, rest) else .error .outOfRange

/-- A year: at most four digits, or a sign and any number of them. -/
def readYear (cs : List Char) : Part Int :=
  let signed := fun (sign : Int) (r : Part Nat) =>
    match r with
    | .error e => .error e
    | .ok (n, rest) =>
      let y := sign * (n : Int)
      if -2147483648 ≤ y ∧ y ≤ 2147483647 then .ok (y, rest) else .error .outOfRange
  match skipBlank cs with
  | '-' :: rest => signed (-1) (number none rest)
  | '+' :: rest => signed 1 (number none rest)
  | cs => signed 1 (number (some 4) cs)

/-- A separator after white space. -/
def separator (c : Char) (cs : List Char) : Except Malformed (List Char) :=
  match skipBlank cs with
  | [] => .error .tooShort
  | d :: rest => if d = c then .ok rest else .error .invalid

/-- The decimals of a second, if there are any, in nanoseconds. -/
def readFraction (cs : List Char) : Part Nat :=
  match cs with
  | '.' :: rest =>
    match number (some 9) rest with
    | .error e => .error e
    | .ok (n, after) =>
      .ok (n * Nat.pow 10 (9 - (rest.length - after.length)), after.dropWhile Decimal.isDigit)
  | cs => .ok (0, cs)

/-- What two characters of an offset have to be. -/
inductive Pair where
  | short
  | pair (a b : Char) (rest : List Char)

/-- The first two octets of an offset's part; a character outside ASCII has at least two. -/
def pairOf (cs : List Char) : Pair :=
  match cs with
  | [] => .short
  | [a] => if a.toNat < 0x80 then .short else .pair a a []
  | a :: b :: rest => .pair a b rest

/-- The offset from universal time, in seconds. -/
def readOffset (cs : List Char) : Part Int :=
  match cs with
  | 'Z' :: rest => .ok (0, rest)
  | 'z' :: rest => .ok (0, rest)
  | [] => .error .tooShort
  | c :: rest =>
    if c = '+' ∨ c = '-' ∨ c = '−' then
      match pairOf rest with
      | .short => .error .tooShort
      | .pair a b rest =>
        if Decimal.isDigit a && Decimal.isDigit b then
          let hours := Decimal.ofDigits [a, b]
          match pairOf (rest.dropWhile fun c => c = ':' || Text.isBlank c) with
          | .short => .error .tooShort
          | .pair a b rest =>
            if Decimal.isDigit a && Decimal.isDigit b then
              let minutes := Decimal.ofDigits [a, b]
              if 59 < minutes then .error .outOfRange
              else
                let size : Int := (hours * 3600 + minutes * 60 : Nat)
                .ok (if c = '+' then size else -size, rest)
            else .error .invalid
        else .error .invalid
    else .error .invalid

/-- The offset of a time, or the letters of universal time. -/
def readZone (cs : List Char) : Part Int :=
  match cs with
  | a :: b :: c :: rest =>
    if a.toUpper = 'U' ∧ b.toUpper = 'T' ∧ c.toUpper = 'C' then .ok (0, rest) else readOffset cs
  | cs => readOffset cs

/-- The point in time of a date, a time of day and an offset. -/
def assemble (year : Int) (month day hour minute second nanos : Nat) (offset : Int) :
    Except Malformed Instant :=
  if year < firstYear ∨ lastYear < year then .error .outOfRange
  else if daysInMonth year month < day then .error .outOfRange
  else if offset ≤ -86400 ∨ 86400 ≤ offset then .error .outOfRange
  else
    let (second, nanos) := if second = 60 then (59, nanos + 1000000000) else (second, nanos)
    let ofDay := hour * 3600 + minute * 60 + second
    let t : Instant := ⟨daysOfDate year month day * 86400 + (ofDay : Int) - offset, nanos⟩
    if t.isCovered then .ok t else .error .impossible

/-- The reader on characters. -/
def parseChars (cs : List Char) : Except Malformed Instant := do
  let (year, cs) ← readYear cs
  let cs ← separator '-' cs
  let (month, cs) ← bounded 1 12 cs
  let cs ← separator '-' cs
  let (day, cs) ← bounded 1 31 cs
  let cs ←
    match cs with
    | [] => .error .tooShort
    | c :: rest => if c = 'T' ∨ c = 't' ∨ c = ' ' then .ok rest else .error .invalid
  let (hour, cs) ← bounded 0 23 cs
  let cs ← separator ':' cs
  let (minute, cs) ← bounded 0 59 cs
  let cs ← separator ':' cs
  let (second, cs) ← bounded 0 60 cs
  let (nanos, cs) ← readFraction cs
  let (offset, cs) ← readZone (skipBlank cs)
  if (skipBlank cs).isEmpty then assemble year month day hour minute second nanos offset
  else .error .tooLong

/-- Reads a point in time. -/
def parse (s : String) : Except Malformed Instant :=
  parseChars s.toList

/-! ## Distances -/

/-- The point in time some nanoseconds later. -/
def addNanos (t : Instant) (n : Int) : Instant :=
  let total := t.seconds * 1000000000 + (t.nanos : Int) + n
  ⟨Int.fdiv total 1000000000, (Int.fmod total 1000000000).toNat⟩

/-- The point in time some whole seconds later. -/
def addSeconds (t : Instant) (n : Int) : Instant :=
  ⟨t.seconds + n, t.nanos⟩

/-- The microseconds from one point in time to another. -/
def microsSince (t start : Instant) : Int :=
  Int.fdiv ((t.seconds - start.seconds) * 1000000000 + ((t.nanos : Int) - start.nanos)) 1000

end Instant

end VideoProbe
