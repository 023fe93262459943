/-!
# Whole numbers in decimal

Writing and reading natural numbers as decimal digits, on lists of characters.  What is written is
never empty (`digits_ne_nil`), and digits only (`all_isDigit_digits`).
-/

namespace VideoProbe.Decimal

/-- The digit for a number below ten. -/
def digitChar (n : Nat) : Char :=
  match n with
  | 0 => '0' | 1 => '1' | 2 => '2' | 3 => '3' | 4 => '4'
  | 5 => '5' | 6 => '6' | 7 => '7' | 8 => '8' | _ => '9'

/-- The number a digit stands for. -/
def digitValue (c : Char) : Nat :=
  c.toNat - 48

/-- One of the ten digits. -/
def isDigit (c : Char) : Bool :=
  '0' ≤ c && c ≤ '9'

/-- The loop of `digits`: puts the digits of `n` in front of those already written. -/
def digitsLoop : Nat → Nat → List Char → List Char
  | 0, _, acc => acc
  | fuel + 1, n, acc =>
    if n < 10 then digitChar n :: acc else digitsLoop fuel (n / 10) (digitChar (n % 10) :: acc)

/-- The digits of a number, most significant first; zero has one digit. -/
def digits (n : Nat) : List Char :=
  digitsLoop (n.log2 + 1) n []

/-- The number that digits spell, after a number already read. -/
def ofDigitsFrom (n : Nat) (cs : List Char) : Nat :=
  cs.foldl (fun n c => n * 10 + digitValue c) n

/-- The number that digits spell. -/
def ofDigits (cs : List Char) : Nat :=
  ofDigitsFrom 0 cs

/-- The digits of a number, as a string. -/
def ofNat (n : Nat) : String :=
  String.ofList (digits n)

/-- A whole number: a minus sign where it is negative, and the digits of its size. -/
def ofInt (n : Int) : String :=
  if n < 0 then "-" ++ ofNat n.natAbs else ofNat n.natAbs

/-- A number below a hundred, in two digits. -/
def twoDigits (n : Nat) : List Char :=
  [digitChar (n / 10 % 10), digitChar (n % 10)]

/-- A number in at least `width` digits, filled up with zeros. -/
def padded (width n : Nat) : List Char :=
  let ds := digits n
  List.replicate (width - ds.length) '0' ++ ds

/-! ## What is written -/

theorem isDigit_digitChar (n : Nat) : isDigit (digitChar n) = true := by
  unfold digitChar
  split <;> rfl

private theorem all_isDigit_digitsLoop (fuel n : Nat) (acc : List Char)
    (h : acc.all isDigit = true) : (digitsLoop fuel n acc).all isDigit = true := by
  induction fuel generalizing n acc with
  | zero => exact h
  | succ fuel ih =>
    unfold digitsLoop
    split
    · simp [isDigit_digitChar, h]
    · exact ih _ _ (by simp [isDigit_digitChar, h])

/-- Nothing but digits is written. -/
theorem all_isDigit_digits (n : Nat) : (digits n).all isDigit = true :=
  all_isDigit_digitsLoop _ _ _ rfl

private theorem digitsLoop_ne_nil (fuel n : Nat) {acc : List Char} (h : acc ≠ []) :
    digitsLoop fuel n acc ≠ [] := by
  induction fuel generalizing n acc with
  | zero => exact h
  | succ fuel ih =>
    unfold digitsLoop
    split
    · exact List.cons_ne_nil _ _
    · exact ih _ (List.cons_ne_nil _ _)

/-- Every number has a digit. -/
theorem digits_ne_nil (n : Nat) : digits n ≠ [] := by
  unfold digits digitsLoop
  split
  · exact List.cons_ne_nil _ _
  · exact digitsLoop_ne_nil _ _ (List.cons_ne_nil _ _)

end VideoProbe.Decimal
