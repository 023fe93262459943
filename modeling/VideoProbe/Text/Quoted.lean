import VideoProbe.Text.Printable

/-!
# Quoted texts

A text between double quotes, as messages show it: quotes, backslashes and the common control
characters are written with a backslash, a character that would not be visible by its number in
hexadecimal, everything else as it is.
-/

namespace VideoProbe.Text.Quoted

/-- One lower-case hexadecimal digit. -/
def hexDigit (n : Nat) : Char :=
  if n < 10 then Char.ofNat (48 + n) else Char.ofNat (87 + n)

/-- The hexadecimal digits of a number, most significant first, without leading zeros. -/
def hexLoop : Nat → Nat → List Char → List Char
  | 0, _, acc => acc
  | fuel + 1, n, acc =>
    if n < 16 then hexDigit n :: acc else hexLoop fuel (n / 16) (hexDigit (n % 16) :: acc)

/-- The hexadecimal digits of a character's number. -/
def hexNumber (c : Char) : List Char :=
  hexLoop 8 c.toNat []

/-- One character inside the quotes. -/
def escape (c : Char) : List Char :=
  match c with
  | '\x00' => ['\\', '0']
  | '\t' => ['\\', 't']
  | '\r' => ['\\', 'r']
  | '\n' => ['\\', 'n']
  | '"' => ['\\', '"']
  | '\\' => ['\\', '\\']
  | c =>
    if isPrintable c && !isExtending c then [c]
    else '\\' :: 'u' :: '\x7b' :: hexNumber c ++ ['\x7d']

/-- A text between double quotes. -/
def quoteChars (cs : List Char) : List Char :=
  '"' :: cs.flatMap escape ++ ['"']

end VideoProbe.Text.Quoted

namespace VideoProbe.Text

/-- A text between double quotes. -/
def quote (s : String) : String :=
  String.ofList (Quoted.quoteChars s.toList)

end VideoProbe.Text
