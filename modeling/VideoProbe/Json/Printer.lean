import VideoProbe.Decimal.Shortest
import VideoProbe.Json.Value
import VideoProbe.Text.Quoted

/-!
# The text of a JSON value

The compact form: no space anywhere, members in the order of the tree, characters outside ASCII as
they are, and inside a string a backslash before quotes, backslashes and control characters.
Floating-point numbers have their shortest decimal, with a point or an exponent always present.
-/

namespace VideoProbe.Json

/-- Floating-point numbers are positional from `0.00001` up to `1000000000000000.0`, and
scientific beyond, with a sign in front of every exponent. -/
def realLayout : Decimal.Layout where
  least := -5
  greatest := 15
  plusSign := true

/-- The text of a floating-point number. -/
def realChars (x : Float) : List Char :=
  realLayout.finite x

/-- The text of a whole number. -/
def intChars (n : Int) : List Char :=
  if n < 0 then '-' :: Decimal.digits n.natAbs else Decimal.digits n.natAbs

/-- One character inside a string. -/
def escapeChar (c : Char) : List Char :=
  if c = '"' then ['\\', '"']
  else if c = '\\' then ['\\', '\\']
  else if c = '\x08' then ['\\', 'b']
  else if c = '\t' then ['\\', 't']
  else if c = '\n' then ['\\', 'n']
  else if c = '\x0c' then ['\\', 'f']
  else if c = '\r' then ['\\', 'r']
  else if c.toNat < 0x20 then
    ['\\', 'u', '0', '0', Text.Quoted.hexDigit (c.toNat / 16), Text.Quoted.hexDigit (c.toNat % 16)]
  else [c]

/-- The text of a string. -/
def stringChars (s : String) : List Char :=
  '"' :: (s.toList.flatMap escapeChar ++ ['"'])

mutual

/-- The text of a value. -/
def chars : Json → List Char
  | null => ['n', 'u', 'l', 'l']
  | bool true => ['t', 'r', 'u', 'e']
  | bool false => ['f', 'a', 'l', 's', 'e']
  | int n => intChars n
  | real x => realChars x
  | str s => stringChars s
  | array [] => ['[', ']']
  | array (v :: rest) => '[' :: (v.chars ++ (itemsChars rest ++ [']']))
  | object [] => ['\x7b', '\x7d']
  | object ((k, v) :: rest) =>
    '\x7b' :: (stringChars k ++ ':' :: (v.chars ++ (membersChars rest ++ ['\x7d'])))

/-- The text of the items after the first, a comma before each. -/
def itemsChars : List Json → List Char
  | [] => []
  | v :: rest => ',' :: (v.chars ++ itemsChars rest)

/-- The text of the members after the first, a comma before each. -/
def membersChars : List (String × Json) → List Char
  | [] => []
  | (k, v) :: rest => ',' :: (stringChars k ++ ':' :: (v.chars ++ membersChars rest))

end

/-- The compact text of a value. -/
def text (v : Json) : String :=
  String.ofList v.chars

end VideoProbe.Json
