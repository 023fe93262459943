import VideoProbe.Json.Printer

/-!
# Why a text or a value is refused

Reading stops at the first fault, and a fault is a cause together with a place.  The causes come
in two groups: those of the notation (a comma too many, a text that ends early) and those of the
value that was expected (a wrong type, a missing member, a name that is not known).
-/

namespace VideoProbe.Json

/-- What stood in the place of an expected value. -/
inductive Found where
  | null
  | boolean (value : Bool)
  | integer (value : Int)
  | real (value : Float)
  | string (value : String)
  | sequence
  | map
  | unitVariant

/-- What a fault message calls the thing that was found. -/
def Found.describe : Found → String
  | null => "null"
  | boolean true => "boolean `true`"
  | boolean false => "boolean `false`"
  | integer n => "integer `" ++ Decimal.ofInt n ++ "`"
  | real x => "floating point `" ++ String.ofList (realChars x) ++ "`"
  | string s => "string " ++ Text.quote s
  | sequence => "sequence"
  | map => "map"
  | unitVariant => "unit variant"

/-- What a value is when another was expected. -/
def found : Json → Found
  | .null => .null
  | .bool b => .boolean b
  | .int n => .integer n
  | .real x => .real x
  | .str s => .string s
  | .array _ => .sequence
  | .object _ => .map

/-- A part of a document whose end was not reached. -/
inductive Unfinished where
  | list
  | object
  | string
  | value

/-- The cause of a fault. -/
inductive Cause where
  /-- The text ends inside a list, an object, a string or a value. -/
  | ended (inside : Unfinished)
  | expectedColon
  | expectedListCommaOrEnd
  | expectedObjectCommaOrEnd
  /-- A word that starts like null, true or false goes on differently. -/
  | expectedWord
  | expectedValue
  | invalidEscape
  | invalidNumber
  /-- A number whose size exceeds every double. -/
  | numberOutOfRange
  /-- A string that is not UTF-8. -/
  | invalidCodePoint
  | controlCharacter
  | keyMustBeString
  | loneSurrogate
  | trailingComma
  | trailingCharacters
  | unexpectedEndOfEscape
  /-- More than 127 lists and objects inside each other. -/
  | nestedTooDeeply
  | invalidType (found : Found) (expected : String)
  | invalidValue (found : Found) (expected : String)
  | invalidLength (length : Nat) (expected : String)
  | unknownVariant (name : String) (known : List String)
  | missingField (name : String)
  | duplicateField (name : String)
  /-- A string that does not spell what it should, in the words of its own reader. -/
  | unreadable (reason : String)

/-- A list of names as alternatives. -/
def alternatives (names : List String) : String :=
  let quoted := names.map fun n => "`" ++ n ++ "`"
  match quoted with
  | [] => "there are no variants"
  | [a] => "expected " ++ a
  | [a, b] => "expected " ++ a ++ " or " ++ b
  | many => "expected one of " ++ ", ".intercalate many

/-- The words for a cause. -/
def Cause.message : Cause → String
  | ended .list => "EOF while parsing a list"
  | ended .object => "EOF while parsing an object"
  | ended .string => "EOF while parsing a string"
  | ended .value => "EOF while parsing a value"
  | expectedColon => "expected `:`"
  | expectedListCommaOrEnd => "expected `,` or `]`"
  | expectedObjectCommaOrEnd => "expected `,` or `\x7d`"
  | expectedWord => "expected ident"
  | expectedValue => "expected value"
  | invalidEscape => "invalid escape"
  | invalidNumber => "invalid number"
  | numberOutOfRange => "number out of range"
  | invalidCodePoint => "invalid unicode code point"
  | controlCharacter => "control character (\\u0000-\\u001F) found while parsing a string"
  | keyMustBeString => "key must be a string"
  | loneSurrogate => "lone leading surrogate in hex escape"
  | trailingComma => "trailing comma"
  | trailingCharacters => "trailing characters"
  | unexpectedEndOfEscape => "unexpected end of hex escape"
  | nestedTooDeeply => "recursion limit exceeded"
  | invalidType found expected => "invalid type: " ++ found.describe ++ ", expected " ++ expected
  | invalidValue found expected => "invalid value: " ++ found.describe ++ ", expected " ++ expected
  | invalidLength length expected =>
    "invalid length " ++ Decimal.ofNat length ++ ", expected " ++ expected
  | unknownVariant name known => "unknown variant `" ++ name ++ "`, " ++ alternatives known
  | missingField name => "missing field `" ++ name ++ "`"
  | duplicateField name => "duplicate field `" ++ name ++ "`"
  | unreadable reason => reason

/-- A place in a text: its line, and how many octets of that line come before it. -/
structure Position where
  line : Nat
  column : Nat
  deriving DecidableEq, Repr

/-- The place after some octets. -/
def Position.after (consumed : List UInt8) : Position :=
  consumed.foldl (fun p b => if b = 10 then ⟨p.line + 1, 0⟩ else ⟨p.line, p.column + 1⟩) ⟨1, 0⟩

/-- Why a document was refused, and where, if it was read from a text and the fault has a place. -/
structure Refusal where
  cause : Cause
  position : Option Position

/-- A refusal in words. -/
def Refusal.message (r : Refusal) : String :=
  match r.position with
  | none => r.cause.message
  | some p =>
    r.cause.message ++ " at line " ++ Decimal.ofNat p.line ++ " column " ++ Decimal.ofNat p.column

end VideoProbe.Json
