import VideoProbe.Json.Cause

/-!
# Readers

A reader takes octets off the front of a text.  It answers with a value and the octets that are
left, or with a fault, which remembers the octets that were left where it arose: the number of
octets before that point gives the line and the column of the message.

A fault is *placed* once its position is settled.  A fault of the notation is placed where it
arises; one that only the owner of a value can see (a member that is missing, a token that is not
base64) is placed later, by the innermost list, record or string around it, after that one has
tried to find its own end.  A fault that nobody places is reported without a position.

The number that every reader is given bounds its loops.  It exceeds the number of octets of the
whole text, so no loop reaches it.
-/

namespace VideoProbe.Json

/-- The octets of a text that are still to be read. -/
abbrev Octets := List UInt8

/-- A fault: its cause, the octets left where it arose, and whether that place is settled. -/
structure Fault where
  cause : Cause
  rest : Octets
  placed : Bool

/-- What a reader answers. -/
abbrev Reading (α : Type) := Except Fault (α × Octets)

/-- A reader of values of a type. -/
def Reader (α : Type) : Type := (fuel : Nat) → Octets → Reading α

/-- A fault at a settled place. -/
def faultAt (cause : Cause) (rest : Octets) : Reading α :=
  .error ⟨cause, rest, true⟩

/-- A fault whose place the surrounding list or record will settle. -/
def faultWithin (cause : Cause) (rest : Octets) : Reading α :=
  .error ⟨cause, rest, false⟩

/-- Settles the place of a fault where it stands. -/
def place : Reading α → Reading α
  | .error f => .error { f with placed := true }
  | .ok r => .ok r

instance : Monad Reader where
  pure a := fun _ s => .ok (a, s)
  bind r f := fun n s =>
    match r n s with
    | .ok (a, rest) => f a n rest
    | .error e => .error e

/-- The refusal of a text, given a fault and the whole text. -/
def Fault.refusal (f : Fault) (whole : Octets) : Refusal where
  cause := f.cause
  position :=
    if f.placed then some (Position.after (whole.take (whole.length - f.rest.length))) else none

/-! ## Octets of the notation -/

def quoteMark : UInt8 := 0x22
def backslash : UInt8 := 0x5C
def comma : UInt8 := 0x2C
def colon : UInt8 := 0x3A
def openList : UInt8 := 0x5B
def closeList : UInt8 := 0x5D
def openObject : UInt8 := 0x7B
def closeObject : UInt8 := 0x7D
def minusSign : UInt8 := 0x2D

/-- The white space of the notation: space, line feed, tab and carriage return. -/
def isBlankOctet (b : UInt8) : Bool :=
  b == 0x20 || b == 0x0A || b == 0x09 || b == 0x0D

/-- An octet that is one of the ten digits. -/
def isDigitOctet (b : UInt8) : Bool :=
  0x30 ≤ b && b ≤ 0x39

/-- The octets after white space. -/
def skipBlank : Octets → Octets
  | [] => []
  | b :: r => if isBlankOctet b then skipBlank r else b :: r

/-- Takes the rest of a word whose first letter is gone. -/
def takeWord : List UInt8 → Octets → Reading Unit
  | [], s => .ok ((), s)
  | _ :: _, [] => faultAt (.ended .value) []
  | w :: ws, b :: r => if b = w then takeWord ws r else faultAt .expectedWord r

/-- The letters of null after the first. -/
def nullTail : List UInt8 := [0x75, 0x6C, 0x6C]
/-- The letters of true after the first. -/
def trueTail : List UInt8 := [0x72, 0x75, 0x65]
/-- The letters of false after the first. -/
def falseTail : List UInt8 := [0x61, 0x6C, 0x73, 0x65]

/-! ## The ends of lists and objects -/

/-- Takes the end of a list whose items have been read. -/
def endList (s : Octets) : Reading Unit :=
  match skipBlank s with
  | [] => faultAt (.ended .list) []
  | b :: r =>
    if b = closeList then .ok ((), r)
    else if b = comma then
      match skipBlank r with
      | [] => faultAt .trailingCharacters []
      | c :: r' => if c = closeList then faultAt .trailingComma r' else faultAt .trailingCharacters r'
    else faultAt .trailingCharacters r

/-- Takes the end of an object whose members have been read. -/
def endObject (s : Octets) : Reading Unit :=
  match skipBlank s with
  | [] => faultAt (.ended .object) []
  | b :: r =>
    if b = closeObject then .ok ((), r)
    else if b = comma then faultAt .trailingComma r
    else faultAt .trailingCharacters r

/-- What is left after an attempt to take an end, whether it is there or not. -/
def afterEnd (close : UInt8) (s : Octets) : Octets :=
  match skipBlank s with
  | [] => []
  | b :: r =>
    if b = close then r
    else if b = comma ∧ close = closeList then skipBlank r
    else b :: r

/-- Reads the contents of a list or record and then its end.  A fault of the contents goes first;
if it has no place yet, it gets the place after the attempt to take the end. -/
def enclosed (close : UInt8) (ending : Octets → Reading Unit) (contents : Reading α) : Reading α :=
  match contents with
  | .ok (a, rest) =>
    match ending rest with
    | .ok (_, rest) => .ok (a, rest)
    | .error f => .error f
  | .error f =>
    if f.placed then .error f else .error ⟨f.cause, afterEnd close f.rest, true⟩

/-- Whether another item follows; the reader stands before it if so, and before the end of the
list if not. -/
def nextItem (first : Bool) (s : Octets) : Reading Bool :=
  match skipBlank s with
  | [] => faultAt (.ended .list) []
  | b :: r =>
    if b = closeList then .ok (false, b :: r)
    else if first then .ok (true, b :: r)
    else if b = comma then
      match skipBlank r with
      | [] => faultAt (.ended .value) []
      | c :: r' => if c = closeList then faultAt .trailingComma r' else .ok (true, c :: r')
    else faultAt .expectedListCommaOrEnd r

/-- Whether another member follows; the reader stands after the quote that opens its name if so,
and before the end of the object if not. -/
def nextMember (first : Bool) (s : Octets) : Reading Bool :=
  match skipBlank s with
  | [] => faultAt (.ended .object) []
  | b :: r =>
    if b = closeObject then .ok (false, b :: r)
    else if first then
      if b = quoteMark then .ok (true, r) else faultAt .keyMustBeString r
    else if b = comma then
      match skipBlank r with
      | [] => faultAt (.ended .value) []
      | c :: r' =>
        if c = quoteMark then .ok (true, r')
        else if c = closeObject then faultAt .trailingComma r'
        else faultAt .keyMustBeString r'
    else faultAt .expectedObjectCommaOrEnd r

/-- Takes the colon between a name and its value. -/
def takeColon (s : Octets) : Reading Unit :=
  match skipBlank s with
  | [] => faultAt (.ended .object) []
  | b :: r => if b = colon then .ok ((), r) else faultAt .expectedColon r

end VideoProbe.Json
