import VideoProbe.Json.Scan

/-!
# Values that nobody asked for

A member whose name is not known is passed over.  Its value must follow the notation, but less is
checked than of a value that is read: numbers of any size, any depth of nesting and any escaped
surrogates pass.  The enclosing lists and objects are kept on a stack, so depth costs no recursion.
-/

namespace VideoProbe.Json

/-- A list or an object that has been entered and not yet left. -/
inductive Enclosure where
  | list
  | object
  deriving DecidableEq

/-- The octet that ends an enclosure. -/
def Enclosure.close : Enclosure → UInt8
  | list => closeList
  | object => closeObject

/-- The fault of an enclosure that does not end. -/
def Enclosure.unfinished : Enclosure → Cause
  | list => .ended .list
  | object => .ended .object

/-- The fault of an enclosure that goes on with neither a comma nor its end. -/
def Enclosure.commaOrEnd : Enclosure → Cause
  | list => .expectedListCommaOrEnd
  | object => .expectedObjectCommaOrEnd

/-- Passes over a string, after its opening quote. -/
def skipString : Nat → Octets → Reading Unit
  | 0, s => faultAt (.ended .string) s
  | _ + 1, [] => faultAt (.ended .string) []
  | fuel + 1, b :: r =>
    if b = quoteMark then .ok ((), r)
    else if b = backslash then
      match r with
      | [] => faultAt (.ended .string) []
      | e :: r' =>
        if (simpleEscape? e).isSome then skipString fuel r'
        else if e = 0x75 then
          match hexFour r' with
          | .ok (_, rest) => skipString fuel rest
          | .error f => .error f
        else faultAt .invalidEscape r'
    else if b < 0x20 then faultAt .controlCharacter (b :: r)
    else skipString fuel r

/-- Passes over an exponent, after its letter. -/
def skipExponent (s : Octets) : Reading Unit :=
  match (exponentSign s).2 with
  | [] => faultAt .invalidNumber []
  | b :: r => if isDigitOctet b then .ok ((), (spanDigits r).2) else faultAt .invalidNumber r

/-- Passes over the decimals of a number, after the point. -/
def skipDecimals (s : Octets) : Reading Unit :=
  let (ds, rest) := spanDigits s
  match ds, rest with
  | [], r => faultAt .invalidNumber (r.drop 1)
  | _ :: _, b :: r => if b = 0x65 ∨ b = 0x45 then skipExponent r else .ok ((), b :: r)
  | _ :: _, [] => .ok ((), [])

/-- Passes over what may follow the digits before the point. -/
def skipNumberTail (s : Octets) : Reading Unit :=
  match s with
  | b :: r =>
    if b = 0x2E then skipDecimals r
    else if b = 0x65 ∨ b = 0x45 then skipExponent r
    else .ok ((), b :: r)
  | [] => .ok ((), [])

/-- Passes over a number, after its sign. -/
def skipNumber (s : Octets) : Reading Unit :=
  match s with
  | [] => faultAt .invalidNumber []
  | b :: r =>
    if b = 0x30 then
      match r with
      | c :: r' => if isDigitOctet c then faultAt .invalidNumber r' else skipNumberTail r
      | [] => skipNumberTail []
    else if isDigitOctet b then skipNumberTail (spanDigits r).2
    else faultAt .invalidNumber r

/-- What comes after a value inside enclosures: `none` where everything is closed, or the
enclosures in which the next value follows. -/
def unwind (afterValue : Bool) : List Enclosure → Octets → Reading (Option (List Enclosure))
  | [], s => .ok (none, s)
  | e :: outer, s =>
    match skipBlank s with
    | [] => faultAt e.unfinished []
    | b :: r =>
      if b = comma ∧ afterValue then .ok (some (e :: outer), r)
      else if b = e.close then
        match outer with
        | [] => .ok (none, r)
        | _ :: _ => unwind true outer r
      else if afterValue then faultAt e.commaOrEnd r
      else .ok (some (e :: outer), b :: r)

/-- Passes over the name of the next member, if the innermost enclosure is an object. -/
def skipName (fuel : Nat) (stack : List Enclosure) (s : Octets) : Reading Unit :=
  match stack with
  | .object :: _ =>
    match skipBlank s with
    | [] => faultAt (.ended .object) []
    | b :: r =>
      if b = quoteMark then
        match skipString fuel r with
        | .ok (_, rest) => takeColon rest
        | .error f => .error f
      else faultAt .keyMustBeString r
  | _ => .ok ((), s)

/-- The loop of `skipValue`: one value inside the enclosures on the stack. -/
def skipLoop (fuel : Nat) : Nat → List Enclosure → Octets → Reading Unit
  | 0, _, s => faultAt (.ended .value) s
  | rounds + 1, stack, s =>
    let goOn := fun (afterValue : Bool) (stack : List Enclosure) (s : Octets) =>
      match unwind afterValue stack s with
      | .error f => .error f
      | .ok (none, rest) => .ok ((), rest)
      | .ok (some stack, rest) =>
        match skipName fuel stack rest with
        | .error f => .error f
        | .ok (_, rest) => skipLoop fuel rounds stack rest
    let scalar := fun (r : Reading Unit) =>
      match r with
      | .ok (_, rest) => goOn true stack rest
      | .error f => .error f
    match skipBlank s with
    | [] => faultAt (.ended .value) []
    | b :: r =>
      if b = 0x6E then scalar (takeWord nullTail r)
      else if b = 0x74 then scalar (takeWord trueTail r)
      else if b = 0x66 then scalar (takeWord falseTail r)
      else if b = minusSign then scalar (skipNumber r)
      else if isDigitOctet b then scalar (skipNumber (b :: r))
      else if b = quoteMark then scalar (skipString fuel r)
      else if b = openList then goOn false (.list :: stack) r
      else if b = openObject then goOn false (.object :: stack) r
      else faultAt .expectedValue r

/-- Passes over one value. -/
def skipValue : Reader Unit := fun fuel s =>
  skipLoop fuel fuel [] s

end VideoProbe.Json
