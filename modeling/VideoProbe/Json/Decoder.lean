import VideoProbe.Json.Parser

/-!
# Decoders

A decoder turns JSON into values of a type, in two ways: straight from a text, where faults have
positions, and from a tree that was read before, where they have none.  The two ways agree on what
they accept, not on the words for what they refuse.
-/

namespace VideoProbe.Json

/-- Reads values of a type, from a text (inside a given number of further levels) and from a
tree. -/
structure Decoder (α : Type) where
  read : (nesting : Nat) → Reader α
  ofJson : Json → Except Cause α

namespace Decoder

/-- Reads a whole text: one value, and nothing but white space after it. -/
def ofOctets (d : Decoder α) (text : Octets) : Except Refusal α :=
  match d.read nestingLimit (text.length + 1) text with
  | .error f => .error (f.refusal text)
  | .ok (a, rest) =>
    match skipBlank rest with
    | [] => .ok a
    | _ :: r => .error (Fault.refusal ⟨.trailingCharacters, r, true⟩ text)

/-- Reads a tree. -/
def ofValue (d : Decoder α) (v : Json) : Except Refusal α :=
  match d.ofJson v with
  | .ok a => .ok a
  | .error c => .error ⟨c, none⟩

/-- Any value, as it is. -/
def value : Decoder Json where
  read := readValue
  ofJson v := .ok v

/-- A value made from another one. -/
def map (f : α → β) (d : Decoder α) : Decoder β where
  read nesting := fun fuel s =>
    match d.read nesting fuel s with
    | .ok (a, rest) => .ok (f a, rest)
    | .error e => .error e
  ofJson v :=
    match d.ofJson v with
    | .ok a => .ok (f a)
    | .error c => .error c

/-- A string that spells a value of a type, in the words of that type's own reader. -/
def spelled (expected : String) (parse : String → Except String α) : Decoder α where
  read _ := fun fuel s =>
    match skipBlank s with
    | [] => faultAt (.ended .value) []
    | b :: r =>
      if b = quoteMark then
        match readString fuel r with
        | .error f => .error f
        | .ok (t, rest) =>
          match parse t with
          | .ok a => .ok (a, rest)
          | .error reason => faultAt (.unreadable reason) rest
      else wrongType expected fuel (b :: r)
  ofJson v :=
    match v with
    | .str t =>
      match parse t with
      | .ok a => .ok a
      | .error reason => .error (.unreadable reason)
    | v => .error (.invalidType (found v) expected)

/-- A string. -/
def string : Decoder String :=
  spelled "a string" .ok

/-- A number, made into a value of a type. -/
def numeric (expected : String) (convert : Numeral → Except Cause α) : Decoder α where
  read _ := fun fuel s =>
    match skipBlank s with
    | [] => faultAt (.ended .value) []
    | b :: r =>
      if startsNumber b then
        match readNumeral (b :: r) with
        | .error f => .error f
        | .ok (n, rest) =>
          match convert n with
          | .ok a => .ok (a, rest)
          | .error c => faultAt c rest
      else wrongType expected fuel (b :: r)
  ofJson v :=
    match v with
    | .int n => convert (.whole n)
    | .real x => convert (.real x)
    | v => .error (.invalidType (found v) expected)

/-- A floating-point number; a whole number counts as the nearest double. -/
def real : Decoder Float :=
  numeric "f64" fun
    | .whole n => .ok (Float.ofInt n)
    | .real x => .ok x

/-- A whole number of 32 bits. -/
def int32 : Decoder Int :=
  numeric "i32" fun
    | .whole n =>
      if -2147483648 ≤ n ∧ n ≤ 2147483647 then .ok n
      else .error (.invalidValue (.integer n) "i32")
    | .real x => .error (.invalidType (.real x) "i32")

/-- Null and nothing else. -/
def unit : Decoder Unit where
  read _ := fun fuel s =>
    match skipBlank s with
    | [] => faultAt (.ended .value) []
    | b :: r => if b = 0x6E then takeWord nullTail r else wrongType "unit" fuel (b :: r)
  ofJson v :=
    match v with
    | .null => .ok ()
    | v => .error (.invalidType (found v) "unit")

/-- A value or null. -/
def optional (d : Decoder α) : Decoder (Option α) where
  read nesting := fun fuel s =>
    match skipBlank s with
    | [] => (d.read nesting fuel []).map fun (a, rest) => (some a, rest)
    | b :: r =>
      if b = 0x6E then
        match takeWord nullTail r with
        | .ok (_, rest) => .ok (none, rest)
        | .error f => .error f
      else
        match d.read nesting fuel (b :: r) with
        | .ok (a, rest) => .ok (some a, rest)
        | .error f => .error f
  ofJson v :=
    match v with
    | .null => .ok none
    | v =>
      match d.ofJson v with
      | .ok a => .ok (some a)
      | .error c => .error c

/-- A value made from another one after that has been read.  A failure is not at any place of the
text: the record around it gets the blame. -/
def refine (d : Decoder α) (f : α → Except String β) : Decoder β where
  read nesting := fun fuel s =>
    match d.read nesting fuel s with
    | .error e => .error e
    | .ok (a, rest) =>
      match f a with
      | .ok b => .ok (b, rest)
      | .error reason => faultWithin (.unreadable reason) rest
  ofJson v :=
    match d.ofJson v with
    | .error c => .error c
    | .ok a =>
      match f a with
      | .ok b => .ok b
      | .error reason => .error (.unreadable reason)

/-- Decodes items in order; the first fault ends it. -/
def ofItems (f : Json → Except Cause α) : List Json → Except Cause (List α)
  | [] => .ok []
  | v :: rest =>
    match f v with
    | .error c => .error c
    | .ok a =>
      match ofItems f rest with
      | .error c => .error c
      | .ok as => .ok (a :: as)

/-- A list of values. -/
def list (d : Decoder α) : Decoder (List α) where
  read nesting := fun fuel s =>
    match skipBlank s with
    | [] => faultAt (.ended .value) []
    | b :: r =>
      if b = openList then
        match nesting with
        | 0 => faultAt .nestedTooDeeply r
        | inner + 1 => readItems (d.read inner) fuel r
      else wrongType "a sequence" fuel (b :: r)
  ofJson v :=
    match v with
    | .array items => ofItems d.ofJson items
    | v => .error (.invalidType (found v) "a sequence")

end Decoder

end VideoProbe.Json
