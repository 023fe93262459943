import VideoProbe.Json.Decoder

/-!
# Records and alternatives

A record of a fixed set of fields is read from an object, whatever the order of its members, or
from a list that holds the fields in the order of their declaration.  Members with other names are
passed over.  While it is being read the record is a *draft*, in which every field may still be
missing; `finish` makes the record of the draft, or names the first field in the order of the
declaration that is missing and may not be.

One of several alternatives is read from an object whose only member names it, or, if it carries
no value, from its bare name.
-/

namespace VideoProbe.Json

/-- A field of a record that is read into drafts of a type. -/
structure Field (δ : Type) where
  name : String
  isSet : δ → Bool
  /-- Reads the field's value into the draft. -/
  read : (nesting : Nat) → δ → Reader δ
  /-- Puts a tree into the draft as the field's value. -/
  store : Json → δ → Except Cause δ
  /-- Whether the field may be left out of the list form. -/
  omissible : Bool

/-- A field that is decoded by a decoder and kept in the draft by a pair of access functions. -/
def Field.of (name : String) (d : Decoder β) (get : δ → Option β) (set : β → δ → δ)
    (omissible : Bool) : Field δ where
  name := name
  isSet draft := (get draft).isSome
  read nesting draft := fun fuel s =>
    match d.read nesting fuel s with
    | .ok (b, rest) => .ok (set b draft, rest)
    | .error f => .error f
  store v draft :=
    match d.ofJson v with
    | .ok b => .ok (set b draft)
    | .error c => .error c
  omissible := omissible

/-- The value of a field that has to be there. -/
def require (name : String) : Option β → Except Cause β
  | some b => .ok b
  | none => .error (.missingField name)

/-- A record: what it is called, its fields in the order of their declaration, the draft to start
with, and how a draft becomes a record. -/
structure Shape (δ α : Type) where
  name : String
  fields : List (Field δ)
  blank : δ
  finish : δ → Except Cause α

namespace Shape

/-- What a message calls the record. -/
def describe (shape : Shape δ α) : String :=
  "struct " ++ shape.name

/-- What a message calls the list form of the record. -/
def describeList (shape : Shape δ α) : String :=
  shape.describe ++ " with " ++ Decimal.ofNat shape.fields.length ++
    (if shape.fields.length = 1 then " element" else " elements")

/-- The field of a given name. -/
def field? (shape : Shape δ α) (name : String) : Option (Field δ) :=
  shape.fields.find? fun f => f.name = name

/-- The loop over the members of the object form. -/
def membersLoop (shape : Shape δ α) (nesting fuel : Nat) :
    Nat → Bool → δ → Octets → Reading δ
  | 0, _, _, s => faultAt (.ended .object) s
  | rounds + 1, first, draft, s =>
    match nextMember first s with
    | .error f => .error f
    | .ok (false, s) => .ok (draft, s)
    | .ok (true, s) =>
      match readString fuel s with
      | .error f => .error f
      | .ok (name, s) =>
        match shape.field? name with
        | some field =>
          if field.isSet draft then faultWithin (.duplicateField name) s
          else
            match takeColon s with
            | .error f => .error f
            | .ok (_, s) =>
              match field.read nesting draft fuel s with
              | .error f => .error f
              | .ok (draft, s) => shape.membersLoop nesting fuel rounds false draft s
        | none =>
          match takeColon s with
          | .error f => .error f
          | .ok (_, s) =>
            match skipValue fuel s with
            | .error f => .error f
            | .ok (_, s) => shape.membersLoop nesting fuel rounds false draft s

/-- The loop over the fields of the list form; `index` counts the fields gone by. -/
def itemsLoop (expected : String) (nesting fuel : Nat) :
    List (Field δ) → Nat → Bool → δ → Octets → Reading δ
  | [], _, _, draft, s => .ok (draft, s)
  | field :: fields, index, first, draft, s =>
    match nextItem first s with
    | .error f => .error f
    | .ok (false, s) =>
      if field.omissible then itemsLoop expected nesting fuel fields (index + 1) first draft s
      else faultWithin (.invalidLength index expected) s
    | .ok (true, s) =>
      match field.read nesting draft fuel s with
      | .error f => .error f
      | .ok (draft, s) => itemsLoop expected nesting fuel fields (index + 1) false draft s

/-- Makes the record of a draft at the end of its text. -/
def finishAt (shape : Shape δ α) : Reading δ → Reading α
  | .error f => .error f
  | .ok (draft, s) =>
    match shape.finish draft with
    | .ok a => .ok (a, s)
    | .error c => faultWithin c s

/-- Puts the members of an object into a draft. -/
def storeMembers (shape : Shape δ α) : List (String × Json) → δ → Except Cause δ
  | [], draft => .ok draft
  | (name, v) :: rest, draft =>
    match shape.field? name with
    | none => shape.storeMembers rest draft
    | some field =>
      match field.store v draft with
      | .error c => .error c
      | .ok draft => shape.storeMembers rest draft

/-- Puts the items of a list into a draft; answers with the items left over. -/
def storeItems (expected : String) :
    List (Field δ) → Nat → List Json → δ → Except Cause (δ × List Json)
  | [], _, items, draft => .ok (draft, items)
  | field :: fields, index, [], draft =>
    if field.omissible then storeItems expected fields (index + 1) [] draft
    else .error (.invalidLength index expected)
  | field :: fields, index, v :: items, draft =>
    match field.store v draft with
    | .error c => .error c
    | .ok draft => storeItems expected fields (index + 1) items draft

/-- The decoder of a record. -/
def decoder (shape : Shape δ α) : Decoder α where
  read nesting := fun fuel s =>
    match skipBlank s with
    | [] => faultAt (.ended .value) []
    | b :: r =>
      if b = openObject then
        match nesting with
        | 0 => faultAt .nestedTooDeeply r
        | inner + 1 =>
          enclosed closeObject endObject
            (shape.finishAt (shape.membersLoop inner fuel fuel true shape.blank r))
      else if b = openList then
        match nesting with
        | 0 => faultAt .nestedTooDeeply r
        | inner + 1 =>
          enclosed closeList endList
            (shape.finishAt
              (itemsLoop shape.describeList inner fuel shape.fields 0 true shape.blank r))
      else wrongType shape.describe fuel (b :: r)
  ofJson v :=
    match v with
    | .object members =>
      match shape.storeMembers members shape.blank with
      | .error c => .error c
      | .ok draft => shape.finish draft
    | .array items =>
      match storeItems shape.describeList shape.fields 0 items shape.blank with
      | .error c => .error c
      | .ok (draft, left) =>
        match shape.finish draft with
        | .error c => .error c
        | .ok a =>
          if left.isEmpty then .ok a
          else .error (.invalidLength items.length "fewer elements in array")
    | v => .error (.invalidType (found v) shape.describe)

end Shape

/-- What an alternative carries. -/
inductive Payload (α : Type) where
  /-- Nothing: its name is its value. -/
  | bare (value : α)
  /-- A value. -/
  | carrying (d : Decoder α)

/-- The value of an alternative that is given by its bare name. -/
def Payload.ofName : Payload α → Except Cause α
  | bare a => .ok a
  | carrying _ => .error (.invalidType .unitVariant "newtype variant")

/-- The value of an alternative from what stands beside its name. -/
def Payload.decoder : Payload α → Decoder α
  | carrying d => d
  | bare a =>
    { read := fun nesting fuel s =>
        match Decoder.unit.read nesting fuel s with
        | .ok (_, rest) => .ok (a, rest)
        | .error f => .error f
      ofJson := fun v =>
        match Decoder.unit.ofJson v with
        | .ok _ => .ok a
        | .error c => .error c }

/-- One of several alternatives, each under its name. -/
structure Choice (α : Type) where
  alternatives : List (String × Payload α)

namespace Choice

/-- The names of the alternatives. -/
def names (choice : Choice α) : List String :=
  choice.alternatives.map Prod.fst

/-- The alternative of a given name. -/
def payload (choice : Choice α) (name : String) : Except Cause (Payload α) :=
  match choice.alternatives.lookup name with
  | some p => .ok p
  | none => .error (.unknownVariant name choice.names)

/-- The object form, after the quote that opens the name. -/
def readMember (choice : Choice α) (nesting : Nat) : Reader α := fun fuel s =>
  match readString fuel s with
  | .error f => .error f
  | .ok (name, s) =>
    match choice.payload name with
    | .error c => faultAt c s
    | .ok p =>
      match takeColon s with
      | .error f => .error f
      | .ok (_, s) =>
        match p.decoder.read nesting fuel s with
        | .error f => .error f
        | .ok (a, s) =>
          match skipBlank s with
          | [] => faultAt (.ended .object) []
          | b :: r => if b = closeObject then .ok (a, r) else faultAt .expectedValue (b :: r)

/-- The decoder of a choice. -/
def decoder (choice : Choice α) : Decoder α where
  read nesting := fun fuel s =>
    match skipBlank s with
    | [] => faultAt (.ended .value) []
    | b :: r =>
      if b = openObject then
        match nesting with
        | 0 => faultAt .nestedTooDeeply r
        | inner + 1 =>
          match nextMember true r with
          | .error f => .error f
          | .ok (false, s) => faultAt .expectedValue (s.drop 1)
          | .ok (true, s) => choice.readMember inner fuel s
      else if b = quoteMark then
        match readString fuel r with
        | .error f => .error f
        | .ok (name, s) =>
          match choice.payload name with
          | .error c => faultAt c s
          | .ok p =>
            match p.ofName with
            | .ok a => .ok (a, s)
            | .error c => faultWithin c s
      else faultAt .expectedValue r
  ofJson v :=
    match v with
    | .str name =>
      match choice.payload name with
      | .error c => .error c
      | .ok p => p.ofName
    | .object [(name, content)] =>
      match choice.payload name with
      | .error c => .error c
      | .ok p => p.decoder.ofJson content
    | .object _ => .error (.invalidValue .map "map with a single key")
    | v => .error (.invalidType (found v) "string or map")

end Choice

end VideoProbe.Json
