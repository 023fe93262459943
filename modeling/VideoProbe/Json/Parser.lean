import VideoProbe.Json.Skip

/-!
# Reading free values

Any JSON value as a tree, with the members of every object sorted by name.  At most 127 lists and
objects may stand inside each other.
-/

namespace VideoProbe.Json

/-- How many lists and objects may stand inside each other. -/
def nestingLimit : Nat := 127

/-- The loop over the items of a list; the reader stops before the end of the list. -/
def itemsLoop (item : Reader α) (fuel : Nat) : Nat → Bool → List α → Octets → Reading (List α)
  | 0, _, _, s => faultAt (.ended .list) s
  | rounds + 1, first, done, s =>
    match nextItem first s with
    | .error f => .error f
    | .ok (false, s) => .ok (done.reverse, s)
    | .ok (true, s) =>
      match item fuel s with
      | .error f => .error f
      | .ok (a, s) => itemsLoop item fuel rounds false (a :: done) s

/-- The items of a list and its end, after its opening bracket. -/
def readItems (item : Reader α) : Reader (List α) := fun fuel s =>
  enclosed closeList endList (itemsLoop item fuel fuel true [] s)

/-- The loop over the members of an object whose values are all of one kind. -/
def membersLoop (value : Reader Json) (fuel : Nat) :
    Nat → Bool → List (String × Json) → Octets → Reading (List (String × Json))
  | 0, _, _, s => faultAt (.ended .object) s
  | rounds + 1, first, done, s =>
    match nextMember first s with
    | .error f => .error f
    | .ok (false, s) => .ok (done, s)
    | .ok (true, s) =>
      match readString fuel s with
      | .error f => .error f
      | .ok (name, s) =>
        match takeColon s with
        | .error f => .error f
        | .ok (_, s) =>
          match value fuel s with
          | .error f => .error f
          | .ok (v, s) => membersLoop value fuel rounds false (insertMember name v done) s

/-- The members of an object and its end, after its opening brace. -/
def readMembers (value : Reader Json) : Reader (List (String × Json)) := fun fuel s =>
  enclosed closeObject endObject (membersLoop value fuel fuel true [] s)

/-- A value; `inner` reads what stands inside a list or an object, and is missing where nothing
may. -/
def readValueWith (inner : Option (Reader Json)) : Reader Json := fun fuel s =>
  match skipBlank s with
  | [] => faultAt (.ended .value) []
  | b :: r =>
    if b = 0x6E then
      match takeWord nullTail r with
      | .ok (_, rest) => .ok (.null, rest)
      | .error f => .error f
    else if b = 0x74 then
      match takeWord trueTail r with
      | .ok (_, rest) => .ok (.bool true, rest)
      | .error f => .error f
    else if b = 0x66 then
      match takeWord falseTail r with
      | .ok (_, rest) => .ok (.bool false, rest)
      | .error f => .error f
    else if startsNumber b then
      match readNumeral (b :: r) with
      | .ok (.whole n, rest) => .ok (.int n, rest)
      | .ok (.real x, rest) => .ok (.real x, rest)
      | .error f => .error f
    else if b = quoteMark then
      match readString fuel r with
      | .ok (t, rest) => .ok (.str t, rest)
      | .error f => .error f
    else if b = openList then
      match inner with
      | none => faultAt .nestedTooDeeply r
      | some inner =>
        match readItems inner fuel r with
        | .ok (items, rest) => .ok (.array items, rest)
        | .error f => .error f
    else if b = openObject then
      match inner with
      | none => faultAt .nestedTooDeeply r
      | some inner =>
        match readMembers inner fuel r with
        | .ok (members, rest) => .ok (.object members, rest)
        | .error f => .error f
    else faultAt .expectedValue r

/-- A value in which at most `nesting` lists and objects stand inside each other. -/
def readValue : (nesting : Nat) → Reader Json
  | 0 => readValueWith none
  | nesting + 1 => readValueWith (some (readValue nesting))

end VideoProbe.Json
