/-!
# JSON values

A JSON document as a tree.  Whole numbers and floating-point numbers are kept apart, because a
reader that expects a whole number refuses `1.0`, and the members of an object are a list of pairs
in the order in which they are written.

Two kinds of objects occur.  A typed record writes its members in the order of its declaration; a
free value (the arguments of a job, a recorded output) has its members sorted by name, each name
once.  `Json.sorted` takes the first kind to the second.
-/

namespace VideoProbe

/-- A JSON document. -/
inductive Json where
  | null
  | bool (value : Bool)
  | int (value : Int)
  | real (value : Float)
  | str (value : String)
  | array (items : List Json)
  | object (members : List (String × Json))
  deriving Inhabited, Repr

namespace Json

/-- A floating-point number; one that is not finite has no number in JSON and is written as
null. -/
def ofFloat (x : Float) : Json :=
  if x.isFinite then real x else null

/-- An optional value; its absence is null. -/
def ofOption (f : α → Json) : Option α → Json
  | some a => f a
  | none => null

/-- Puts a member into a list sorted by name, in place of one of the same name. -/
def insertMember (name : String) (value : Json) :
    List (String × Json) → List (String × Json)
  | [] => [(name, value)]
  | (k, v) :: rest =>
    if name = k then (name, value) :: rest
    else if name < k then (name, value) :: (k, v) :: rest
    else (k, v) :: insertMember name value rest

/-- Members sorted by name; of several with one name the last counts. -/
def sortMembers (members : List (String × Json)) : List (String × Json) :=
  members.foldl (fun done m => insertMember m.1 m.2 done) []

/-- The member of an object with a given name. -/
def get? (name : String) : Json → Option Json
  | object members => members.lookup name
  | _ => none

mutual

/-- The free value of a document: at every level the members are sorted by name. -/
def sorted : Json → Json
  | array items => array (sortedItems items)
  | object members => object (sortMembers (sortedMembers members))
  | null => null
  | bool b => bool b
  | int n => int n
  | real x => real x
  | str s => str s

/-- `sorted` on every item. -/
def sortedItems : List Json → List Json
  | [] => []
  | v :: rest => v.sorted :: sortedItems rest

/-- `sorted` on the value of every member, the order of the members unchanged. -/
def sortedMembers : List (String × Json) → List (String × Json)
  | [] => []
  | (k, v) :: rest => (k, v.sorted) :: sortedMembers rest

end

end Json

end VideoProbe
