import VideoProbe.Json.Printer
import VideoProbe.Text.Quoted

/-!
# Records of the log

What a program notes about its own work: a message, where in the program it was noted, and some
named facts.  A record is written as a line of text, with colours or without, or as a JSON object.
-/

namespace VideoProbe.Logging

/-- How important a record is, the most important first. -/
inductive Level where
  | error
  | warning
  | info
  | debug
  | detail
  deriving DecidableEq, Repr

namespace Level

/-- The rank of a level; the most important has the lowest. -/
def rank : Level → Nat
  | error => 1
  | warning => 2
  | info => 3
  | debug => 4
  | detail => 5

/-- The word for a level. -/
def word : Level → String
  | error => "ERROR"
  | warning => "WARN"
  | info => "INFO"
  | debug => "DEBUG"
  | detail => "TRACE"

/-- The word in a column of five characters. -/
def column (l : Level) : String :=
  if l.word.length = 4 then " " ++ l.word else l.word

/-- The number of the colour for a level. -/
def colour : Level → Nat
  | error => 31
  | warning => 33
  | info => 32
  | debug => 34
  | detail => 35

end Level

/-- A fact of a record. -/
inductive Fact where
  | text (s : String)
  /-- A text that is shown without quotes. -/
  | plain (s : String)
  | number (n : Nat)
  deriving DecidableEq, Repr

/-- A fact in a line of text. -/
def Fact.shown : Fact → String
  | text s => Text.quote s
  | plain s => s
  | number n => Decimal.ofNat n

/-- A fact in JSON. -/
def Fact.toJson : Fact → Json
  | text s | plain s => .str s
  | number n => .int n

/-- A record. -/
structure Record where
  level : Level := .info
  /-- Where in the program it was noted. -/
  target : String
  message : String
  facts : List (String × Fact) := []
  deriving DecidableEq, Repr

/-- How records are written. -/
inductive Style where
  | plain
  | coloured
  | json
  deriving DecidableEq, Repr

namespace Record

/-- A text in a rendition, and back to the usual one. -/
def rendered (rendition : Nat) (s : String) : String :=
  "\x1b[" ++ Decimal.ofNat rendition ++ "m" ++ s ++ "\x1b[0m"

/-- The rendition of what is less important. -/
def faint : String → String := rendered 2

/-- The rendition of the names of facts. -/
def slanted : String → String := rendered 3

/-- A record as a line of text, without the end of the line. -/
def plainLine (time : String) (r : Record) : String :=
  time ++ " " ++ r.level.column ++ " " ++ r.target ++ ": " ++ r.message ++
    String.join (r.facts.map fun (name, fact) => " " ++ name ++ "=" ++ fact.shown)

/-- A record as a line of text with colours, without the end of the line. -/
def colouredLine (time : String) (r : Record) : String :=
  faint time ++ " " ++ rendered r.level.colour r.level.column ++ " " ++ faint r.target ++
    faint ":" ++ " " ++ r.message ++
    String.join (r.facts.map fun (name, fact) =>
      " " ++ slanted name ++ faint "=" ++ fact.shown)

/-- A record in JSON. -/
def toJson (time : String) (r : Record) : Json :=
  .object [("timestamp", .str time), ("level", .str r.level.word),
    ("fields", .object (("message", .str r.message) ::
      r.facts.map fun (name, fact) => (name, fact.toJson))),
    ("target", .str r.target)]

/-- A record as it is written, with the end of the line. -/
def line (style : Style) (time : String) (r : Record) : String :=
  (match style with
    | .plain => r.plainLine time
    | .coloured => r.colouredLine time
    | .json => (r.toJson time).text) ++ "\n"

end Record

end VideoProbe.Logging
