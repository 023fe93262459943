import VideoProbe.Settings.Environment
import VideoProbe.Text.Blank

/-!
# Files of variables

A file may hold variables that the environment does not have: one assignment a line, comments after
a number sign.  A value may be quoted; between single quotes everything stands for itself, elsewhere
a backslash takes the meaning of the next character away and a dollar sign puts in another
variable.  Reading ends at the first line that is no assignment; what was read before it counts.
-/

namespace VideoProbe.DotEnv

/-- A space or a tab. -/
def isGap (c : Char) : Bool :=
  c == ' ' || c == '\t'

/-- A character that may begin a name. -/
def beginsName (c : Char) : Bool :=
  c.isAlpha || c == '_'

/-- A character inside a name. -/
def isNameChar (c : Char) : Bool :=
  c.isAlphanum || c == '_' || c == '.'

/-- How a value goes on. -/
inductive Mode where
  | bare
  /-- Between single quotes. -/
  | strong
  /-- Between double quotes. -/
  | weak
  deriving DecidableEq, Repr

/-- A value that is being read. -/
structure Reading where
  mode : Mode := .bare
  /-- After a backslash. -/
  escaped : Bool := false
  /-- Only a comment may follow. -/
  ended : Bool := false
  /-- The name of a variable to put in; true if it stands between braces. -/
  inserting : Option (Bool × List Char) := none
  /-- What has been read, last character first. -/
  out : List Char := []

namespace Reading

/-- Puts in the variable whose name has been read. -/
def insert (lookup : String → Option String) (r : Reading) : Reading :=
  match r.inserting with
  | none => r
  | some (_, name) =>
    { r with inserting := none,
             out := ((lookup (String.ofList name.reverse)).getD "").toList.reverse ++ r.out }

/-- Reads a character that has no special place. -/
def plain (r : Reading) (c : Char) : Reading :=
  if c == '$' then { r with inserting := some (false, []) }
  else if r.mode == .weak then
    if c == '"' then { r with mode := .bare }
    else if c == '\\' then { r with escaped := true }
    else { r with out := c :: r.out }
  else if c == '\'' then { r with mode := .strong }
  else if c == '"' then { r with mode := .weak }
  else if c == '\\' then { r with escaped := true }
  else if isGap c then { r with ended := true }
  else { r with out := c :: r.out }

/-- Reads a character after a backslash. -/
def escape (r : Reading) (c : Char) : Option Reading :=
  if c == 'n' then some { r with escaped := false, out := '\n' :: r.out }
  else if ['\\', '\'', '"', '$', ' '].contains c then
    some { r with escaped := false, out := c :: r.out }
  else none

/-- Reads a character of the name of a variable to put in. -/
def name (lookup : String → Option String) (r : Reading) (braces : Bool) (chars : List Char)
    (c : Char) : Reading :=
  if c.isAlphanum || 0x80 ≤ c.toNat then { r with inserting := some (braces, c :: chars) }
  else if braces then
    if c == '\x7d' then r.insert lookup else { r with inserting := some (true, c :: chars) }
  else if c == '\x7b' && chars.isEmpty then { r with inserting := some (true, []) }
  else
    let r := r.insert lookup
    if c == '$' then { r with inserting := some (false, []) } else { r with out := c :: r.out }

end Reading

/-- Reads a value to its end. -/
def readValue (lookup : String → Option String) : Reading → List Char → Option String
  | r, [] =>
    let unclosed := r.mode != .bare || (r.inserting.map Prod.fst).getD false
    if unclosed then none else some (String.ofList (r.insert lookup).out.reverse)
  | r, c :: cs =>
    if r.ended then
      if isGap c then readValue lookup r cs
      else if c == '#' then some (String.ofList r.out.reverse)
      else none
    else if r.escaped then
      match r.escape c with
      | some r => readValue lookup r cs
      | none => none
    else if r.mode == .strong then
      readValue lookup
        (if c == '\'' then { r with mode := .bare } else { r with out := c :: r.out }) cs
    else
      match r.inserting with
      | some (braces, chars) => readValue lookup (r.name lookup braces chars c) cs
      | none => readValue lookup (r.plain c) cs

/-! ## Lines

A line ends where the text does, except inside quotes; what follows a number sign behind white
space is no part of it. -/

/-- Where in a line a character stands. -/
inductive Place where
  | outside
  /-- After white space. -/
  | gap
  /-- After a backslash. -/
  | escaped
  /-- Between single quotes. -/
  | strong
  | strongEscaped
  /-- Between double quotes. -/
  | weak
  | weakEscaped
  | comment
  deriving DecidableEq, Repr

namespace Place

/-- The place after a character outside quotes. -/
def leave (c : Char) : Place :=
  match c with
  | '\\' => escaped
  | '"' => weak
  | '\'' => strong
  | _ => outside

/-- The place after a character. -/
def next : Place → Char → Place
  | comment, _ => comment
  | gap, '#' => comment
  | gap, c => leave c
  | outside, c => if Text.isBlank c && c != '\n' && c != '\r' then gap else leave c
  | escaped, _ => outside
  | strong, c => if c == '\\' then strongEscaped else if c == '\'' then outside else strong
  | strongEscaped, _ => strong
  | weak, c => if c == '\\' then weakEscaped else if c == '"' then outside else weak
  | weakEscaped, _ => weak

/-- Whether a line may end at a place. -/
def isFinal (p : Place) : Bool :=
  p == outside || p == comment

end Place

/-- Cuts a text into lines, without their comments; `cur` is the present line, last character
first.  A text that ends inside a line leaves that one without an end. -/
def cutLines (p : Place) (cur : List Char) : List Char → List (Option (List Char))
  | [] =>
    if !p.isFinal then [none] else if cur.isEmpty then [] else [some cur.reverse]
  | c :: cs =>
    let q := if c == '#' && cur.all Text.isBlank then .comment else p.next c
    if c == '\n' && q.isFinal then some cur.reverse :: cutLines .outside [] cs
    else cutLines q (if q == .comment then cur else c :: cur) cs

/-- The lines of a file; the mark of the order of octets in front of it is no part of them. -/
def linesOf (text : String) : List (Option (List Char)) :=
  match text.toList with
  | '\ufeff' :: cs => cutLines .outside [] cs
  | cs => cutLines .outside [] cs

/-- What a line is. -/
inductive Line where
  | blank
  | assignment (name value : String)
  | wrong
  deriving DecidableEq, Repr

/-- Reads what follows a name. -/
def readAssigned (lookup : String → Option String) (name cs : List Char) : Line :=
  match cs.dropWhile Text.isBlank with
  | '=' :: rest =>
    match rest.dropWhile Text.isBlank with
    | [] | '#' :: _ => .assignment (String.ofList name) ""
    | value =>
      match readValue lookup {} value with
      | some v => .assignment (String.ofList name) v
      | none => .wrong
  | _ => .wrong

/-- Reads a line. -/
def readLine (lookup : String → Option String) (line : List Char) : Line :=
  match Text.trimChars line with
  | [] | '#' :: _ => .blank
  | c :: cs =>
    if !beginsName c then .wrong
    else
      let name := c :: cs.takeWhile isNameChar
      let rest := cs.dropWhile isNameChar
      if name = "export".toList then
        match rest.dropWhile Text.isBlank with
        | '=' :: _ => readAssigned lookup name rest
        | d :: ds =>
          if beginsName d then
            readAssigned lookup (d :: ds.takeWhile isNameChar) (ds.dropWhile isNameChar)
          else .wrong
        | [] => .wrong
      else readAssigned lookup name rest

/-- The variables of the lines up to the first wrong one, in order.  A value may use variables of
the environment and of the lines before. -/
def readLines (env : Environment) : List (String × String) → List (Option (List Char)) →
    List (String × String)
  | done, some line :: rest =>
    match readLine (fun name => (env name).or (done.lookup name)) line with
    | .blank => readLines env done rest
    | .assignment name value => readLines env (done ++ [(name, value)]) rest
    | .wrong => done
  | done, _ => done

/-- An environment with the variables of a file, where it does not have them itself; of two
assignments to one variable the first counts. -/
def extend (env : Environment) (text : String) : Environment :=
  let vars := readLines env [] (linesOf text)
  fun name => (env name).or (vars.lookup name)

end VideoProbe.DotEnv
