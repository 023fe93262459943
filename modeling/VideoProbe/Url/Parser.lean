import VideoProbe.Url.Basic

/-!
# Reading URLs

Reads a URL, which may be relative to another one.  White space around it and line breaks inside it
do not count.  A path is tidied up while it is read: a segment of one dot is dropped, and a segment
of two dots takes the one before it along.
-/

namespace VideoProbe.Url

variable [DomainRules]

/-- Characters around a URL that do not count. -/
def isAround (c : Char) : Bool :=
  c.toNat ≤ 0x20

/-- A URL without the characters that do not count. -/
def tidy (cs : List Char) : List Char :=
  ((cs.dropWhile isAround).reverse.dropWhile isAround).reverse.filter fun c =>
    c != '\t' && c != '\n' && c != '\r'

/-- A slash, or for some schemes a backslash. -/
def isSlash (special : Bool) (c : Char) : Bool :=
  c == '/' || (special && c == '\\')

/-- A character of a scheme. -/
def isSchemeChar (c : Char) : Bool :=
  c.isAlphanum || c == '+' || c == '-' || c == '.'

/-- The scheme in lower case and what follows its colon. -/
def scheme? (cs : List Char) : Option (String × List Char) :=
  let name := cs.takeWhile isSchemeChar
  match name, cs.dropWhile isSchemeChar with
  | first :: _, ':' :: rest =>
    if first.isAlpha then some (String.ofList (name.map Char.toLower), rest) else none
  | _, _ => none

/-! ## Who and where -/

/-- A character that ends the part of who and where. -/
def endsAuthority (special : Bool) (c : Char) : Bool :=
  isSlash special c || c == '?' || c == '#'

/-- The host, up to its port; in brackets there are colons. -/
def takeHost (special : Bool) : Bool → List Char → List Char × List Char
  | _, [] => ([], [])
  | inside, c :: cs =>
    if endsAuthority special c || (c == ':' && !inside) then ([], c :: cs)
    else
      let (host, rest) := takeHost special (c == '[' || (inside && c != ']')) cs
      (c :: host, rest)

/-- Reads a port; `none` if there is none, or the usual one.  No digits are needed. -/
def readPort (scheme : String) (cs : List Char) : Except Fault (Option Nat × List Char) :=
  let digits := cs.takeWhile Char.isDigit
  let rest := cs.dropWhile Char.isDigit
  let n := (numberIn? 10 digits).getD 0
  if 65535 < n then .error .badPort
  else
    match rest.head? with
    | some c =>
      if endsAuthority true c then .ok (portUnlessUsual n digits, rest) else .error .badPort
    | none => .ok (portUnlessUsual n digits, rest)
where
  /-- A port that is written, unless it is the usual one. -/
  portUnlessUsual (n : Nat) (digits : List Char) : Option Nat :=
    if digits.isEmpty || defaultPort? scheme == some n then none else some n

/-- What stands before the last `@`, if there is one, and what follows it. -/
def cutUserinfo (special : Bool) (cs : List Char) : Option (List Char) × List Char :=
  let region := cs.takeWhile (!endsAuthority special ·)
  if region.contains '@' then
    let hostPort := region.reverse.takeWhile (· != '@')
    let user := (region.reverse.drop (hostPort.length + 1)).reverse
    (some user, cs.drop (user.length + 1))
  else (none, cs)

/-- The user and the password in user information; a password that is empty is none. -/
def readUserinfo (cs : List Char) : String × Option String :=
  let password := (cs.dropWhile (· != ':')).drop 1
  (escape keepInUserinfo (cs.takeWhile (· != ':')),
    if password.isEmpty then none else some (escape keepInUserinfo password))

/-- Reads who and where. -/
def readAuthority (scheme : String) (cs : List Char) : Except Fault (Authority × List Char) := do
  let special := isSpecial scheme
  let (user, rest) := cutUserinfo special cs
  let (username, password) := readUserinfo (user.getD [])
  if user == some [] && (rest.head?.map (endsAuthority special)).getD false then
    throw .emptyHost
  let (hostText, rest) := takeHost special false rest
  if special && hostText.isEmpty then throw .emptyHost
  let host ← if special then Host.readDomain hostText else Host.readName hostText
  let named := !username.isEmpty || password.isSome
  match rest with
  | ':' :: afterColon =>
    if host = .name "" then throw .emptyHost
    let (port, rest) ← readPort scheme afterColon
    return ({ username, password, host, port }, rest)
  | rest =>
    if host = .name "" && named then throw .emptyHost
    return ({ username, password, host }, rest)

/-! ## Paths -/

/-- A segment of one dot, which may be percent-encoded. -/
def isSingleDot (segment : List Char) : Bool :=
  let s := String.ofList (segment.map Char.toLower)
  s == "." || s == "%2e"

/-- A segment of two dots, each of which may be percent-encoded. -/
def isDoubleDot (segment : List Char) : Bool :=
  let s := String.ofList (segment.map Char.toLower)
  s == ".." || s == ".%2e" || s == "%2e." || s == "%2e%2e"

/-- The segments of a path, after those that are there already.  A dot segment at the end leaves an
empty one behind. -/
def tidySegments (before : List String) : List (List Char) → List String
  | [] => before
  | [last] =>
    if isDoubleDot last then before.dropLast ++ [""]
    else if isSingleDot last then before ++ [""]
    else before ++ [escape keepInPath last]
  | segment :: rest =>
    if isDoubleDot segment then tidySegments before.dropLast rest
    else if isSingleDot segment then tidySegments before rest
    else tidySegments (before ++ [escape keepInPath segment]) rest

/-- A character that ends a path. -/
def endsPath (c : Char) : Bool :=
  c == '?' || c == '#'

/-- Reads a path behind its first slash. -/
def readSegments (special : Bool) (before : List String) (cs : List Char) : Path :=
  .rooted (tidySegments before (splitAt (isSlash special) (cs.takeWhile (!endsPath ·))))

/-- Reads the path after who and where. -/
def readPath (special : Bool) (cs : List Char) : Path :=
  match cs with
  | [] => if special then readSegments special [] [] else .rooted []
  | c :: rest =>
    if isSlash special c then readSegments special [] rest
    else if endsPath c && !special then .rooted []
    else readSegments special [] cs

/-- Adds query and fragment, which follow the path. -/
def withRest (u : Url) (cs : List Char) : Url :=
  let tail := cs.dropWhile (!endsPath ·)
  let fragment? := fun (cs : List Char) =>
    match cs with
    | '#' :: rest => some (escape keepInFragment rest)
    | _ => none
  match tail with
  | '?' :: rest =>
    { u with query := some (escape (keepInQuery (isSpecial u.scheme)) (rest.takeWhile (· != '#'))),
             fragment := fragment? (rest.dropWhile (· != '#')) }
  | tail => { u with query := none, fragment := fragment? tail }

/-! ## URLs -/

/-- Reads what follows the two slashes of a URL. -/
def readHierarchy (scheme : String) (cs : List Char) : Except Fault Url := do
  let (authority, rest) ← readAuthority scheme cs
  let path := readPath (isSpecial scheme) rest
  return withRest { scheme, authority := some authority, path } rest

/-- The host of a URL of a file; this machine has an empty one. -/
def readFileHost (cs : List Char) : Except Fault Host := do
  if cs.isEmpty then return .name ""
  let host ← Host.readDomain cs
  return if host = .name "localhost" then .name "" else host

/-- Reads the URL of a file, behind its colon. -/
def readFile (cs : List Char) : Except Fault Url := do
  match cs with
  | a :: b :: rest =>
    if isSlash true a && isSlash true b then
      let host ← readFileHost (rest.takeWhile (!endsAuthority true ·))
      let tail := rest.dropWhile (!endsAuthority true ·)
      return withRest { scheme := "file", authority := some { host }, path := readPath true tail }
        tail
  | _ => pure ()
  return withRest { scheme := "file", authority := some { host := .name "" },
                    path := readPath true cs } cs

/-- Reads a reference that is relative to a URL. -/
def readRelative (base : Url) (cs : List Char) : Except Fault Url :=
  let special := isSpecial base.scheme
  let segments :=
    match base.path with
    | .rooted segments => segments
    | .rootless _ => []
  match cs with
  | [] => .ok { base with fragment := none }
  | c :: rest =>
    if c == '?' then .ok (withRest base cs)
    else if c == '#' then .ok { base with fragment := some (escape keepInFragment rest) }
    else if isSlash special c then
      if (rest.head?.map (isSlash special)).getD false then
        match cs with
        | '/' :: '/' :: after => readHierarchy base.scheme after
        | _ => readHierarchy base.scheme (cs.dropWhile (isSlash special))
      else .ok (withRest { base with path := readSegments special [] rest } rest)
    else .ok (withRest { base with path := readSegments special segments.dropLast cs } cs)

/-- Reads a URL behind its scheme. -/
def readAbsolute (base : Option Url) (scheme : String) (cs : List Char) : Except Fault Url :=
  if scheme = "file" then readFile cs
  else if isSpecial scheme then
    let slashes := (cs.takeWhile (isSlash true)).length
    match base.filter (·.scheme == scheme) with
    | some b =>
      if slashes < 2 then readRelative b cs else readHierarchy scheme (cs.drop slashes)
    | none => readHierarchy scheme (cs.drop slashes)
  else
    match cs with
    | '/' :: '/' :: rest => readHierarchy scheme rest
    | '/' :: rest => .ok (withRest { scheme, path := readSegments false [] rest } rest)
    | cs =>
      let keep := fun (b : UInt8) => b < 0x80 && !Host.isControl b
      .ok (withRest { scheme, path := .rootless (escape keep (cs.takeWhile (!endsPath ·))) } cs)

/-- Reads a URL that may be relative to another one. -/
def parseWith (base : Option Url) (s : String) : Except Fault Url :=
  let cs := tidy s.toList
  match scheme? cs with
  | some (scheme, rest) => readAbsolute base scheme rest
  | none =>
    match base with
    | none => .error .noBase
    | some b =>
      match cs, b.path with
      | '#' :: rest, _ => .ok { b with fragment := some (escape keepInFragment rest) }
      | _, .rootless _ => .error .rootlessBase
      | cs, _ => readRelative b cs

/-- Reads a URL. -/
def parse (s : String) : Except Fault Url :=
  parseWith none s

/-- Reads a URL that may be relative to this one. -/
def join (base : Url) (s : String) : Except Fault Url :=
  parseWith (some base) s

end VideoProbe.Url
