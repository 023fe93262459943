import VideoProbe.Url.Host

/-!
# URLs

A URL in parts, each already in its written form, and the URL put together again.  Which characters
of a part stand for themselves is a set of its own for each part.
-/

namespace VideoProbe

namespace Url

/-- Who and where: what stands between the two slashes and the path. -/
structure Authority where
  username : String := ""
  password : Option String := none
  host : Host
  /-- The port, unless it is the usual one of the scheme. -/
  port : Option Nat := none
  deriving DecidableEq, Repr

/-- A path: one that begins with a slash, in segments, or a text that does not. -/
inductive Path where
  | rooted (segments : List String)
  | rootless (text : String)
  deriving DecidableEq, Repr

end Url

/-- A URL. -/
structure Url where
  scheme : String
  authority : Option Url.Authority := none
  path : Url.Path
  query : Option String := none
  fragment : Option String := none
  deriving DecidableEq, Repr

namespace Url

/-! ## Schemes -/

/-- The usual port of a scheme. -/
def defaultPort? (scheme : String) : Option Nat :=
  if scheme = "http" ∨ scheme = "ws" then some 80
  else if scheme = "https" ∨ scheme = "wss" then some 443
  else if scheme = "ftp" then some 21
  else none

/-- The schemes whose URLs have a host and a path always, and in which a backslash counts as a
slash. -/
def isSpecial (scheme : String) : Bool :=
  (defaultPort? scheme).isSome || scheme == "file"

/-! ## Characters that stand for themselves -/

/-- An octet of ASCII that is no control character and none of the given characters. -/
def keptBut (others : String) (b : UInt8) : Bool :=
  b < 0x80 && !Host.isControl b && !(others.toList.contains (Char.ofNat b.toNat))

/-- Characters of a path that stand for themselves. -/
def keepInPath : UInt8 → Bool := keptBut " \"#<>?\x60\x7b\x7d"

/-- Characters of user information that stand for themselves. -/
def keepInUserinfo : UInt8 → Bool := keptBut " \"#<>?\x60\x7b\x7d/:;=@[\\]^|"

/-- Characters of a query that stand for themselves. -/
def keepInQuery (special : Bool) : UInt8 → Bool :=
  keptBut (if special then " \"#<>'" else " \"#<>")

/-- Characters of a fragment that stand for themselves. -/
def keepInFragment : UInt8 → Bool := keptBut " \"<>\x60"

/-- A part in its written form. -/
def escape (keep : UInt8 → Bool) (cs : List Char) : String :=
  String.ofList (Text.Percent.encode keep (Text.Utf8.encode cs))

/-! ## Written form -/

/-- Who and where, written. -/
def Authority.text (a : Authority) : String :=
  let user :=
    match a.password with
    | some p => a.username ++ ":" ++ p ++ "@"
    | none => if a.username.isEmpty then "" else a.username ++ "@"
  let port :=
    match a.port with
    | some n => ":" ++ Decimal.ofNat n
    | none => ""
  user ++ a.host.text ++ port

/-- A path, written. -/
def Path.text : Path → String
  | rooted segments => String.join (segments.map ("/" ++ ·))
  | rootless s => s

/-- A URL, written. -/
def text (u : Url) : String :=
  let optional := fun (mark : String) (part : Option String) =>
    match part with
    | some s => mark ++ s
    | none => ""
  u.scheme ++ ":" ++ optional "//" (u.authority.map Authority.text) ++ u.path.text ++
    optional "?" u.query ++ optional "#" u.fragment

/-- Whether a URL names a host. -/
def hasHost (u : Url) : Bool :=
  match u.authority with
  | some a => a.host != .name ""
  | none => false

/-- A URL without user information, which is sent in another way.  It stays where it is no text. -/
def withoutUserinfo (u : Url) : Url :=
  let decodes := fun (s : String) =>
    (Text.Utf8.decode? (Text.Percent.decode (Text.Utf8.ofString s))).isSome
  match u.authority with
  | none => u
  | some a =>
    if decodes a.username && (!a.username.isEmpty || (a.password.map decodes).getD false) then
      { u with authority := some { a with username := "", password := none } }
    else u

end Url

end VideoProbe
