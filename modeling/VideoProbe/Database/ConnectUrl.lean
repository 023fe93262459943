import VideoProbe.Decimal.Reading
import VideoProbe.Error
import VideoProbe.Text.Quoted
import VideoProbe.Text.Utf8Fault
import VideoProbe.Url.Form

/-!
# The URL of a database

What a connection URL has to fulfil before a connection is tried at all: it is a URL, its user, its
password and the name of the database are texts, and the options in its query have permitted
values.  Options without a meaning do not count.  The first fault is the one that is told.
-/

namespace VideoProbe.Database

/-- The values of the option that says how far a connection is to be encrypted. -/
def encryptionModes : List String :=
  ["disable", "allow", "prefer", "require", "verify-ca", "verify-full"]

/-- A percent-encoded part must be a text. -/
def checkText (part : String) : Except DatabaseError Unit :=
  match Text.Utf8.toText (Text.Percent.decode (Text.Utf8.ofString part)) with
  | .ok _ => .ok ()
  | .error f => .error (.configuration f.message)

/-- A number below a limit. -/
def checkNumber (limit : Nat) (value : String) : Except DatabaseError Unit :=
  match Decimal.parseBelow limit value with
  | .ok _ => .ok ()
  | .error e => .error (.configuration e.message)

/-- A numeric address in its plain form. -/
def isPlainAddress (value : String) : Bool :=
  match (Url.splitAt (· == '.') value.toList).mapM Url.plainOctet? with
  | some parts => parts.length == 4
  | none => (Url.eightGroups? value.toList).isSome

/-- One option of the query. -/
def checkOption (name value : String) : Except DatabaseError Unit :=
  if name = "sslmode" ∨ name = "ssl-mode" then
    if encryptionModes.contains (String.ofList (value.toList.map Char.toLower)) then .ok ()
    else
      .error (.badOption
        (.configuration ("unknown value " ++ Text.quote value ++ " for `ssl_mode`")))
  else if name = "statement-cache-capacity" then checkNumber (Nat.pow 2 64) value
  else if name = "port" then checkNumber (Nat.pow 2 16) value
  else if name = "hostaddr" then
    if isPlainAddress value then .ok () else .error (.configuration "invalid IP address syntax")
  else .ok ()

/-- A host that begins with a slash, once decoded, names a socket and must be a text. -/
def checkHost (host : Url.Host) : Except DatabaseError Unit :=
  if (Text.Percent.decode (Text.Utf8.ofString host.text)).head? = some 0x2F then
    checkText host.text
  else .ok ()

/-- Checks a connection URL. -/
def checkUrl [Url.DomainRules] (s : String) : Except DatabaseError Unit := do
  match Url.parse s with
  | .error f => throw (.configuration f.message)
  | .ok url =>
    match url.authority with
    | none => pure ()
    | some a =>
      checkHost a.host
      checkText a.username
      checkText (a.password.getD "")
    checkText (String.ofList (url.path.text.toList.dropWhile (· == '/')))
    (Url.formFields (url.query.getD "")).forM fun (name, value) => checkOption name value

end VideoProbe.Database
