import VideoProbe.Base64
import VideoProbe.Json.Record

/-!
# Webhook tokens

A token is a string of bytes that a client hands over with its request and gets back, unchanged,
in the body of the webhook.  In JSON it is base64.
-/

namespace VideoProbe

/-- The bytes of a token. -/
abbrev Token := List UInt8

namespace Token

/-- The base64 text of a token. -/
def text (t : Token) : String :=
  String.ofList ((Base64.encode t).map fun b => Char.ofNat b.toNat)

/-- The token of a base64 text. -/
def parse (s : String) : Except String Token :=
  match Base64.decode (Text.Utf8.ofString s) with
  | .ok t => .ok t
  | .error e => .error e.message

/-- A token in JSON. -/
def toJson (t : Token) : Json :=
  .str t.text

/-- Reads a token, or null for none. -/
def optionalDecoder : Json.Decoder (Option Token) :=
  (Json.Decoder.string.optional).refine fun
    | none => .ok none
    | some s =>
      match parse s with
      | .ok t => .ok (some t)
      | .error reason => .error reason

end Token

namespace Json

/-- A member that is left out where there is no value. -/
def optionalMember (name : String) (f : α → Json) : Option α → List (String × Json)
  | some a => [(name, f a)]
  | none => []


end Json

end VideoProbe
