import VideoProbe.Url.Parser

/-!
# Form fields

A query as names and values: pairs between ampersands, with an equals sign between name and value,
a plus sign for a space, and percent-encoding for the rest.
-/

namespace VideoProbe.Url

/-- A name or a value behind its encoding; what is no text is replaced. -/
def formText (cs : List Char) : String :=
  Text.Utf8.decodeLossy (Text.Percent.decode
    (Text.Utf8.encode (cs.map fun c => if c == '+' then ' ' else c)))

/-- The fields of a query, in order. -/
def formFields (query : String) : List (String × String) :=
  ((splitAt (· == '&') query.toList).filter (!·.isEmpty)).map fun field =>
    (formText (field.takeWhile (· != '=')), formText ((field.dropWhile (· != '=')).drop 1))

end VideoProbe.Url
