import VideoProbe.Decimal.Digits
import VideoProbe.Text.Utf8

/-!
# Where octets stop being UTF-8

The first place at which a list of octets is no encoded text, in words: how many octets are wrong
there, or that the list ends too early.
-/

namespace VideoProbe.Text.Utf8

/-- Why octets are no text. -/
structure Fault where
  /-- How many octets before the fault are text. -/
  start : Nat
  /-- How many octets are wrong; none if the list ends inside a character. -/
  wrong : Option Nat
  deriving DecidableEq, Repr

/-- A fault in words. -/
def Fault.message (f : Fault) : String :=
  match f.wrong with
  | some n =>
    "invalid utf-8 sequence of " ++ Decimal.ofNat n ++ " bytes from index " ++ Decimal.ofNat f.start
  | none => "incomplete utf-8 byte sequence from index " ++ Decimal.ofNat f.start

/-- The fault at the beginning of octets that begin with no character. -/
def faultHere (start : Nat) (s : List UInt8) : Fault :=
  let rest := dropBroken s
  let leads := (s.head?.map fun a => 0xC2 ≤ a.toNat && a.toNat ≤ 0xF4).getD false
  ⟨start, if rest.isEmpty && leads then none else some (s.length - rest.length)⟩

/-- The loop of `toText`. -/
def textLoop : Nat → Nat → List Char → List UInt8 → Except Fault String
  | _, _, done, [] => .ok (String.ofList done.reverse)
  | 0, start, _, s@(_ :: _) => .error (faultHere start s)
  | fuel + 1, start, done, s@(_ :: _) =>
    match next? s with
    | some (c, r) => textLoop fuel (start + (s.length - r.length)) (c :: done) r
    | none => .error (faultHere start s)

/-- The string that octets encode, or where they encode none. -/
def toText (s : List UInt8) : Except Fault String :=
  textLoop s.length 0 [] s

end VideoProbe.Text.Utf8
