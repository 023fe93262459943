import VideoProbe.Decimal.Reading
import VideoProbe.Logging.Record

/-!
# Which records are kept

A filter is a list of rules between commas.  A rule names a target, a level, or both: it keeps the
records of that target, and of all targets that begin with it, up to that level.  Of the rules that
fit a record the one with the longest target decides, and of two rules for one target the later.
A rule that also names a part of the work in brackets says nothing about records outside it.
-/

namespace VideoProbe.Logging

/-- A rule: the greatest rank it keeps, which is zero if it keeps nothing. -/
structure Rule where
  target : Option String := none
  greatest : Nat
  /-- It holds only inside a part of the work. -/
  isInner : Bool := false
  deriving DecidableEq, Repr

namespace Rule

/-- The rank of what keeps everything. -/
def everything : Nat := Level.detail.rank

/-- The rank that a word or a number stands for; no word at all stands for errors. -/
def rankOf? (s : String) : Option Nat :=
  match (Decimal.word64? s).filter (· ≤ everything) with
  | some n => some n
  | none =>
    match String.ofList (s.toList.map Char.toLower) with
    | "" | "error" => some 1
    | "warn" => some 2
    | "info" => some 3
    | "debug" => some 4
    | "trace" => some 5
    | "off" => some 0
    | _ => none

/-- A character that a rule may begin with, a bracket apart. -/
def mayBegin (c : Char) : Bool :=
  c == '-' || c == ':' || c == '_' || c.isAlphanum || 0x80 ≤ c.toNat

/-- A rule from its level, after the equals sign; no level keeps everything. -/
def ofLevel? (target : Option String) (isInner : Bool) (cs : List Char) : Option Rule :=
  if cs.isEmpty then some ⟨target, everything, isInner⟩
  else (rankOf? (String.ofList cs)).map fun n => ⟨target, n, isInner⟩

/-- Reads a rule. -/
def parse? (s : String) : Option Rule :=
  let cs := s.toList
  let head := cs.takeWhile fun c => c != '=' && c != '['
  let begins := (cs.head?.map fun c => mayBegin c || c == '[').getD false
  if !begins then none
  else
    let target := if head.isEmpty then none else some (String.ofList head)
    match cs.drop head.length with
    | [] =>
      match rankOf? (String.ofList head) with
      | some n => some { greatest := n }
      | none => some { target, greatest := everything }
    | '=' :: level => ofLevel? target false level
    | rest =>
      match (rest.dropWhile (· != ']')).drop 1 with
      | [] => if rest.contains ']' then some ⟨target, everything, true⟩ else none
      | '=' :: level => ofLevel? target true level
      | _ => none

/-- Whether a rule fits a target. -/
def fits (target : String) (r : Rule) : Bool :=
  !r.isInner && ((r.target.map fun t => t.toList.isPrefixOf target.toList).getD true)

/-- How specific a rule is. -/
def weight (r : Rule) : Nat :=
  (r.target.map fun t => t.utf8ByteSize + 1).getD 0

end Rule

/-- A filter. -/
abbrev Filter := List Rule

namespace Filter

/-- The better one of two rules that fit. -/
def prefer (a : Option Rule) (b : Rule) : Option Rule :=
  match a with
  | none => some b
  | some a => if b.weight < a.weight then some a else some b

/-- Whether a record is kept. -/
def keeps (rules : Filter) (r : Record) : Bool :=
  match (rules.filter (Rule.fits r.target)).foldl prefer none with
  | some rule => r.level.rank ≤ rule.greatest
  | none => false

/-- The rules between commas; a filter without rules keeps errors. -/
def parse? (s : String) : Option Filter :=
  let pieces := (s.splitOn ",").filter fun p => p ≠ ""
  (pieces.mapM Rule.parse?).map fun rules =>
    if rules.isEmpty then [{ greatest := Level.error.rank }] else rules

/-- The filter that is used where none is given. -/
def usual : Filter := [
  { target := some "vinfo_api", greatest := 4 },
  { target := some "vinfo_jobs", greatest := 4 },
  { target := some "vinfo_db", greatest := 3 },
  { target := some "tower_http", greatest := 4 }]

/-- The filter of a setting; one that cannot be read counts as missing. -/
def ofSetting (s : Option String) : Filter :=
  (s.bind parse?).getD usual

end Filter

end VideoProbe.Logging
