import Mathlib.Data.List.Forall2
import VideoProbe.Probe.Output

/-!
# The times that a probe prints

A time is a text, and white space around it does not count.  `Spells` declares which texts are
numbers, and which double each of them stands for: a sign or none, digits with a point or without
one, an exponent or none.  The words for infinity and for no number at all are read as numbers too,
but never as finite ones, so a time is what is spelled and finite (`seconds_ok_iff`).

A document has one time for the video and two for each chapter.  All of them are read in order
(`Document.times`), and the first that is no time decides (`Judges`): nothing is skipped and nothing
is moved.  What the chapters give is proved by induction on the list of chapters.
-/

namespace VideoProbe

/-! ## Numbers -/

namespace Decimal

/-- Digits and nothing else. -/
def Digits (cs : List Char) : Prop :=
  ∀ c ∈ cs, isDigit c = true

/-- A sign or none, and whether it is a minus. -/
inductive Sign : List Char → Bool → Prop
  | none : Sign [] false
  | plus : Sign ['+'] false
  | minus : Sign ['-'] true

/-- An exponent or none. -/
inductive Exponent : List Char → Int → Prop
  | none : Exponent [] 0
  | spelled {letter : Char} {sign ds : List Char} {negative : Bool}
      (hletter : letter = 'e' ∨ letter = 'E') (hsign : Sign sign negative) (hds : Digits ds)
      (hne : ds ≠ []) :
      Exponent (letter :: (sign ++ ds)) (if negative then -(ofDigits ds : Int) else ofDigits ds)

/-- Digits with a point or without one: the number of all the digits together, and how many of them
stand after the point. -/
inductive Mantissa : List Char → Nat → Nat → Prop
  | whole {ds : List Char} (hds : Digits ds) (hne : ds ≠ []) : Mantissa ds (ofDigits ds) 0
  | pointed {ds fs : List Char} (hds : Digits ds) (hfs : Digits fs) (hne : ds ≠ [] ∨ fs ≠ []) :
      Mantissa (ds ++ '.' :: fs) (ofDigits (ds ++ fs)) fs.length

/-- A number without its sign, and the double nearest to it. -/
inductive Unsigned : List Char → Float → Prop
  | mk {ms es : List Char} {n places : Nat} {e : Int} (hm : Mantissa ms n places)
      (he : Exponent es e) : Unsigned (ms ++ es) (nearestDouble n (e - places))

/-- A number, and the double that it stands for. -/
inductive Spells : List Char → Float → Prop
  | mk {sign cs : List Char} {negative : Bool} {x : Float} (hs : Sign sign negative)
      (hu : Unsigned cs x) : Spells (sign ++ cs) (if negative then -x else x)

/-! ### Signs -/

/-- A sign is taken, or there is none. -/
theorem takeSign_spec (cs : List Char) :
    ∃ sign, Sign sign (takeSign cs).1 ∧ cs = sign ++ (takeSign cs).2 := by
  unfold takeSign
  split
  · exact ⟨_, .minus, rfl⟩
  · exact ⟨_, .plus, rfl⟩
  · exact ⟨_, .none, rfl⟩

/-- A digit or a point is no sign. -/
theorem takeSign_append {sign cs : List Char} {negative : Bool} (hs : Sign sign negative)
    (hcs : ∀ c, cs.head? = some c → isDigit c = true ∨ c = '.') :
    takeSign (sign ++ cs) = (negative, cs) := by
  cases hs with
  | minus => rfl
  | plus => rfl
  | none =>
    rw [List.nil_append]
    unfold takeSign
    split
    · have hminus := hcs '-' rfl
      exact absurd hminus (by decide)
    · have hplus := hcs '+' rfl
      exact absurd hplus (by decide)
    · rfl

theorem Digits.head {ds : List Char} (h : Digits ds) {c : Char} (hc : ds.head? = some c) :
    isDigit c = true ∨ c = '.' :=
  Or.inl (h c (List.mem_of_head? hc))

/-! ### Exponents -/

/-- An exponent is a sign or none, and digits. -/
theorem exponent?_some_iff {cs : List Char} {e : Int} :
    exponent? cs = some e ↔ ∃ sign ds negative, Sign sign negative ∧ Digits ds ∧ ds ≠ [] ∧
      cs = sign ++ ds ∧ e = if negative then -(ofDigits ds : Int) else ofDigits ds := by
  constructor
  · intro h
    obtain ⟨sign, hs, hcs⟩ := takeSign_spec cs
    unfold exponent? at h
    generalize takeSign cs = p at h hs hcs
    obtain ⟨negative, ds⟩ := p
    dsimp only at h hs hcs
    -- What is left behind the sign has to be digits, and some.
    by_cases hds : (ds.isEmpty || !ds.all isDigit) = true
    · rw [if_pos hds] at h
      exact nomatch h
    · rw [if_neg hds] at h
      simp only [Bool.or_eq_true, List.isEmpty_iff, Bool.not_eq_true', not_or,
        Bool.not_eq_false, List.all_eq_true] at hds
      refine ⟨sign, ds, negative, hs, hds.2, hds.1, hcs, ?_⟩
      cases negative <;> simpa using h.symm
  · rintro ⟨sign, ds, negative, hs, hds, hne, rfl, rfl⟩
    unfold exponent?
    rw [takeSign_append hs fun c hc => hds.head hc]
    have hall : ds.all isDigit = true := List.all_eq_true.2 hds
    dsimp only
    rw [if_neg (by simp [hne, hall])]
    cases negative <;> rfl

/-- The part of a number that begins with the letter of an exponent, or nothing. -/
theorem exponentPart?_some_iff {cs : List Char} {e : Int} :
    exponentPart? cs = some e ↔ Exponent cs e := by
  constructor
  · intro h
    cases cs with
    | nil =>
      cases h
      exact .none
    | cons c r =>
      unfold exponentPart? at h
      dsimp only at h
      by_cases hletter : c = 'e' ∨ c = 'E'
      · rw [if_pos hletter] at h
        obtain ⟨sign, ds, negative, hs, hds, hne, rfl, rfl⟩ := exponent?_some_iff.1 h
        exact .spelled hletter hs hds hne
      · rw [if_neg hletter] at h
        exact nomatch h
  · intro h
    cases h with
    | none => rfl
    | spelled hletter hs hds hne =>
      unfold exponentPart?
      dsimp only
      rw [if_pos hletter]
      exact exponent?_some_iff.2 ⟨_, _, _, hs, hds, hne, rfl, rfl⟩

/-- An exponent begins with neither a digit nor a point. -/
theorem Exponent.head {cs : List Char} {e : Int} (h : Exponent cs e) {c : Char}
    (hc : cs.head? = some c) : isDigit c = false ∧ c ≠ '.' := by
  cases h with
  | none => exact nomatch hc
  | spelled hletter =>
    cases hc
    rcases hletter with rfl | rfl <;> exact ⟨rfl, by decide⟩

/-! ### The digits -/

/-- Digits end where something else begins. -/
theorem span_digits {ds rest : List Char} (hds : Digits ds)
    (hrest : ∀ c, rest.head? = some c → isDigit c = false) :
    (ds ++ rest).takeWhile isDigit = ds ∧ (ds ++ rest).dropWhile isDigit = rest := by
  have hend : rest.takeWhile isDigit = [] ∧ rest.dropWhile isDigit = rest := by
    cases rest with
    | nil => exact ⟨rfl, rfl⟩
    | cons c rest =>
      have hc := hrest c rfl
      simp [hc]
  rw [List.takeWhile_append_of_pos hds, List.dropWhile_append_of_pos hds, hend.1, hend.2,
    List.append_nil]
  exact ⟨rfl, rfl⟩

theorem digits_takeWhile (cs : List Char) : Digits (cs.takeWhile isDigit) :=
  fun c hc => List.all_eq_true.1 List.all_takeWhile c hc

/-- What `unsigned?` takes the number from, if there is a digit, is a mantissa. -/
theorem mantissa_of_fraction (cs : List Char) {fs rest : List Char}
    (h : takeFraction (cs.dropWhile isDigit) = (fs, rest))
    (hne : cs.takeWhile isDigit ≠ [] ∨ fs ≠ []) :
    ∃ ms, cs = ms ++ rest ∧ Mantissa ms (ofDigits (cs.takeWhile isDigit ++ fs)) fs.length := by
  have hcs := List.takeWhile_append_dropWhile (p := isDigit) (l := cs)
  have hds := digits_takeWhile cs
  generalize cs.takeWhile isDigit = ds at *
  generalize cs.dropWhile isDigit = after at *
  subst hcs
  unfold takeFraction at h
  split at h
  · rename_i r
    cases h
    refine ⟨ds ++ '.' :: r.takeWhile isDigit, ?_, .pointed hds (digits_takeWhile r) hne⟩
    rw [List.append_assoc, List.cons_append, List.takeWhile_append_dropWhile]
  · cases h
    have hds' : ds ≠ [] := by simpa using hne
    refine ⟨ds, rfl, ?_⟩
    rw [List.append_nil]
    exact .whole hds hds'

/-- A mantissa is taken apart again. -/
theorem Mantissa.taken {ms es : List Char} {n places : Nat} {e : Int} (hm : Mantissa ms n places)
    (he : Exponent es e) :
    ∃ fs, takeFraction ((ms ++ es).dropWhile isDigit) = (fs, es) ∧
      ((ms ++ es).takeWhile isDigit ≠ [] ∨ fs ≠ []) ∧
      ofDigits ((ms ++ es).takeWhile isDigit ++ fs) = n ∧ fs.length = places := by
  -- Neither an exponent nor a point begins with a digit, so the runs of digits end where they
  -- should.
  have hend : ∀ c, es.head? = some c → isDigit c = false := fun c hc => (he.head hc).1
  cases hm with
  | whole hds hne =>
    obtain ⟨htake, hdrop⟩ := span_digits hds hend
    have hfraction : takeFraction es = ([], es) := by
      unfold takeFraction
      split
      · exact absurd rfl (he.head rfl).2
      · rfl
    rw [htake, hdrop]
    exact ⟨[], hfraction, Or.inl hne, by rw [List.append_nil], rfl⟩
  | @pointed ds fs hds hfs hne =>
    have hpoint : ∀ c, ('.' :: (fs ++ es)).head? = some c → isDigit c = false := by
      intro c hc
      cases hc
      rfl
    obtain ⟨htake, hdrop⟩ := span_digits hds hpoint
    obtain ⟨htake', hdrop'⟩ := span_digits hfs hend
    rw [List.append_assoc, List.cons_append, htake, hdrop]
    refine ⟨fs, ?_, hne, rfl, rfl⟩
    simp only [takeFraction, htake', hdrop']

/-- **A number without its sign** is a mantissa and an exponent. -/
theorem unsigned?_some_iff {cs : List Char} {x : Float} :
    unsigned? cs = some x ↔ Unsigned cs x := by
  constructor
  · intro h
    unfold unsigned? at h
    dsimp only at h
    cases hfraction : takeFraction (cs.dropWhile isDigit) with
    | mk fs rest =>
      rw [hfraction] at h
      dsimp only at h
      by_cases hempty : ((cs.takeWhile isDigit).isEmpty && fs.isEmpty) = true
      · rw [if_pos hempty] at h
        exact nomatch h
      · rw [if_neg hempty] at h
        -- There are digits on one side of the point, or on both.
        have hne : cs.takeWhile isDigit ≠ [] ∨ fs ≠ [] := by
          rw [← not_and_or]
          simpa using hempty
        obtain ⟨e, he, rfl⟩ := Option.map_eq_some_iff.1 h
        obtain ⟨ms, hcs, hm⟩ := mantissa_of_fraction cs hfraction hne
        have hunsigned := Unsigned.mk hm (exponentPart?_some_iff.1 he)
        rw [← hcs] at hunsigned
        exact hunsigned
  · intro h
    obtain @⟨ms, es, n, places, e, hm, he⟩ := h
    obtain ⟨fs, hfraction, hne, hn, hplaces⟩ := hm.taken he
    unfold unsigned?
    dsimp only
    rw [hfraction]
    dsimp only
    have hsome : ¬ (((ms ++ es).takeWhile isDigit).isEmpty && fs.isEmpty) = true := by
      rw [Bool.and_eq_true, List.isEmpty_iff, List.isEmpty_iff]
      exact not_and_or.2 hne
    rw [if_neg hsome, exponentPart?_some_iff.2 he, hn, hplaces]
    rfl

/-! ### Words -/

/-- A mantissa begins with a digit or a point, so it has no sign. -/
theorem Mantissa.head {ms : List Char} {n places : Nat} (h : Mantissa ms n places) :
    ∃ c r, ms = c :: r ∧ (isDigit c = true ∨ c = '.') := by
  cases h with
  | whole hds hne =>
    obtain ⟨c, r, rfl⟩ := List.exists_cons_of_ne_nil hne
    exact ⟨c, r, rfl, Or.inl (hds c List.mem_cons_self)⟩
  | @pointed ds fs hds _ _ =>
    cases ds with
    | nil => exact ⟨'.', fs, rfl, Or.inr rfl⟩
    | cons c ds => exact ⟨c, ds ++ '.' :: fs, rfl, Or.inl (hds c List.mem_cons_self)⟩

theorem Unsigned.head {cs : List Char} {x : Float} (h : Unsigned cs x) :
    ∃ c r, cs = c :: r ∧ (isDigit c = true ∨ c = '.') := by
  obtain ⟨hm, -⟩ := h
  obtain ⟨c, r, rfl, hc⟩ := hm.head
  exact ⟨c, _, rfl, hc⟩

/-- A digit or a point is no letter. -/
theorem toLower_of_digit {c : Char} (h : isDigit c = true ∨ c = '.') :
    c.toLower ≠ 'i' ∧ c.toLower ≠ 'n' := by
  have hlow : c.val ≤ '9'.val := by
    rcases h with h | rfl
    · simp only [isDigit, Bool.and_eq_true, decide_eq_true_eq] at h
      exact h.2
    · decide
  have hsame : c.toLower = c := by
    unfold Char.toLower
    refine dif_neg fun hupper => ?_
    have hcontra : 'A'.val ≤ '9'.val := UInt32.le_trans hupper.1 hlow
    exact absurd hcontra (by decide)
  rw [hsame]
  constructor
  · rintro rfl
    exact absurd hlow (by decide)
  · rintro rfl
    exact absurd hlow (by decide)

/-- What is spelled with digits is no word. -/
theorem word?_of_unsigned {cs : List Char} {x : Float} (h : Unsigned cs x) : word? cs = none := by
  obtain ⟨c, r, rfl, hc⟩ := h.head
  obtain ⟨hi, hn⟩ := toLower_of_digit hc
  simp [word?, hi, hn]

/-- What a word stands for is not finite, with either sign. -/
theorem not_finite_of_word? {cs : List Char} {x : Float} (h : word? cs = some x) :
    x.isFinite = false ∧ (-x).isFinite = false := by
  unfold word? at h
  dsimp only at h
  split at h
  · cases h
    decide +kernel
  · split at h
    · cases h
      decide +kernel
    · exact nomatch h

/-- **A finite number** is read where one is spelled, and it is the one that is spelled. -/
theorem float?_finite_iff {s : String} {x : Float} (hx : x.isFinite = true) :
    float? s = some x ↔ Spells s.toList x := by
  constructor
  · intro h
    obtain ⟨sign, hs, hcs⟩ := takeSign_spec s.toList
    unfold float? at h
    generalize takeSign s.toList = p at h hs hcs
    obtain ⟨negative, cs⟩ := p
    dsimp only at h hs hcs
    obtain ⟨y, hy, rfl⟩ := Option.map_eq_some_iff.1 h
    cases hword : word? cs with
    | some w =>
      -- A word would give a number that is not finite.
      rw [hword, Option.some_or, Option.some.injEq] at hy
      subst hy
      obtain ⟨hplus, hminus⟩ := not_finite_of_word? hword
      cases negative <;> simp_all
    | none =>
      rw [hword, Option.none_or] at hy
      rw [hcs]
      exact .mk hs (unsigned?_some_iff.1 hy)
  · intro h
    generalize hcs : s.toList = cs at h
    obtain @⟨sign, us, negative, y, hs, hu⟩ := h
    have hfirst : ∀ c, us.head? = some c → isDigit c = true ∨ c = '.' := by
      intro c hc
      obtain ⟨d, r, rfl, hdigit⟩ := hu.head
      cases hc
      exact hdigit
    unfold float?
    rw [hcs, takeSign_append hs hfirst]
    dsimp only
    rw [word?_of_unsigned hu, Option.none_or, unsigned?_some_iff.2 hu]
    rfl

end Decimal

namespace Probe

open Decimal

/-! ## Times -/

/-- A text is a time, and this is the number of seconds: white space around it does not count. -/
def IsTime (raw : String) (x : Float) : Prop :=
  Spells (Text.trim raw).toList x ∧ x.isFinite = true

/-- A text is read as a time exactly if it spells a number that is finite. -/
theorem seconds_ok_iff {field raw : String} {x : Float} :
    seconds field raw = .ok x ↔ IsTime raw x := by
  unfold seconds IsTime
  cases hfloat : float? (Text.trim raw) with
  | none =>
    constructor
    · intro h
      exact nomatch h
    · rintro ⟨hspells, hx⟩
      exact nomatch hfloat.symm.trans ((float?_finite_iff hx).2 hspells)
  | some y =>
    dsimp only
    constructor
    · intro h
      by_cases hy : y.isFinite = true
      · rw [if_pos hy] at h
        cases h
        exact ⟨(float?_finite_iff hy).1 hfloat, hy⟩
      · rw [if_neg hy] at h
        exact nomatch h
    · rintro ⟨hspells, hx⟩
      cases hfloat.symm.trans ((float?_finite_iff hx).2 hspells)
      rw [if_pos hx]

/-- What is no time is reported as it stood, with the name of its field. -/
theorem seconds_error_iff {field raw : String} {e : ProbeError} :
    seconds field raw = .error e ↔ (∀ x, ¬ IsTime raw x) ∧ e = .invalidNumber field raw := by
  have hcases : (∃ x, seconds field raw = .ok x) ∨
      seconds field raw = .error (.invalidNumber field raw) := by
    unfold seconds
    cases float? (Text.trim raw) with
    | none => exact Or.inr rfl
    | some y =>
      by_cases hy : y.isFinite = true
      · exact Or.inl ⟨y, if_pos hy⟩
      · exact Or.inr (if_neg hy)
  -- There are two ends only, and they exclude each other.
  rcases hcases with ⟨x, hx⟩ | herror
  · have htime := seconds_ok_iff.1 hx
    constructor
    · intro h
      exact nomatch hx.symm.trans h
    · rintro ⟨hnot, -⟩
      exact absurd htime (hnot x)
  · have hnot : ∀ x, ¬ IsTime raw x := by
      intro x hx
      exact nomatch herror.symm.trans (seconds_ok_iff.2 hx)
    rw [herror, Except.error.injEq]
    constructor
    · intro h
      exact ⟨hnot, h.symm⟩
    · rintro ⟨-, rfl⟩
      rfl

/-! ## Documents -/

/-- The times of a chapter, each under the name that a report gives to it. -/
def ChapterTimes.times (c : ChapterTimes) : List (String × String) :=
  [("chapter start time", c.start), ("chapter end time", c.stop)]

/-- The times of a document in the order in which they are read. -/
def Document.times (d : Document) : List (String × String) :=
  ("duration", d.duration) :: d.chapters.flatMap ChapterTimes.times

/-- All of some texts are times. -/
def AllTimes (ts : List (String × String)) : Prop :=
  ∀ t ∈ ts, ∃ x, IsTime t.2 x

/-- The first of some texts that is no time, and the report of it. -/
inductive FirstFault (ts : List (String × String)) : ProbeError → Prop
  | mk {before after : List (String × String)} {field raw : String}
      (hts : ts = before ++ (field, raw) :: after) (hbefore : AllTimes before)
      (hraw : ∀ x, ¬ IsTime raw x) : FirstFault ts (.invalidNumber field raw)

/-- How long a chapter is: its end minus its start. -/
def Lasts (c : ChapterTimes) (x : Float) : Prop :=
  ∃ start stop, IsTime c.start start ∧ IsTime c.stop stop ∧ x = stop - start

/-- What comes of a list of texts that are read as times in order: if all of them are times, a value
that follows from them, and otherwise the report of the first fault. -/
structure Judges (ts : List (String × String)) (good : α → Prop) (r : Except ProbeError α) :
    Prop where
  ok_iff : (∃ a, r = .ok a) ↔ AllTimes ts
  of_ok : ∀ a, r = .ok a → good a
  of_error : ∀ e, r = .error e → FirstFault ts e

section Judging

variable {ts us : List (String × String)} {P : α → Prop} {Q : α → β → Prop} {e : ProbeError}

/-- All times, and then all others. -/
theorem allTimes_append : AllTimes (ts ++ us) ↔ AllTimes ts ∧ AllTimes us := by
  unfold AllTimes
  constructor
  · intro h
    exact ⟨fun t ht => h t (List.mem_append_left _ ht), fun t ht => h t (List.mem_append_right _ ht)⟩
  · rintro ⟨hts, hus⟩ t ht
    exact (List.mem_append.1 ht).elim (hts t) (hus t)

/-- What comes after the first fault does not matter. -/
theorem FirstFault.append (h : FirstFault ts e) (us : List (String × String)) :
    FirstFault (ts ++ us) e := by
  obtain ⟨rfl, hbefore, hraw⟩ := h
  exact .mk (by rw [List.append_assoc, List.cons_append]) hbefore hraw

/-- What comes before it has to be good. -/
theorem FirstFault.prepend (h : FirstFault us e) (hts : AllTimes ts) : FirstFault (ts ++ us) e := by
  obtain ⟨rfl, hbefore, hraw⟩ := h
  exact .mk (List.append_assoc _ _ _).symm (allTimes_append.2 ⟨hts, hbefore⟩) hraw

/-- Nothing is read, and there is no fault. -/
theorem judges_pure {a : α} (h : P a) : Judges [] P (.ok a) where
  ok_iff := ⟨fun _ _ ht => absurd ht List.not_mem_nil, fun _ => ⟨a, rfl⟩⟩
  of_ok := fun _ hb => Except.ok.inj hb ▸ h
  of_error := nofun

/-- One time. -/
theorem judges_seconds (field raw : String) :
    Judges [(field, raw)] (IsTime raw) (seconds field raw) where
  ok_iff := by
    constructor
    · rintro ⟨x, hx⟩ t ht
      rw [List.mem_singleton.1 ht]
      exact ⟨x, seconds_ok_iff.1 hx⟩
    · intro h
      obtain ⟨x, hx⟩ := h _ (List.mem_singleton_self _)
      exact ⟨x, seconds_ok_iff.2 hx⟩
  of_ok := fun _ hx => seconds_ok_iff.1 hx
  of_error := by
    intro e he
    obtain ⟨hnot, rfl⟩ := seconds_error_iff.1 he
    have honly : [(field, raw)] = [] ++ (field, raw) :: [] := rfl
    exact .mk honly (fun _ ht => absurd ht List.not_mem_nil) hnot

/-- **Some times, and then others.**  A fault among the first goes before those among the others,
which are not read then. -/
theorem Judges.bind {r : Except ProbeError α} {k : α → Except ProbeError β} (h : Judges ts P r)
    (hk : ∀ a, P a → Judges us (Q a) (k a)) :
    Judges (ts ++ us) (fun b => ∃ a, P a ∧ Q a b) (r >>= k) := by
  -- After a fault the others are not looked at, and the fault stands before them.
  cases r with
  | error e =>
    have hnot : ¬ AllTimes ts := fun hts => nomatch (h.ok_iff.2 hts).choose_spec
    refine ⟨?_, nofun, ?_⟩
    · rw [allTimes_append]
      constructor
      · rintro ⟨b, hb⟩
        exact nomatch hb
      · rintro ⟨hts, -⟩
        exact absurd hts hnot
    · rintro _ ⟨⟩
      exact (h.of_error e rfl).append us
  | ok a =>
    have hts : AllTimes ts := h.ok_iff.1 ⟨a, rfl⟩
    have hP : P a := h.of_ok a rfl
    obtain ⟨hok, hgood, hfault⟩ := hk a hP
    refine ⟨?_, fun b hb => ⟨a, hP, hgood b hb⟩, fun e he => (hfault e he).prepend hts⟩
    rw [allTimes_append, and_iff_right hts]
    exact hok

theorem Judges.mono {r : Except ProbeError α} {P' : α → Prop} (h : Judges ts P r)
    (hP : ∀ a, P a → P' a) : Judges ts P' r :=
  ⟨h.ok_iff, fun a ha => hP a (h.of_ok a ha), h.of_error⟩

end Judging

/-- A chapter is judged by its end and its start. -/
theorem judges_duration (c : ChapterTimes) : Judges c.times (Lasts c) c.duration := by
  have hstop : ∀ start, Judges [("chapter end time", c.stop)]
      (fun x => ∃ stop, IsTime c.stop stop ∧ x = stop - start)
      (seconds "chapter end time" c.stop >>= fun stop => pure (stop - start)) := by
    intro start
    exact (judges_seconds "chapter end time" c.stop).bind fun stop _ => judges_pure rfl
  have hchapter := (judges_seconds "chapter start time" c.start).bind fun start _ => hstop start
  refine hchapter.mono ?_
  rintro x ⟨start, hstart, stop, hstop, rfl⟩
  exact ⟨start, stop, hstart, hstop, rfl⟩

/-- The chapters, by induction on their list. -/
theorem judges_chapters (cs : List ChapterTimes) :
    Judges (cs.flatMap ChapterTimes.times) (List.Forall₂ Lasts cs) (chapterDurations cs) := by
  induction cs with
  | nil => exact judges_pure .nil
  | cons c cs ih =>
    have hbind : chapterDurations (c :: cs) =
        c.duration >>= fun x => chapterDurations cs >>= fun xs => pure (x :: xs) := by
      conv_lhs => unfold chapterDurations
      cases c.duration with
      | error e => rfl
      | ok x => cases chapterDurations cs <;> rfl
    have hrest : ∀ x, Judges (cs.flatMap ChapterTimes.times ++ [])
        (fun ys => ∃ xs, List.Forall₂ Lasts cs xs ∧ ys = x :: xs)
        (chapterDurations cs >>= fun xs => pure (x :: xs)) :=
      fun x => ih.bind fun xs _ => judges_pure rfl
    rw [hbind, List.flatMap_cons, ← List.append_nil (cs.flatMap ChapterTimes.times)]
    refine ((judges_duration c).bind fun x _ => hrest x).mono ?_
    rintro ys ⟨x, hx, xs, hxs, rfl⟩
    exact .cons hx hxs

/-- **The metadata of a document**: its duration, and the duration of each of its chapters. -/
theorem judges_info (d : Document) :
    Judges d.times (fun info => IsTime d.duration info.duration ∧
      List.Forall₂ Lasts d.chapters info.chapters) d.info := by
  have hbind : d.info = seconds "duration" d.duration >>= fun x =>
      chapterDurations d.chapters >>= fun xs => pure ⟨x, xs⟩ := by
    unfold Document.info
    cases seconds "duration" d.duration with
    | error e => rfl
    | ok x => cases chapterDurations d.chapters <;> rfl
  have hrest : ∀ x, Judges (d.chapters.flatMap ChapterTimes.times ++ [])
      (fun info : VideoInfo => ∃ xs, List.Forall₂ Lasts d.chapters xs ∧ info = ⟨x, xs⟩)
      (chapterDurations d.chapters >>= fun xs => pure ⟨x, xs⟩) :=
    fun x => (judges_chapters d.chapters).bind fun xs _ => judges_pure rfl
  have htimes : d.times =
      [("duration", d.duration)] ++ (d.chapters.flatMap ChapterTimes.times ++ []) := by
    rw [List.append_nil]
    rfl
  rw [hbind, htimes]
  refine ((judges_seconds "duration" d.duration).bind fun x _ => hrest x).mono ?_
  rintro info ⟨x, hx, xs, hxs, rfl⟩
  exact ⟨hx, hxs⟩

end Probe

end VideoProbe
