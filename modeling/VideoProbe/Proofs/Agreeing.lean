import Mathlib.Data.List.TakeDrop
import VideoProbe.Json.Skip
import VideoProbe.Proofs.Accepting

/-!
# Readings that agree

Two readers of the same octets may refuse different ones of them.  They agree if, wherever both read
something, they take the same octets and what they read is related (`Agree`).

Who reads a number or a string and who passes over it come to the same end in this way
(`sameEnd_unsigned`, `sameEnd_string`).  The two go through a string at different paces: a character
is one step for the reader, but as many as it has octets for the other, and a pair of surrogates is
two escapes for it.  So the induction is on the reader, and says what is left to the other
(`Skips`).
-/

namespace VideoProbe.Json

/-! ## Agreement

Nothing is said of octets that one of the two refuses.  So agreement is not transitive, and it is
not used that way: it is carried along a pair of readers that take one step each (`Agree.andThen`).
-/

/-- If both readings end well, they take the same octets, and their values are related. -/
def Agree (R : α → β → Prop) (x : Reading α) (y : Reading β) : Prop :=
  ∀ a rest b rest', x = .ok (a, rest) → y = .ok (b, rest') → rest' = rest ∧ R a b

/-- Readings that take the same octets. -/
abbrev SameEnd (x : Reading α) (y : Reading β) : Prop :=
  Agree (fun _ _ => True) x y

section Agreement

variable {R : α → β → Prop} {S : γ → δ → Prop}

/-- Where one of the two fails there is nothing to agree on. -/
theorem agree_of_error_left {f : Fault} {y : Reading β} : Agree R (.error f) y :=
  fun _ _ _ _ hx _ => nomatch hx

/-- The same on the other side. -/
theorem agree_of_error_right {x : Reading α} {f : Fault} : Agree R x (.error f) :=
  fun _ _ _ _ _ hy => nomatch hy

/-- Two readings that end at the same place agree if their values are related. -/
theorem agree_of_ok {a : α} {b : β} {rest : Octets} (h : R a b) :
    Agree R (.ok (a, rest)) (.ok (b, rest)) := by
  intro a' rest' b' rest'' hx hy
  cases hx
  cases hy
  exact ⟨rfl, h⟩

/-- Reading is a function, so a reader agrees with itself. -/
theorem agree_refl (x : Reading α) : Agree Eq x x := by
  intro a rest b rest' hx hy
  cases hx.symm.trans hy
  exact ⟨rfl, rfl⟩

/-- For most of what follows it is only asked where the two end. -/
theorem Agree.ends {x : Reading α} {y : Reading β} (h : Agree R x y) : SameEnd x y :=
  fun a rest b rest' hx hy => ⟨(h a rest b rest' hx hy).1, trivial⟩

/-- Where both go on from what they have read, it is enough that they go on alike. -/
theorem Agree.andThen {x : Reading α} {y : Reading β} {f : α → Octets → Reading γ}
    {g : β → Octets → Reading δ} :
    Agree R x y → (∀ a b rest, R a b → Agree S (f a rest) (g b rest)) →
    Agree S (match x with | .error e => .error e | .ok (a, s) => f a s)
      (match y with | .error e => .error e | .ok (b, s) => g b s) := by
  intro h hgo
  rcases x with e | ⟨a, rest⟩
  · exact agree_of_error_left
  · rcases y with e | ⟨b, rest'⟩
    · exact agree_of_error_right
    · obtain ⟨rfl, hab⟩ := h a rest b rest' rfl rfl
      exact hgo a b rest' hab

end Agreement

/-! ## Numbers

Who passes over a number does not ask how large it is, so it comes to an end where the reader may
refuse the number for its size.  Where the reader does not, both have taken the digits as far as
they go; one of them has looked at the first digit before, which makes no difference
(`spanDigits_cons`). -/

/-- A digit that has been looked at is the first of those that are taken.  A reader takes the digits
from here on, and whoever passes over them from the next octet on. -/
theorem spanDigits_cons {b : UInt8} (hb : isDigitOctet b = true) (r : Octets) :
    spanDigits (b :: r) = (b :: (spanDigits r).1, (spanDigits r).2) := by
  unfold spanDigits
  rw [List.span_eq_takeWhile_dropWhile, List.span_eq_takeWhile_dropWhile,
    List.takeWhile_cons_of_pos hb, List.dropWhile_cons_of_pos hb]

/-- The end of a number takes nothing. -/
theorem rest_of_finishReal {negative : Bool} {n : Nat} {e : Int} {s rest : Octets} {x : Numeral}
    (h : finishReal negative n e s = .ok (x, rest)) : rest = s := by
  unfold finishReal at h
  split at h
  · cases h
    rfl
  · exact nomatch h

/-- The digits of an exponent are taken, however many they are. -/
theorem rest_of_exponentDigits {negative up : Bool} {n : Nat} {scale : Int} {s rest : Octets}
    {x : Numeral} (h : readExponentDigits negative n scale up s = .ok (x, rest)) :
    ∃ b r, s = b :: r ∧ isDigitOctet b = true ∧ rest = (spanDigits r).2 := by
  cases s with
  | nil => exact nomatch h
  | cons b r =>
    unfold readExponentDigits at h
    dsimp only at h
    by_cases hb : isDigitOctet b = true
    · refine ⟨b, r, rfl, hb, ?_⟩
      rw [if_pos hb, spanDigits_cons hb] at h
      split at h
      · exact rest_of_finishReal h
      · split at h
        · exact nomatch h
        · cases h
          rfl
    · rw [if_neg hb] at h
      exact nomatch h

/-- An exponent ends behind its digits, also where it is out of reach and the reader does not look
at all of them. -/
theorem sameEnd_exponent (negative : Bool) (n : Nat) (scale : Int) (s : Octets) :
    SameEnd (readExponent negative n scale s) (skipExponent s) := by
  intro x rest u rest' hread hskip
  have hdigits : readExponentDigits negative n scale (exponentSign s).1 (exponentSign s).2 =
      .ok (x, rest) := hread
  obtain ⟨b, r, hs, hb, rfl⟩ := rest_of_exponentDigits hdigits
  unfold skipExponent at hskip
  rw [hs] at hskip
  dsimp only at hskip
  rw [if_pos hb] at hskip
  cases hskip
  exact ⟨rfl, trivial⟩

/-- What follows the decimals: an exponent, or the end. -/
theorem sameEnd_decimals (negative : Bool) (n : Nat) (scale : Int) (s : Octets) :
    SameEnd (readDecimals negative n scale s) (skipDecimals s) := by
  unfold readDecimals skipDecimals
  dsimp only
  rcases (spanDigits s).1 with _ | ⟨d, ds⟩
  · -- Without a decimal nothing is read.
    rcases (spanDigits s).2 with _ | ⟨b, r⟩
    · exact agree_of_error_left
    · exact agree_of_error_left
  · rcases (spanDigits s).2 with _ | ⟨b, r⟩
    · intro x rest u rest' hread hskip
      cases hskip
      exact ⟨(rest_of_finishReal hread).symm, trivial⟩
    · dsimp only
      unfold realTail
      dsimp only
      by_cases hb : b = 0x65 ∨ b = 0x45
      · rw [if_pos hb, if_pos hb]
        exact sameEnd_exponent _ _ _ r
      · rw [if_neg hb, if_neg hb]
        intro x rest u rest' hread hskip
        cases hskip
        exact ⟨(rest_of_finishReal hread).symm, trivial⟩

/-- What follows the digits before the point. -/
theorem sameEnd_numberTail (negative : Bool) (n : Nat) (excess s : Octets) :
    SameEnd (numberTail negative n excess s) (skipNumberTail s) := by
  -- Where nothing follows, the number ends whether it is whole or not.
  have hend : ∀ s, SameEnd (if excess.isEmpty then .ok (wholeNumeral negative n, s)
      else finishReal negative n excess.length s) (.ok ((), s)) := by
    intro s x rest u rest' hread hskip
    cases hskip
    by_cases hexcess : excess.isEmpty = true
    · rw [if_pos hexcess] at hread
      cases hread
      exact ⟨rfl, trivial⟩
    · rw [if_neg hexcess] at hread
      exact ⟨(rest_of_finishReal hread).symm, trivial⟩
  cases s with
  | nil => exact hend []
  | cons b r =>
    unfold numberTail skipNumberTail
    dsimp only
    by_cases hpoint : b = 0x2E
    · rw [if_pos hpoint, if_pos hpoint]
      exact sameEnd_decimals _ _ _ r
    · rw [if_neg hpoint, if_neg hpoint]
      by_cases hletter : b = 0x65 ∨ b = 0x45
      · rw [if_pos hletter, if_pos hletter]
        exact sameEnd_exponent _ _ _ r
      · rw [if_neg hletter, if_neg hletter]
        exact hend (b :: r)

/-- **A number** ends where it ends, whether it is read or passed over. -/
theorem sameEnd_unsigned (negative : Bool) (s : Octets) :
    SameEnd (readUnsigned negative s) (skipNumber s) := by
  cases s with
  | nil => exact agree_of_error_left
  | cons b r =>
    unfold readUnsigned skipNumber
    dsimp only
    by_cases hzero : b = 0x30
    · rw [if_pos hzero, if_pos hzero]
      cases r with
      | nil => exact sameEnd_numberTail _ _ _ []
      | cons c r =>
        -- Only a reader looks for a digit behind a zero, and refuses it.
        dsimp only
        by_cases hc : isDigitOctet c = true
        · rw [if_pos hc]
          exact agree_of_error_left
        · rw [if_neg hc, if_neg hc]
          exact sameEnd_numberTail _ _ _ (c :: r)
    · rw [if_neg hzero, if_neg hzero]
      by_cases hb : isDigitOctet b = true
      · rw [if_pos hb, if_pos hb, spanDigits_cons hb]
        exact sameEnd_numberTail _ _ _ (spanDigits r).2
      · rw [if_neg hb]
        exact agree_of_error_left

/-! ## Strings

Here the two loops are not in step.  One round of the reader takes a character or an escape, and a
pair of surrogates is one character; one round of the other takes an octet or an escape, and it
takes a pair in two.  Every lemma below therefore takes what one round of the reader takes away from
the string and says that the other comes to the point behind it, after some rounds. -/

/-- A string is passed over, up to some octets, with as much fuel as it takes.  The fuel is left
open because the two loops go at different paces, so that neither has the other's. -/
def Skips (s rest : Octets) : Prop :=
  ∃ fuel, skipString fuel s = .ok ((), rest)

/-- An octet that has no meaning of its own is passed over. -/
theorem Skips.plain {b : UInt8} {r rest : Octets} (h : Skips (b :: r) rest) (hquote : b ≠ quoteMark)
    (hback : b ≠ backslash) : Skips r rest := by
  obtain ⟨fuel, h⟩ := h
  cases fuel with
  | zero => exact nomatch h
  | succ fuel =>
    unfold skipString at h
    rw [if_neg hquote, if_neg hback] at h
    by_cases hcontrol : b < 0x20
    · rw [if_pos hcontrol] at h
      exact nomatch h
    · rw [if_neg hcontrol] at h
      exact ⟨fuel, h⟩

/-- So are octets outside ASCII. -/
theorem Skips.tails {tails r rest : Octets} (h : Skips (tails ++ r) rest)
    (htails : ∀ b ∈ tails, 0x80 ≤ b.toNat) : Skips r rest := by
  induction tails with
  | nil => exact h
  | cons b tails ih =>
    obtain ⟨hb, htails⟩ := List.forall_mem_cons.1 htails
    have hquote : b ≠ quoteMark := fun heq => absurd (heq ▸ hb) (by decide)
    have hback : b ≠ backslash := fun heq => absurd (heq ▸ hb) (by decide)
    exact ih (h.plain hquote hback) htails

/-- An escape of one letter is passed over with its letter. -/
theorem Skips.simple {b : UInt8} {r rest : Octets} (h : Skips (backslash :: b :: r) rest)
    (hb : (simpleEscape? b).isSome = true) : Skips r rest := by
  obtain ⟨fuel, h⟩ := h
  cases fuel with
  | zero => exact nomatch h
  | succ fuel =>
    unfold skipString at h
    rw [if_neg (by decide), if_pos rfl] at h
    dsimp only at h
    rw [if_pos hb] at h
    exact ⟨fuel, h⟩

/-- A numeric escape is passed over with its four digits. -/
theorem Skips.numeric {r rest : Octets} (h : Skips (backslash :: 0x75 :: r) rest) :
    ∃ n r', hexFour r = .ok (n, r') ∧ Skips r' rest := by
  obtain ⟨fuel, h⟩ := h
  cases fuel with
  | zero => exact nomatch h
  | succ fuel =>
    unfold skipString at h
    rw [if_neg (by decide), if_pos rfl] at h
    dsimp only at h
    rw [if_neg (by decide), if_pos rfl] at h
    rcases hhex : hexFour r with f | ⟨n, r'⟩
    · rw [hhex] at h
      exact nomatch h
    · rw [hhex] at h
      exact ⟨n, r', rfl, fuel, h⟩

/-- The two octets that open the second escape of a pair are what they are taken for. -/
theorem takeEscapeOctet_ok {b : UInt8} {s : Octets} {u : Unit} {rest : Octets}
    (h : takeEscapeOctet b s = .ok (u, rest)) : s = b :: rest := by
  unfold takeEscapeOctet at h
  split at h
  · exact nomatch h
  · split at h
    · rename_i hb
      cases h
      rw [hb]
    · exact nomatch h

/-- Whatever a reader makes of numeric escapes, they are passed over one by one. -/
theorem Skips.numericEscape {r r' rest : Octets} {c : Char}
    (h : Skips (backslash :: 0x75 :: r) rest) (hread : Json.numericEscape r = .ok (c, r')) :
    Skips r' rest := by
  obtain ⟨n, r1, hhex, h⟩ := h.numeric
  unfold Json.numericEscape at hread
  rw [hhex] at hread
  dsimp only at hread
  by_cases hlow : 0xDC00 ≤ n ∧ n ≤ 0xDFFF
  · rw [if_pos hlow] at hread
    exact nomatch hread
  · rw [if_neg hlow] at hread
    by_cases hplain : n < 0xD800 ∨ 0xDBFF < n
    · rw [if_pos hplain] at hread
      cases hread
      exact h
    · -- A pair of surrogates is one character for a reader, and two escapes otherwise.
      rw [if_neg hplain] at hread
      rcases hback : takeEscapeOctet backslash r1 with f | ⟨u, r2⟩
      · rw [hback] at hread
        exact nomatch hread
      · rw [hback] at hread
        dsimp only at hread
        rcases hletter : takeEscapeOctet 0x75 r2 with f | ⟨u', r3⟩
        · rw [hletter] at hread
          exact nomatch hread
        · rw [hletter] at hread
          dsimp only at hread
          rw [takeEscapeOctet_ok hback, takeEscapeOctet_ok hletter] at h
          obtain ⟨m, r4, hhex', h⟩ := h.numeric
          rw [hhex'] at hread
          dsimp only at hread
          by_cases hpair : m < 0xDC00 ∨ 0xDFFF < m
          · rw [if_pos hpair] at hread
            exact nomatch hread
          · rw [if_neg hpair] at hread
            rw [← (Prod.mk.inj (Except.ok.inj hread)).2]
            exact h

/-- An escape of any kind is passed over as far as it is read. -/
theorem Skips.escape {r r' rest : Octets} {c : Char} (h : Skips (backslash :: r) rest)
    (hread : readEscape r = .ok (c, r')) : Skips r' rest := by
  unfold readEscape at hread
  cases r with
  | nil => exact nomatch hread
  | cons b r =>
    dsimp only at hread
    cases hsimple : simpleEscape? b with
    | some c' =>
      rw [hsimple] at hread
      cases hread
      exact h.simple (by rw [hsimple]; rfl)
    | none =>
      rw [hsimple] at hread
      dsimp only at hread
      by_cases hb : b = 0x75
      · rw [if_pos hb] at hread
        subst hb
        exact h.numericEscape hread
      · rw [if_neg hb] at hread
        exact nomatch hread

/-- With an octet that is not UTF-8 no string is read. -/
theorem stringLoop_broken (fuel : Nat) (done : List Char) (broken s : Octets)
    (r : List Char × Octets) : stringLoop fuel done (some broken) s ≠ .ok r := by
  intro h
  induction fuel generalizing done s with
  | zero => cases h
  | succ fuel ih =>
    cases s with
    | nil => cases h
    | cons b s =>
      unfold stringLoop at h
      split at h
      · cases h
      · split at h
        · split at h
          · exact ih _ _ h
          · cases h
        · split at h
          · cases h
          · split at h
            · exact ih _ _ h
            · exact ih _ _ h

/-- Who reads a string and who passes over it come to the same end.  The induction is on the rounds
of the reader; one of them is one or more rounds of the other, which `Skips` does not count. -/
theorem Skips.rest_of_stringLoop {fuel : Nat} {done cs : List Char} {s r rest : Octets}
    (h : Skips s rest) (hread : stringLoop fuel done none s = .ok (cs, r)) : rest = r := by
  induction fuel generalizing done s with
  | zero => cases hread
  | succ fuel ih =>
    cases s with
    | nil => cases hread
    | cons b s =>
      unfold stringLoop at hread
      by_cases hquote : b = quoteMark
      · rw [if_pos hquote] at hread
        cases hread
        -- The quote that ends the string is the same for both.
        obtain ⟨fuel', h⟩ := h
        cases fuel' with
        | zero => cases h
        | succ fuel' =>
          unfold skipString at h
          rw [if_pos hquote] at h
          cases h
          rfl
      · rw [if_neg hquote] at hread
        by_cases hback : b = backslash
        · rw [if_pos hback] at hread
          subst hback
          rcases hescape : readEscape s with f | ⟨c, s'⟩
          · rw [hescape] at hread
            cases hread
          · rw [hescape] at hread
            exact ih (h.escape hescape) hread
        · rw [if_neg hback] at hread
          by_cases hcontrol : b < 0x20
          · rw [if_pos hcontrol] at hread
            cases hread
          · rw [if_neg hcontrol] at hread
            cases hnext : Text.Utf8.next? (b :: s) with
            | none =>
              rw [hnext] at hread
              exact absurd hread (stringLoop_broken _ _ _ _ _)
            | some p =>
              -- The first octet of the character is none that means anything, and its other
              -- octets are outside ASCII.
              obtain ⟨c, s'⟩ := p
              rw [hnext] at hread
              obtain ⟨tails, rfl, htails⟩ := Text.Utf8.next?_tails hnext
              exact ih ((h.plain hquote hback).tails htails) hread

/-- **A string** ends where it ends, whether it is read or passed over. -/
theorem sameEnd_string (fuel : Nat) (s : Octets) :
    SameEnd (readString fuel s) (skipString fuel s) := by
  intro t rest u rest' hread hskip
  unfold readString readChars at hread
  rcases hchars : stringLoop fuel [] none s with f | ⟨cs, r⟩
  · rw [hchars] at hread
    exact nomatch hread
  · rw [hchars] at hread
    cases hread
    have hskips : Skips s rest' := ⟨fuel, hskip⟩
    exact ⟨hskips.rest_of_stringLoop hchars, trivial⟩

end VideoProbe.Json
