import Mathlib.Data.List.TakeDrop
import VideoProbe.Proofs.Written

/-!
# Numbers inside a text

Whether a number survives being written and read is a question about its own text.  What makes the
answer hold inside a longer text is that a number is read the same way wherever it stands: a reader
that takes a text to its end also takes it where the text goes on with something that ends a value
(`Extends`, `extends_readNumeral`).

The lemmas follow the readers, and each has two cases.  Where the reader still has octets of its
own, it looks at the same ones as before and goes on with the next reader.  Where it has none left,
it used to see the end of the text and now sees an octet that ends a value; there the crux is that
such an octet is no digit, no point and no letter of an exponent (`Ends.head`), so it makes no
difference.
-/

namespace VideoProbe.Json

/-- What is read to the end of a text is read in the same way where something follows that ends a
value. -/
def Extends (read : Octets → Reading α) : Prop :=
  ∀ s a rest, read s = .ok (a, []) → Ends rest → read (s ++ rest) = .ok (a, rest)

/-- What ends a value is no part of a number. -/
theorem Ends.head {b : UInt8} {r : Octets} (h : Ends (b :: r)) :
    isDigitOctet b = false ∧ b ≠ 0x2E ∧ b ≠ 0x65 ∧ b ≠ 0x45 := by
  rcases h b r rfl with rfl | rfl | rfl <;> decide

/-! ## One reader after the other

A number is a sign, digits, and perhaps decimals and an exponent.  Each of its readers takes its
part and calls the next one for the rest, so the lemmas go backwards: after the digits, which occur
in all parts, comes what settles the value in the end, then the exponent, the decimals, and what may
follow the digits of a whole number. -/

/-- Digits go on as long as there are any. -/
theorem spanDigits_append {rest : Octets} (hends : Ends rest) (s : Octets) :
    spanDigits (s ++ rest) = ((spanDigits s).1, (spanDigits s).2 ++ rest) := by
  unfold spanDigits
  simp only [List.span_eq_takeWhile_dropWhile]
  induction s with
  | nil =>
    -- The digits are over, and what follows is none.
    cases rest with
    | nil => rfl
    | cons b r => simp [hends.head.1]
  | cons b s ih =>
    rw [Prod.mk.injEq] at ih
    cases hb : isDigitOctet b with
    | false => simp [hb]
    | true => simp [hb, ih.1, ih.2]

/-- What a number is, and whether it is in range, is settled by its parts.  Of the text only what is
left goes into it. -/
theorem extends_finishReal (negative : Bool) (n : Nat) (e : Int) :
    Extends (finishReal negative n e) := by
  intro s a rest h _
  unfold finishReal at h ⊢
  cases hx : realOfParts? negative n e with
  | none => simp [hx, faultAt] at h
  | some x =>
    simp only [hx, Except.ok.injEq, Prod.mk.injEq] at h ⊢
    obtain ⟨rfl, rfl⟩ := h
    simp

/-- The digits of an exponent: as many as there are, and however many of them count. -/
theorem extends_readExponentDigits (negative : Bool) (n : Nat) (scale : Int) (up : Bool) :
    Extends (readExponentDigits negative n scale up) := by
  intro s a rest h hends
  cases s with
  | nil => exact nomatch h
  | cons b r =>
    -- All digits are taken at once, so there is no induction here.
    have hspan := spanDigits_append hends (b :: r)
    unfold readExponentDigits at h ⊢
    dsimp only [List.cons_append] at h hspan ⊢
    split at h
    · rename_i hb
      rw [if_pos hb, hspan]
      dsimp only
      cases hexcess : (takeDigits 2147483648 0 (spanDigits (b :: r)).1).2 with
      | nil =>
        rw [hexcess] at h
        exact extends_finishReal negative n _ _ a rest h hends
      | cons d more =>
        -- The exponent is out of reach, so the number is zero or the reading fails.
        rw [hexcess] at h
        dsimp only at h ⊢
        split at h
        · exact nomatch h
        · rename_i hsmall
          rw [if_neg hsmall]
          simp only [Except.ok.injEq, Prod.mk.injEq] at h ⊢
          exact ⟨h.1, by rw [h.2, List.nil_append]⟩
    · exact nomatch h

/-- The sign of an exponent is its first octet. -/
theorem exponentSign_append {s : Octets} (hs : s ≠ []) (rest : Octets) :
    exponentSign (s ++ rest) = ((exponentSign s).1, (exponentSign s).2 ++ rest) := by
  cases s with
  | nil => exact absurd rfl hs
  | cons b r =>
    unfold exponentSign
    dsimp only [List.cons_append]
    split
    · rfl
    · split <;> rfl

/-- An exponent, behind its letter. -/
theorem extends_readExponent (negative : Bool) (n : Nat) (scale : Int) :
    Extends (readExponent negative n scale) := by
  intro s a rest h hends
  cases s with
  | nil => exact nomatch h
  | cons b r =>
    have hsign := exponentSign_append (List.cons_ne_nil b r) rest
    unfold readExponent at h ⊢
    rw [hsign]
    exact extends_readExponentDigits negative n scale _ _ a rest h hends

/-- Behind the decimals there is an exponent, or the number is over. -/
theorem extends_realTail (negative : Bool) (n : Nat) (scale : Int) :
    Extends (realTail negative n scale) := by
  intro s a rest h hends
  cases s with
  | nil =>
    have hfinish := extends_finishReal negative n scale [] a rest h hends
    cases rest with
    | nil => exact h
    | cons b r =>
      -- Nothing followed the decimals, and what follows them now is no letter of an exponent.
      obtain ⟨-, -, he, hE⟩ := hends.head
      unfold realTail
      dsimp only [List.nil_append]
      rw [if_neg (not_or.2 ⟨he, hE⟩)]
      exact hfinish
  | cons b r =>
    unfold realTail at h ⊢
    dsimp only [List.cons_append] at h ⊢
    split at h
    · rename_i he
      rw [if_pos he]
      exact extends_readExponent negative n scale r a rest h hends
    · rename_i he
      rw [if_neg he]
      exact extends_finishReal negative n scale (b :: r) a rest h hends

/-- Decimals, behind their point; there has to be one at least. -/
theorem extends_readDecimals (negative : Bool) (n : Nat) (scale : Int) :
    Extends (readDecimals negative n scale) := by
  intro s a rest h hends
  have hspan := spanDigits_append hends s
  unfold readDecimals at h ⊢
  rw [hspan]
  dsimp only at h ⊢
  cases hds : (spanDigits s).1 with
  | nil =>
    rw [hds] at h
    dsimp only at h
    split at h <;> exact nomatch h
  | cons d ds =>
    rw [hds] at h
    exact extends_realTail negative _ _ _ a rest h hends

/-- Behind the digits of a whole number there is a point, an exponent, or the number is over.
Digits that are too many for a whole number are in `excess`, and count for the size of a real one.
-/
theorem extends_numberTail (negative : Bool) (n : Nat) (excess : Octets) :
    Extends (numberTail negative n excess) := by
  intro s a rest h hends
  cases s with
  | nil =>
    -- Nothing followed the digits, and what follows them now is no part of the number.
    cases rest with
    | nil => exact h
    | cons b r =>
      obtain ⟨-, hpoint, he, hE⟩ := hends.head
      unfold numberTail at h ⊢
      dsimp only [List.nil_append] at h ⊢
      rw [if_neg hpoint, if_neg (not_or.2 ⟨he, hE⟩)]
      cases hexcess : excess.isEmpty with
      | false =>
        rw [hexcess] at h
        exact extends_finishReal negative n excess.length [] a (b :: r) h hends
      | true =>
        rw [hexcess] at h
        simp only [if_true, Except.ok.injEq, Prod.mk.injEq, and_true] at h ⊢
        exact h
  | cons b r =>
    unfold numberTail at h ⊢
    dsimp only [List.cons_append] at h ⊢
    split at h
    · rename_i hpoint
      rw [if_pos hpoint]
      exact extends_readDecimals negative n _ r a rest h hends
    · rename_i hpoint
      rw [if_neg hpoint]
      split at h
      · rename_i he
        rw [if_pos he]
        exact extends_readExponent negative n _ r a rest h hends
      · rename_i he
        rw [if_neg he]
        split at h
        · exact nomatch h
        · rename_i hexcess
          rw [if_neg hexcess]
          exact extends_finishReal negative n _ (b :: r) a rest h hends

/-- A number without its sign. -/
theorem extends_readUnsigned (negative : Bool) : Extends (readUnsigned negative) := by
  intro s a rest h hends
  cases s with
  | nil => exact nomatch h
  | cons b r =>
    have hspan := spanDigits_append hends (b :: r)
    unfold readUnsigned at h ⊢
    dsimp only [List.cons_append] at h hspan ⊢
    split at h
    · -- After a zero there must be no digit, and what ends a value is none.
      rename_i hzero
      rw [if_pos hzero]
      cases r with
      | nil =>
        have htail := extends_numberTail negative 0 [] [] a rest h hends
        cases rest with
        | nil => exact h
        | cons c r =>
          dsimp only [List.nil_append]
          rw [if_neg (by rw [hends.head.1]; decide)]
          exact htail
      | cons c r =>
        dsimp only [List.cons_append] at h ⊢
        split at h
        · exact nomatch h
        · rename_i hc
          rw [if_neg hc]
          exact extends_numberTail negative 0 [] (c :: r) a rest h hends
    · rename_i hzero
      rw [if_neg hzero]
      split at h
      · rename_i hb
        rw [if_pos hb, hspan]
        exact extends_numberTail negative _ _ _ a rest h hends
      · exact nomatch h

/-- **A number is read in the same way wherever it stands.** -/
theorem extends_readNumeral : Extends readNumeral := by
  intro s a rest h hends
  cases s with
  | nil => exact nomatch h
  | cons b r =>
    unfold readNumeral at h ⊢
    dsimp only [List.cons_append] at h ⊢
    split at h
    · rename_i hb
      rw [if_pos hb]
      exact extends_readUnsigned true r a rest h hends
    · rename_i hb
      rw [if_neg hb]
      exact extends_readUnsigned false (b :: r) a rest h hends

/-- A number begins with a digit or a minus sign. -/
theorem startsNumber_of_readNumeral {b : UInt8} {r : Octets} {n : Numeral × Octets}
    (h : readNumeral (b :: r) = .ok n) : startsNumber b = true := by
  unfold readNumeral readUnsigned at h
  dsimp only at h
  split at h
  · rename_i hb
    simp [startsNumber, hb]
  · split at h
    · rename_i hb
      rw [hb]
      rfl
    · split at h
      · rename_i hb
        simp [startsNumber, hb]
      · exact nomatch h

end VideoProbe.Json
