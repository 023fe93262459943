import Mathlib.Data.UInt
import VideoProbe.Queue

/-!
# How long a failed attempt waits

The delay after an attempt is worked out in machine words, where a signed number may be taken for an
unsigned one and a power may be too great to be a word.  Neither can be seen in the delay.  The crux
is `checkedPow_eq_some_iff`: a word is the checked power of another one if and only if it is the
power as a number.  So there is no checked power exactly if the power is at least `2^64`, and then
it is above the longest delay, as is the greatest word that stands for it (`retryDelay_eq`).

A delay is at most an hour whatever the number of the attempt is, and that is why the time of the
next attempt can always be worked out (`retryTime_of_shown`).
-/

namespace VideoProbe

/-! ## Words -/

namespace Word

/-- The checked product of two words is the exact one. -/
theorem checkedMul_eq_some_iff {a b w : UInt64} :
    checkedMul a b = some w ↔ w.toNat = a.toNat * b.toNat := by
  unfold checkedMul
  by_cases hfits : a.toNat * b.toNat < UInt64.size
  · rw [if_pos hfits, Option.some.injEq, ← UInt64.toNat_inj, UInt64.toNat_mul,
      Nat.mod_eq_of_lt hfits]
    exact eq_comm
  · rw [if_neg hfits]
    have hw : w.toNat < UInt64.size := w.toNat_lt
    constructor
    · intro h
      cases h
    · intro h
      exact absurd (h ▸ hw) hfits

/-- What is before the last factor of a word is a word as well, unless the factor is zero; and a
power of zero is at most one. -/
theorem pow_lt_of_succ {a w : UInt64} {n : Nat} (h : w.toNat = Nat.pow a.toNat (n + 1)) :
    Nat.pow a.toNat n < UInt64.size := by
  have hw : w.toNat < UInt64.size := w.toNat_lt
  rw [h] at hw
  rcases Nat.eq_zero_or_pos a.toNat with hzero | hpos
  · rw [hzero]
    have hone : Nat.pow 0 n ≤ Nat.pow 1 n := Nat.pow_le_pow_left (Nat.zero_le 1) n
    have hsame : Nat.pow 1 n = 1 := Nat.one_pow n
    exact Nat.lt_of_le_of_lt (hsame ▸ hone) (by decide)
  · exact Nat.lt_of_le_of_lt (Nat.le_mul_of_pos_right _ hpos) hw

/-- **The checked power is the power**, where that is a word. -/
theorem checkedPow_eq_some_iff {a w : UInt64} {n : Nat} :
    checkedPow a n = some w ↔ w.toNat = Nat.pow a.toNat n := by
  induction n generalizing w with
  | zero =>
    rw [checkedPow, Option.some.injEq, ← UInt64.toNat_inj]
    exact eq_comm
  | succ n ih =>
    rw [checkedPow, Option.bind_eq_some_iff]
    constructor
    · rintro ⟨v, hv, hw⟩
      rw [checkedMul_eq_some_iff.1 hw, ih.1 hv]
      exact Nat.mul_comm _ _
    · intro hw
      have hv : (UInt64.ofNat (Nat.pow a.toNat n)).toNat = Nat.pow a.toNat n :=
        UInt64.toNat_ofNat_of_lt' (pow_lt_of_succ hw)
      refine ⟨_, ih.2 hv, checkedMul_eq_some_iff.2 ?_⟩
      rw [hv, hw]
      exact Nat.mul_comm _ _

theorem size_le_of_checkedPow_eq_none {a : UInt64} {n : Nat} (h : checkedPow a n = none) :
    UInt64.size ≤ Nat.pow a.toNat n := by
  refine Nat.le_of_not_lt fun hfits => ?_
  have hsome := checkedPow_eq_some_iff.2 (UInt64.toNat_ofNat_of_lt' hfits)
  rw [h] at hsome
  cases hsome

/-- A number that is not negative and below `2^64` is the same as a word. -/
theorem toNat_ofInt {n : Int} (hlow : 0 ≤ n) (hhigh : n < UInt64.size) :
    (UInt64.ofInt n).toNat = n.toNat := by
  have hsame : UInt64.ofInt n = UInt64.ofNat n.toNat :=
    congrArg (fun k : Int => UInt64.ofNat k.toNat) (Int.emod_eq_of_lt hlow hhigh)
  rw [hsame]
  exact UInt64.toNat_ofNat_of_lt' (by omega)

end Word

/-! ## The delay -/

namespace Job

/-- **The delay over whole numbers**: the fourth power of the number of the attempt, at most an
hour. -/
theorem retryDelay_eq {attempt : Int} (h : attempt < UInt64.size) :
    retryDelay attempt = min (Nat.pow (max attempt 1).toNat 4) 3600 := by
  have hword : (UInt64.ofInt (max attempt 1)).toNat = (max attempt 1).toNat :=
    Word.toNat_ofInt (by omega) (by unfold UInt64.size at *; omega)
  unfold retryDelay
  dsimp only
  rw [UInt64.toNat_min, show longestDelay.toNat = 3600 from rfl, ← hword]
  cases hpow : Word.checkedPow (UInt64.ofInt (max attempt 1)) 4 with
  | some w => rw [Option.getD_some, Word.checkedPow_eq_some_iff.1 hpow]
  | none =>
    -- Both the power and the greatest word are above the longest delay.
    have hbig := Word.size_le_of_checkedPow_eq_none hpow
    unfold UInt64.size at hbig
    rw [Option.getD_none, show Word.greatest.toNat = 18446744073709551615 from rfl]
    omega

-- The fourth power of `2^16` is the first that is no word.
example : retryDelay 65536 = 3600 ∧ retryDelay (-2147483648) = 1 := by decide

/-- No delay is longer than an hour. -/
theorem retryDelay_le (attempt : Int) : retryDelay attempt ≤ 3600 := by
  unfold retryDelay
  dsimp only
  rw [UInt64.toNat_min]
  exact Nat.min_le_right _ _

/-- And none is shorter than a second. -/
theorem retryDelay_pos {attempt : Int} (h : attempt < UInt64.size) :
    1 ≤ retryDelay attempt := by
  rw [retryDelay_eq h]
  have hpow : 0 < Nat.pow (max attempt 1).toNat 4 := Nat.pow_pos (by omega)
  omega

/-- A later attempt does not wait for a shorter time. -/
theorem retryDelay_mono {a b : Int} (hab : a ≤ b) (h : b < UInt64.size) :
    retryDelay a ≤ retryDelay b := by
  rw [retryDelay_eq h, retryDelay_eq (by omega)]
  have hpow : Nat.pow (max a 1).toNat 4 ≤ Nat.pow (max b 1).toNat 4 :=
    Nat.pow_le_pow_left (by omega) 4
  omega

end Job

/-! ## The time of the next attempt -/

namespace Instant

/-- An hour that the calendar has from a point in time on is there second by second. -/
theorem isCovered_within_hour {t : Instant} (h : t.isCovered = true)
    (hour : (t.addSeconds 3600).isCovered = true) {n : Nat} (hn : n ≤ 3600) :
    (t.addSeconds n).isCovered = true := by
  unfold isCovered addSeconds at *
  rw [Bool.and_eq_true, decide_eq_true_eq, decide_eq_true_eq] at *
  dsimp only at *
  omega

/-- The calendar has many hours more than any clock shows. -/
theorem isCovered_of_shown {t : Instant} (h : t.isShown = true) {n : Nat} (hn : n ≤ 3600) :
    (t.addSeconds n).isCovered = true := by
  have hbits : Nat.pow 2 63 = 9223372036854775808 := rfl
  unfold isShown at h
  rw [hbits, Bool.and_eq_true, Bool.and_eq_true, decide_eq_true_eq, decide_eq_true_eq,
    decide_eq_true_eq] at h
  unfold isCovered addSeconds
  rw [firstSecond_eq, lastSecond_eq, Bool.and_eq_true, decide_eq_true_eq, decide_eq_true_eq]
  dsimp only
  omega

end Instant

namespace Queue

open Database

/-- No delay is too long to be added to a time, so only the calendar can end too early. -/
theorem retryTime_eq (t : Instant) (attempt : Int) :
    retryTime t attempt = if (t.addSeconds (Job.retryDelay attempt)).isCovered then
      .ok (t.addSeconds (Job.retryDelay attempt)) else .error .crash := by
  have hshort : ¬ longestSpan < Job.retryDelay attempt * 1000 := by
    have hle := Job.retryDelay_le attempt
    rw [show longestSpan = 9223372036854775807 from rfl]
    omega
  unfold retryTime
  dsimp only
  rw [if_neg hshort]

/-- If the calendar has the hour after a time, it has the time of the retry. -/
theorem retryTime_of_covered {t : Instant} (h : t.isCovered = true)
    (hour : (t.addSeconds 3600).isCovered = true) (attempt : Int) :
    retryTime t attempt = .ok (t.addSeconds (Job.retryDelay attempt)) := by
  rw [retryTime_eq, if_pos (Instant.isCovered_within_hour h hour (Job.retryDelay_le attempt))]

/-- **The time of the next attempt is found**, whatever the clock shows. -/
theorem retryTime_of_shown {t : Instant} (h : t.isShown = true) (attempt : Int) :
    retryTime t attempt = .ok (t.addSeconds (Job.retryDelay attempt)) := by
  rw [retryTime_eq, if_pos (Instant.isCovered_of_shown h (Job.retryDelay_le attempt))]

end Queue

end VideoProbe
