import VideoProbe.Proofs.Spelling
import VideoProbe.Text.Percent
import VideoProbe.Text.Utf8

/-!
# Percent-encoded parts

What can be said of percent-encoding whatever the part of the URL is.  Which octets stand for
themselves is a parameter, and it has to meet one condition (`Sparing`): they are characters of
ASCII, and the percent sign is none of them.  Then the octets are read back (`decode_encode`), and
no character shows up in the encoded text but those that stand for themselves, the percent sign and
digits (`mem_encode`).
-/

namespace VideoProbe.Text

/-! ## Characters of ASCII -/

namespace Utf8

/-- What holds of each number below 128 holds of the characters of ASCII. -/
theorem ascii_forall {P : Char → Prop} (h : ∀ n, n < 0x80 → P (Char.ofNat n)) {c : Char}
    (hc : c.toNat < 0x80) : P c := by
  have hp := h c.toNat hc
  rwa [Char.ofNat_toNat] at hp

/-- What holds of each number below 256 holds of the octets. -/
theorem octet_forall {P : UInt8 → Prop} (h : ∀ n, n < 0x100 → P (UInt8.ofNat n)) (b : UInt8) :
    P b := by
  have hp := h b.toNat b.toNat_lt
  rwa [UInt8.ofNat_toNat] at hp

/-- What holds of each character of a text is found out by looking at them all. -/
theorem forall_mem_of_all {P : Char → Prop} [DecidablePred P] {cs : List Char}
    (h : (cs.all fun c => decide (P c)) = true) : ∀ c ∈ cs, P c := fun c hc =>
  of_decide_eq_true (List.all_eq_true.1 h c hc)

/-- What is no character of ASCII has no lower case. -/
theorem toLower_of_le {c : Char} (h : 0x80 ≤ c.toNat) : c.toLower = c := by
  unfold Char.toLower
  rw [dif_neg]
  rintro ⟨-, hle⟩
  have hz : c.toNat ≤ 0x5A := hle
  omega

/-- The lower case of a character of ASCII is one as well. -/
theorem toLower_lt {c : Char} (hc : c.toNat < 0x80) : c.toLower.toNat < 0x80 :=
  ascii_forall (P := fun c => c.toLower.toNat < 0x80) (by decide +kernel) hc

/-- A character of ASCII is one octet, which has its number. -/
theorem encodeChar_ascii {c : Char} (h : c.toNat < 0x80) :
    encodeChar c = [UInt8.ofNat c.toNat] := by
  unfold encodeChar leadOctet
  dsimp only
  rw [if_pos h, Nat.zero_add]

theorem toNat_octet {c : Char} (h : c.toNat < 0x80) : (UInt8.ofNat c.toNat).toNat = c.toNat :=
  UInt8.toNat_ofNat_of_lt' (Nat.lt_trans h (by decide))

/-- Text of ASCII is written octet by octet. -/
theorem encode_ascii {cs : List Char} (h : ∀ c ∈ cs, c.toNat < 0x80) :
    encode cs = cs.map fun c => UInt8.ofNat c.toNat := by
  induction cs with
  | nil => rfl
  | cons c cs ih =>
    rw [encode_cons, encodeChar_ascii (h c List.mem_cons_self),
      ih fun x hx => h x (List.mem_cons_of_mem c hx)]
    rfl

end Utf8

namespace Percent

/-- The octets that stand for themselves are characters of ASCII, and not the percent sign. -/
def Sparing (keep : UInt8 → Bool) : Prop :=
  ∀ b, keep b = true → b.toNat < 0x80 ∧ b ≠ 0x25

/-- A digit of an escaped octet. -/
def IsUpperHex (c : Char) : Prop :=
  ∃ n, n < 16 ∧ c = upperHexDigit n

theorem upperHexDigit_lt : ∀ n, n < 16 → (upperHexDigit n).toNat < 0x80 := by
  decide

/-- A digit is read back from what it was written as. -/
theorem hexValue?_upperHexDigit : ∀ n, n < 16 →
    hexValue? (UInt8.ofNat (upperHexDigit n).toNat) = some n := by
  decide

/-- An octet that is no percent sign is read as it is. -/
theorem decode_cons_of_ne {a : UInt8} (h : a ≠ 0x25) (rest : List UInt8) :
    decode (a :: rest) = a :: decode rest := by
  match rest with
  | [] => rfl
  | [_] => rfl
  | b :: c :: rest =>
    rw [decode]
    split
    · exact if_neg h
    · rfl

/-- A percent sign with two digits is read as the octet that they spell. -/
theorem decode_triple {b c : UInt8} {x y : Nat} (hb : hexValue? b = some x)
    (hc : hexValue? c = some y) (rest : List UInt8) :
    decode (0x25 :: b :: c :: rest) = UInt8.ofNat (x * 16 + y) :: decode rest := by
  rw [decode, hb, hc]
  exact if_pos rfl

/-- What an octet is written as: itself, or a percent sign and its two digits. -/
theorem mem_encodeOctet {keep : UInt8 → Bool} {b : UInt8} {c : Char}
    (h : c ∈ encodeOctet keep b) :
    (keep b = true ∧ c = Char.ofNat b.toNat) ∨ c = '%' ∨ IsUpperHex c := by
  have hb := b.toNat_lt
  unfold encodeOctet at h
  split at h
  · rename_i hkeep
    exact Or.inl ⟨hkeep, List.mem_singleton.1 h⟩
  · simp only [List.mem_cons, List.not_mem_nil, or_false] at h
    rcases h with rfl | rfl | rfl
    · exact Or.inr (Or.inl rfl)
    · exact Or.inr (Or.inr ⟨_, by omega, rfl⟩)
    · exact Or.inr (Or.inr ⟨_, by omega, rfl⟩)

/-- **What shows up in an encoded text.** -/
theorem mem_encode {keep : UInt8 → Bool} {bs : List UInt8} {c : Char} (h : c ∈ encode keep bs) :
    (∃ b, keep b = true ∧ c = Char.ofNat b.toNat) ∨ c = '%' ∨ IsUpperHex c := by
  obtain ⟨b, -, hc⟩ := List.mem_flatMap.1 h
  rcases mem_encodeOctet hc with ⟨hkeep, hc⟩ | hc
  · exact Or.inl ⟨b, hkeep, hc⟩
  · exact Or.inr hc

section

variable {keep : UInt8 → Bool}

/-- An octet is read back from what it was written as. -/
theorem decode_encodeOctet (hkeep : Sparing keep) (b : UInt8) (rest : List UInt8) :
    decode (Utf8.encode (encodeOctet keep b) ++ rest) = b :: decode rest := by
  have hlt := b.toNat_lt
  unfold encodeOctet
  split
  · rename_i hb
    obtain ⟨hascii, hne⟩ := hkeep b hb
    have hone : Utf8.encode [Char.ofNat b.toNat] = [b] := by
      rw [Utf8.encode_ascii (by simpa [Token.toNat_ofNat _ hascii] using hascii)]
      simp [Token.toNat_ofNat _ hascii]
    rw [hone]
    exact decode_cons_of_ne hne rest
  · -- It was escaped: the two digits are put together again.
    have hhigh : b.toNat / 16 < 16 := by omega
    have hlow : b.toNat % 16 < 16 := Nat.mod_lt _ (by decide)
    have hthree : Utf8.encode ['%', upperHexDigit (b.toNat / 16), upperHexDigit (b.toNat % 16)] =
        [0x25, UInt8.ofNat (upperHexDigit (b.toNat / 16)).toNat,
          UInt8.ofNat (upperHexDigit (b.toNat % 16)).toNat] := by
      rw [Utf8.encode_ascii]
      · rfl
      · simp only [List.forall_mem_cons, List.not_mem_nil, false_imp_iff, implies_true, and_true]
        exact ⟨by decide, upperHexDigit_lt _ hhigh, upperHexDigit_lt _ hlow⟩
    rw [hthree]
    refine (decode_triple (hexValue?_upperHexDigit _ hhigh) (hexValue?_upperHexDigit _ hlow)
      rest).trans ?_
    rw [show b.toNat / 16 * 16 + b.toNat % 16 = b.toNat by omega, UInt8.ofNat_toNat]

/-- **Octets are read back** from the text that they are written as. -/
theorem decode_encode (hkeep : Sparing keep) (bs : List UInt8) :
    decode (Utf8.encode (encode keep bs)) = bs := by
  induction bs with
  | nil => rfl
  | cons b bs ih =>
    have hcons : encode keep (b :: bs) = encodeOctet keep b ++ encode keep bs := rfl
    rw [hcons, Utf8.encode_append, decode_encodeOctet hkeep, ih]

end

end Percent

end VideoProbe.Text
