import VideoProbe.Proofs.PercentCodes

/-!
# Marks in octets and in characters

A text is cut at marks, and what was put together is found again if no mark stands in its parts
(`cut_append`).

A grammar that is read octet by octet and one that is read character by character can be compared,
because what they look for are marks of ASCII, and an octet of ASCII is nothing but the character of
its number (`high_of_mem_encodeChar`).  So two conditions that agree on ASCII and go on over
everything else (`SameMarks`) stop at the same place of a text (`takeWhile_encode`,
`dropWhile_encode`).
-/

namespace VideoProbe.Text

/-! ## Where a text is cut -/

/-- **What was put together is cut where it was put together**: its first part goes on throughout,
and what follows, if anything does, does not go on. -/
theorem cut_append {p : α → Bool} {cs tail : List α} (hall : ∀ c ∈ cs, p c = true)
    (hstops : ∀ c r, tail = c :: r → p c = false) :
    (cs ++ tail).takeWhile p = cs ∧ (cs ++ tail).dropWhile p = tail := by
  rw [List.takeWhile_append_of_pos hall, List.dropWhile_append_of_pos hall]
  cases tail with
  | nil => simp
  | cons c r => simp [hstops c r rfl]

/-- A text is cut at the first place where a mark stands. -/
theorem cut_at_mark {m : Char} {cs : List Char} (h : m ∉ cs) (rest : List Char) :
    (cs ++ m :: rest).takeWhile (· != m) = cs ∧
      (cs ++ m :: rest).dropWhile (· != m) = m :: rest := by
  refine cut_append (fun c hc => bne_iff_ne.2 fun heq => h (heq ▸ hc)) fun c r heq => ?_
  rw [← (List.cons.inj heq).1]
  exact bne_self_eq_false m

/-- What is left where a text is cut does not go on. -/
theorem head_of_dropWhile {p : α → Bool} {l r : List α} {a : α} (h : l.dropWhile p = a :: r) :
    p a = false := by
  have hne : l.dropWhile p ≠ [] := h ▸ List.cons_ne_nil a r
  have hhead := List.head_dropWhile_not p hne
  simpa only [h, List.head_cons] using hhead

namespace Utf8

/-! ## Octets that are characters -/

/-- The octet of a character of ASCII. -/
def octet (c : Char) : UInt8 :=
  UInt8.ofNat c.toNat

/-- Every further octet of a character is beyond ASCII. -/
theorem high_tailOctet (n : Nat) : 0x80 ≤ (tailOctet n).toNat := by
  rw [toNat_tailOctet]
  omega

/-- So is the first one, if there are further ones. -/
theorem high_leadOctet {mark n : Nat} (hmark : 0x80 ≤ mark) (hlt : mark + n < 256) :
    0x80 ≤ (leadOctet mark n).toNat := by
  rw [toNat_leadOctet hlt]
  omega

/-- A character outside of ASCII has no octet of ASCII. -/
theorem high_of_mem_encodeChar {c : Char} (hc : 0x80 ≤ c.toNat) {b : UInt8}
    (h : b ∈ encodeChar c) : 0x80 ≤ b.toNat := by
  have hvalid := toNat_cases c
  unfold encodeChar at h
  dsimp only at h
  rw [if_neg (Nat.not_lt.2 hc)] at h
  -- The first octet says how many there are, and the others are alike.
  have hmem : ∀ {b' : UInt8} {bs : List UInt8}, 0x80 ≤ b'.toNat → (∀ x ∈ bs, 0x80 ≤ x.toNat) →
      b ∈ b' :: bs → 0x80 ≤ b.toNat := by
    intro b' bs hlead htails hb
    rcases List.mem_cons.1 hb with rfl | hb
    · exact hlead
    · exact htails b hb
  split at h
  · refine hmem (high_leadOctet (by omega) (by omega)) ?_ h
    simp [high_tailOctet]
  · split at h
    · refine hmem (high_leadOctet (by omega) (by omega)) ?_ h
      simp [high_tailOctet]
    · refine hmem (high_leadOctet (by omega) (by omega)) ?_ h
      simp [high_tailOctet]

theorem encode_ne_nil {cs : List Char} (h : cs ≠ []) : encode cs ≠ [] := by
  obtain ⟨c, r, rfl⟩ := List.exists_cons_of_ne_nil h
  rw [encode_cons]
  exact List.append_ne_nil_of_left_ne_nil (encodeChar_ne_nil c) _

/-- A character with a first octet of ASCII is one of ASCII. -/
theorem lt_of_encodeChar {c : Char} {b : UInt8} {bs : List UInt8} (h : encodeChar c = b :: bs)
    (hb : b.toNat < 0x80) : c.toNat < 0x80 :=
  Nat.lt_of_not_le fun hle =>
    absurd (high_of_mem_encodeChar hle (h ▸ List.mem_cons_self)) (Nat.not_le.2 hb)

/-- A condition on octets and one on characters: the same on ASCII, and both met by everything
else. -/
structure SameMarks (p : UInt8 → Bool) (q : Char → Bool) : Prop where
  ascii : ∀ c, c.toNat < 0x80 → q c = p (octet c)
  octets : ∀ b, 0x80 ≤ b.toNat → p b = true
  chars : ∀ c, 0x80 ≤ c.toNat → q c = true

section SameMarks

variable {p : UInt8 → Bool} {q : Char → Bool}

/-- One character. -/
theorem SameMarks.all_encodeChar (h : SameMarks p q) (c : Char) : (encodeChar c).all p = q c := by
  by_cases hc : c.toNat < 0x80
  · rw [encodeChar_ascii hc, h.ascii c hc, List.all_cons, List.all_nil, Bool.and_true]
    rfl
  · rw [h.chars c (Nat.not_lt.1 hc), List.all_eq_true]
    exact fun b hb => h.octets b (high_of_mem_encodeChar (Nat.not_lt.1 hc) hb)

/-- What holds of all characters holds of all octets. -/
theorem SameMarks.all_encode (h : SameMarks p q) (cs : List Char) :
    (encode cs).all p = cs.all q := by
  induction cs with
  | nil => rfl
  | cons c cs ih => rw [encode_cons, List.all_append, h.all_encodeChar, ih, List.all_cons]

/-- A character that does not meet the condition is one octet that does not. -/
theorem SameMarks.encodeChar_of_false (h : SameMarks p q) {c : Char} (hc : q c = false) :
    encodeChar c = [octet c] ∧ p (octet c) = false := by
  have hascii : c.toNat < 0x80 :=
    Nat.lt_of_not_le fun hle => Bool.false_ne_true (hc.symm.trans (h.chars c hle))
  exact ⟨encodeChar_ascii hascii, (h.ascii c hascii).symm.trans hc⟩

/-- **Both stop at the same place.** -/
theorem SameMarks.takeWhile_encode (h : SameMarks p q) (cs : List Char) :
    (encode cs).takeWhile p = encode (cs.takeWhile q) := by
  induction cs with
  | nil => rfl
  | cons c cs ih =>
    cases hc : q c with
    | true =>
      have hall := List.all_eq_true.1 ((h.all_encodeChar c).trans hc)
      rw [encode_cons, List.takeWhile_append_of_pos hall, ih, List.takeWhile_cons, hc, if_pos rfl,
        encode_cons]
    | false =>
      obtain ⟨hoctet, hstop⟩ := h.encodeChar_of_false hc
      rw [encode_cons, hoctet, List.singleton_append, List.takeWhile_cons, hstop,
        if_neg Bool.false_ne_true, List.takeWhile_cons, hc, if_neg Bool.false_ne_true]
      rfl

/-- And what is left is the same. -/
theorem SameMarks.dropWhile_encode (h : SameMarks p q) (cs : List Char) :
    (encode cs).dropWhile p = encode (cs.dropWhile q) := by
  induction cs with
  | nil => rfl
  | cons c cs ih =>
    cases hc : q c with
    | true =>
      have hall := List.all_eq_true.1 ((h.all_encodeChar c).trans hc)
      rw [encode_cons, List.dropWhile_append_of_pos hall, ih, List.dropWhile_cons, hc, if_pos rfl]
    | false =>
      obtain ⟨hoctet, hstop⟩ := h.encodeChar_of_false hc
      rw [encode_cons, hoctet, List.singleton_append, List.dropWhile_cons, hstop,
        if_neg Bool.false_ne_true, List.dropWhile_cons, hc, if_neg Bool.false_ne_true, encode_cons,
        hoctet, List.singleton_append]

end SameMarks

/-- As long as the octets are ASCII, they are characters one by one. -/
theorem encode_take_ascii {cs : List Char} {n : Nat} (hlen : n ≤ (encode cs).length)
    (h : ∀ b ∈ (encode cs).take n, b.toNat < 0x80) :
    (encode cs).take n = (cs.take n).map octet ∧ (encode cs).drop n = encode (cs.drop n) ∧
      ∀ c ∈ cs.take n, c.toNat < 0x80 := by
  induction n generalizing cs with
  | zero => exact ⟨rfl, rfl, by simp⟩
  | succ n ih =>
    cases cs with
    | nil => exact absurd hlen (by simp [encode])
    | cons c cs =>
      rw [encode_cons] at hlen h ⊢
      -- The first octet of a character tells whether it is one of ASCII.
      have hc : c.toNat < 0x80 := by
        cases hoctets : encodeChar c with
        | nil => exact absurd hoctets (encodeChar_ne_nil c)
        | cons b bs =>
          refine lt_of_encodeChar hoctets (h b ?_)
          rw [hoctets, List.cons_append, List.take_succ_cons]
          exact List.mem_cons_self
      rw [encodeChar_ascii hc, List.singleton_append] at hlen h ⊢
      rw [List.length_cons] at hlen
      rw [List.take_succ_cons] at h
      obtain ⟨htake, hdrop, hascii⟩ := ih (Nat.le_of_succ_le_succ hlen)
        fun b hb => h b (List.mem_cons_of_mem _ hb)
      rw [List.take_succ_cons, List.drop_succ_cons, List.take_succ_cons, List.drop_succ_cons, htake]
      exact ⟨rfl, hdrop, List.forall_mem_cons.2 ⟨hc, hascii⟩⟩

/-- Where all octets are ASCII, so are all characters. -/
theorem ascii_of_encode {cs : List Char} (h : ∀ b ∈ encode cs, b.toNat < 0x80) :
    ∀ c ∈ cs, c.toNat < 0x80 := by
  intro c hc
  cases hoctets : encodeChar c with
  | nil => exact absurd hoctets (encodeChar_ne_nil c)
  | cons b bs =>
    exact lt_of_encodeChar hoctets (h b (List.mem_flatMap.2 ⟨c, hc, hoctets ▸ List.mem_cons_self⟩))

end Utf8

end VideoProbe.Text
