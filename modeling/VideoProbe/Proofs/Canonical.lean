import VideoProbe.Proofs.Spelling

/-!
# One spelling for each token

Whatever is accepted as base64 is what would be written for its bytes: the bits that carry no byte
are zero, and the padding is there.  So the text of a token can be thrown away and written anew
without anybody noticing, and two different accepted texts are never the same token.

A full group of symbols is the group of its three bytes (`encode_of_group`).  All the freedom that a
sloppy reader would leave is in the tail, so the tail is looked at as a whole: it is some symbols
and then some padding (`shape_of_tailLoop`), and only two, three or four symbols make bytes.
-/

namespace VideoProbe

namespace Base64

/-! ## Symbols -/

/-- An octet that has a number is the symbol of that number. -/
theorem symbol_of_value? {b : UInt8} {n : Nat} (h : value? b = some n) : n < 64 ∧ symbol n = b := by
  have hall : ∀ k, k < 256 → (value? (UInt8.ofNat k)).all
      (fun n => n < 64 ∧ symbol n = UInt8.ofNat k) = true := by
    decide +kernel
  have hb := hall b.toNat b.toNat_lt
  rw [UInt8.ofNat_toNat, h] at hb
  simpa using hb

/-- An octet with a value is the symbol of this value. -/
theorem symbol_of_valueAt {offset n : Nat} {b : UInt8} (h : valueAt offset b = .ok n) :
    n < 64 ∧ symbol n = b := by
  unfold valueAt at h
  split at h
  · rename_i m hm
    cases h
    exact symbol_of_value? hm
  · simp at h

/-! ## Numbers of symbols -/

/-- Three bytes are written with the numbers that they were made of. -/
theorem encode_of_four {a b c d : Nat} (ha : a < 64) (hb : b < 64) (hc : c < 64) (hd : d < 64)
    (more : List UInt8) :
    encode (UInt8.ofNat (a * 4 + b / 16) :: UInt8.ofNat (b % 16 * 16 + c / 4) ::
        UInt8.ofNat (c % 4 * 64 + d) :: more) =
      symbol a :: symbol b :: symbol c :: symbol d :: encode more := by
  have hx : (UInt8.ofNat (a * 4 + b / 16)).toNat = a * 4 + b / 16 :=
    UInt8.toNat_ofNat_of_lt' (show _ < 256 by omega)
  have hy : (UInt8.ofNat (b % 16 * 16 + c / 4)).toNat = b % 16 * 16 + c / 4 :=
    UInt8.toNat_ofNat_of_lt' (show _ < 256 by omega)
  have hz : (UInt8.ofNat (c % 4 * 64 + d)).toNat = c % 4 * 64 + d :=
    UInt8.toNat_ofNat_of_lt' (show _ < 256 by omega)
  have ha' : (a * 4 + b / 16) / 4 = a := by omega
  have hb' : (a * 4 + b / 16) % 4 * 16 + (b % 16 * 16 + c / 4) / 16 = b := by omega
  have hc' : (b % 16 * 16 + c / 4) % 16 * 4 + (c % 4 * 64 + d) / 64 = c := by omega
  have hd' : (c % 4 * 64 + d) % 64 = d := by omega
  rw [encode, hx, hy, hz, ha', hb', hc', hd']

/-- So are two bytes, if the bits that carry no byte are zero. -/
theorem encode_of_three {a b c : Nat} (ha : a < 64) (hb : b < 64) (hc : c < 64)
    (hbits : c % 4 = 0) :
    encode [UInt8.ofNat (a * 4 + b / 16), UInt8.ofNat (b % 16 * 16 + c / 4)] =
      [symbol a, symbol b, symbol c, pad] := by
  have hx : (UInt8.ofNat (a * 4 + b / 16)).toNat = a * 4 + b / 16 :=
    UInt8.toNat_ofNat_of_lt' (show _ < 256 by omega)
  have hy : (UInt8.ofNat (b % 16 * 16 + c / 4)).toNat = b % 16 * 16 + c / 4 :=
    UInt8.toNat_ofNat_of_lt' (show _ < 256 by omega)
  have ha' : (a * 4 + b / 16) / 4 = a := by omega
  have hb' : (a * 4 + b / 16) % 4 * 16 + (b % 16 * 16 + c / 4) / 16 = b := by omega
  have hc' : (b % 16 * 16 + c / 4) % 16 * 4 = c := by omega
  rw [encode, hx, hy, ha', hb', hc']

/-- So is one byte. -/
theorem encode_of_two {a b : Nat} (ha : a < 64) (hb : b < 64) (hbits : b % 16 = 0) :
    encode [UInt8.ofNat (a * 4 + b / 16)] = [symbol a, symbol b, pad, pad] := by
  have hx : (UInt8.ofNat (a * 4 + b / 16)).toNat = a * 4 + b / 16 :=
    UInt8.toNat_ofNat_of_lt' (show _ < 256 by omega)
  have ha' : (a * 4 + b / 16) / 4 = a := by omega
  have hb' : (a * 4 + b / 16) % 4 * 16 = b := by omega
  rw [encode, hx, ha', hb']

/-- A group that can be read is the group that is written for its three bytes. -/
theorem encode_of_group {offset : Nat} {p q r s : UInt8} {bytes : List UInt8}
    (h : group offset p q r s = .ok bytes) (more : List UInt8) :
    encode (bytes ++ more) = p :: q :: r :: s :: encode more := by
  unfold group at h
  cases hp : valueAt offset p with
  | error e => simp [hp, bind, Except.bind] at h
  | ok a =>
  cases hq : valueAt (offset + 1) q with
  | error e => simp [hp, hq, bind, Except.bind] at h
  | ok b =>
  cases hr : valueAt (offset + 2) r with
  | error e => simp [hp, hq, hr, bind, Except.bind] at h
  | ok c =>
  cases hs : valueAt (offset + 3) s with
  | error e => simp [hp, hq, hr, hs, bind, Except.bind] at h
  | ok d =>
  simp only [hp, hq, hr, hs, bind, Except.bind, pure, Except.pure, Except.ok.injEq] at h
  -- Every symbol has a value, and there is one symbol for each value, so writing gives the same
  -- four.
  obtain ⟨ha, rfl⟩ := symbol_of_valueAt hp
  obtain ⟨hb, rfl⟩ := symbol_of_valueAt hq
  obtain ⟨hc, rfl⟩ := symbol_of_valueAt hr
  obtain ⟨hd, rfl⟩ := symbol_of_valueAt hs
  rw [← h]
  exact encode_of_four ha hb hc hd more

/-! ## The tail -/

/-- What is left once padding has been seen is padding. -/
theorem padding_of_tailLoop {offset place padding firstPad count : Nat} {s : List UInt8}
    {symbols read : List (UInt8 × Nat)} (hpadding : 0 < padding)
    (h : tailLoop offset place symbols padding firstPad s = .ok (read, count)) :
    s = List.replicate s.length pad ∧ read = symbols ∧ count = padding + s.length := by
  induction s generalizing place padding firstPad with
  | nil =>
    cases h
    exact ⟨rfl, rfl, rfl⟩
  | cons b s ih =>
    rw [tailLoop] at h
    by_cases hb : b = pad
    · rw [if_pos hb] at h
      split at h
      · simp at h
      · obtain ⟨hs, hread, hcount⟩ := ih (Nat.succ_pos _) h
        refine ⟨?_, hread, by rw [hcount, List.length_cons]; omega⟩
        rw [List.length_cons, List.replicate_succ, ← hs, hb]
    · rw [if_neg hb, if_pos hpadding] at h
      simp at h

/-- The tail is some symbols, and then some padding. -/
theorem shape_of_tailLoop {offset place firstPad count : Nat} {s : List UInt8}
    {symbols read : List (UInt8 × Nat)}
    (h : tailLoop offset place symbols 0 firstPad s = .ok (read, count)) :
    ∃ taken : List (UInt8 × Nat), s = taken.map Prod.fst ++ List.replicate count pad ∧
      read = taken.reverse ++ symbols ∧ ∀ x ∈ taken, x.2 < 64 ∧ symbol x.2 = x.1 := by
  induction s generalizing place symbols with
  | nil =>
    cases h
    exact ⟨[], rfl, rfl, by simp⟩
  | cons b s ih =>
    rw [tailLoop] at h
    by_cases hb : b = pad
    · -- From the first padding on there is nothing but padding.
      rw [if_pos hb] at h
      split at h
      · simp at h
      · obtain ⟨hs, hread, hcount⟩ := padding_of_tailLoop (Nat.succ_pos _) h
        refine ⟨[], ?_, hread, by simp⟩
        have hcount' : count = s.length + 1 := by omega
        rw [hcount', List.replicate_succ, ← hs, hb]
        rfl
    · rw [if_neg hb, if_neg (Nat.lt_irrefl 0)] at h
      split at h
      · simp at h
      · rename_i n hn
        obtain ⟨taken, hs, hread, hall⟩ := ih h
        refine ⟨(b, n) :: taken, ?_, ?_, List.forall_mem_cons.2 ⟨symbol_of_valueAt hn, hall⟩⟩
        · rw [hs]
          rfl
        · rw [hread]
          simp

/-- A tail that can be read is the tail that is written for its bytes. -/
theorem encode_of_tail {offset : Nat} {s t : List UInt8} (hlen : s.length ≤ 4)
    (h : tail offset s = .ok t) : encode t = s := by
  unfold tail at h
  split at h
  · simp at h
  · rename_i read count hloop
    obtain ⟨taken, hs, hread, hall⟩ := shape_of_tailLoop hloop
    rw [List.append_nil] at hread
    have hlength : s.length = taken.length + count := by
      rw [hs, List.length_append, List.length_map, List.length_replicate]
    subst hread
    match taken with
    | [] =>
      simp only [List.reverse_nil] at h
      split at h
      · rename_i hempty
        cases h
        exact (List.isEmpty_iff.1 hempty.2).symm
      · simp at h
    | [x] => simp at h
    | [(p, a), (q, b)] =>
      -- Two symbols make one byte, and two signs of padding follow.
      obtain ⟨ha, rfl⟩ : a < 64 ∧ symbol a = p := hall (p, a) (by simp)
      obtain ⟨hb, rfl⟩ : b < 64 ∧ symbol b = q := hall (q, b) (by simp)
      simp only [List.reverse_cons, List.reverse_nil, List.nil_append, List.cons_append,
        List.length_cons, List.length_nil] at h hlength
      split at h
      · simp at h
      · rename_i hpadding
        split at h
        · simp at h
        · rename_i hbits
          cases h
          obtain rfl : count = 2 := by omega
          exact (encode_of_two ha hb (by omega)).trans hs.symm
    | [(p, a), (q, b), (r, c)] =>
      obtain ⟨ha, rfl⟩ : a < 64 ∧ symbol a = p := hall (p, a) (by simp)
      obtain ⟨hb, rfl⟩ : b < 64 ∧ symbol b = q := hall (q, b) (by simp)
      obtain ⟨hc, rfl⟩ : c < 64 ∧ symbol c = r := hall (r, c) (by simp)
      simp only [List.reverse_cons, List.reverse_nil, List.nil_append, List.cons_append,
        List.length_cons, List.length_nil] at h hlength
      split at h
      · simp at h
      · rename_i hpadding
        split at h
        · simp at h
        · rename_i hbits
          cases h
          obtain rfl : count = 1 := by omega
          exact (encode_of_three ha hb hc (by omega)).trans hs.symm
    | (p, a) :: (q, b) :: (r, c) :: (u, d) :: more =>
      -- Four symbols are all there is room for, and they make three bytes without padding.
      obtain ⟨ha, rfl⟩ : a < 64 ∧ symbol a = p := hall (p, a) (by simp)
      obtain ⟨hb, rfl⟩ : b < 64 ∧ symbol b = q := hall (q, b) (by simp)
      obtain ⟨hc, rfl⟩ : c < 64 ∧ symbol c = r := hall (r, c) (by simp)
      obtain ⟨hd, rfl⟩ : d < 64 ∧ symbol d = u := hall (u, d) (by simp)
      simp only [List.length_cons] at hlength
      obtain rfl : more = [] := List.eq_nil_of_length_eq_zero (by omega)
      obtain rfl : count = 0 := by omega
      simp only [List.reverse_cons, List.reverse_nil, List.nil_append, List.cons_append,
        List.length_cons, List.length_nil] at h
      rw [if_neg (by simp)] at h
      cases h
      exact (encode_of_four ha hb hc hd []).trans hs.symm

/-! ## Texts -/

/-- What is read, group by group and then the tail, is the text that is written for its bytes. -/
theorem encode_of_decodeFrom {offset : Nat} {s t : List UInt8}
    (h : decodeFrom offset s = .ok t) : encode t = s := by
  fun_induction decodeFrom offset s generalizing t with
  | case1 offset p q r u e rest f hgroup => simp at h
  | case2 offset p q r u e rest bytes hgroup f hmore => simp at h
  | case3 offset p q r u e rest bytes hgroup more hmore ih =>
    cases h
    rw [encode_of_group hgroup, ih hmore]
  | case4 offset s hshort =>
    refine encode_of_tail ?_ h
    match s, hshort with
    | [], _ | [_], _ | [_, _], _ | [_, _, _], _ | [_, _, _, _], _ => simp
    | p :: q :: r :: u :: e :: rest, hshort => exact absurd rfl (hshort p q r u e rest)

/-- **A text that is accepted is the text that is written** for its bytes. -/
theorem encode_of_decode {s t : List UInt8} (h : decode s = .ok t) : encode t = s := by
  unfold decode at h
  split at h
  · split at h
    · simp at h
    · exact encode_of_decodeFrom h
  · rename_i hnone
    cases h
    exact (List.getLast?_eq_none_iff.1 hnone).symm

end Base64

namespace Token

/-- **A token is written as the text it was read from.** -/
theorem text_of_parse {s : String} {t : Token} (h : parse s = .ok t) : t.text = s := by
  unfold parse at h
  split at h
  · rename_i bytes hdecode
    cases h
    have hencode := Base64.encode_of_decode hdecode
    have hoctets : Text.Utf8.ofString t.text = Text.Utf8.ofString s := by
      rw [← hencode]
      simp only [Text.Utf8.ofString, text, String.toList_ofList]
      exact encode_chars _ (Base64.lt_of_mem_encode t)
    have hback := Text.Utf8.toString?_ofString t.text
    rw [hoctets, Text.Utf8.toString?_ofString] at hback
    exact (Option.some.inj hback).symm
  · simp at h

/-- A text in which no character is escaped is written as it is. -/
theorem flatMap_escapeChar {cs : List Char} (h : ∀ c ∈ cs, Json.escapeChar c = [c]) :
    cs.flatMap Json.escapeChar = cs := by
  induction cs with
  | nil => rfl
  | cons c cs ih =>
    have hc : Json.escapeChar c = [c] := h c List.mem_cons_self
    rw [List.flatMap_cons, hc, ih fun x hx => h x (List.mem_cons_of_mem c hx)]
    rfl

/-- **The text of a token is written in JSON as it is**, between two quotes. -/
theorem stringChars_text (t : Token) :
    Json.stringChars t.text = '"' :: (t.text.toList ++ ['"']) := by
  have hsymbol : ∀ n, n < 64 → Json.escapeChar (Char.ofNat (Base64.symbol n).toNat) =
      [Char.ofNat (Base64.symbol n).toNat] := by
    decide
  have hpad : Json.escapeChar (Char.ofNat Base64.pad.toNat) = [Char.ofNat Base64.pad.toNat] := by
    decide
  have hplain : ∀ c ∈ t.text.toList, Json.escapeChar c = [c] := by
    unfold text
    rw [String.toList_ofList]
    intro c hc
    obtain ⟨b, hb, rfl⟩ := List.mem_map.1 hc
    exact Base64.forall_mem_encode (P := fun b => Json.escapeChar (Char.ofNat b.toNat) =
      [Char.ofNat b.toNat]) hsymbol hpad t b hb
  unfold Json.stringChars
  rw [flatMap_escapeChar hplain]

/-- Two texts of one token are the same text. -/
theorem parse_injective {s s' : String} {t : Token} (h : parse s = .ok t)
    (h' : parse s' = .ok t) : s = s' :=
  (text_of_parse h).symm.trans (text_of_parse h')

end Token

end VideoProbe
