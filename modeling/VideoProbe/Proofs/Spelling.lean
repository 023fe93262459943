import VideoProbe.Job.Basic

/-!
# Spellings

Tokens and UUIDs travel as text: in what a client sends, in the arguments of stored jobs and in
what is delivered.  Each is written in one way, and what is written is read back as what it was.
-/

namespace VideoProbe

/-! ## Base64 -/

namespace Base64

/-- Each value has its own symbol. -/
theorem value?_symbol : ∀ n, n < 64 → value? (symbol n) = some n := by
  decide

/-- None of them is the padding. -/
theorem symbol_ne_pad : ∀ n, n < 64 → symbol n ≠ pad := by
  decide

theorem symbol_lt : ∀ n, n < 64 → (symbol n).toNat < 0x80 := by
  decide

theorem valueAt_symbol (offset : Nat) {n : Nat} (h : n < 64) :
    valueAt offset (symbol n) = .ok n := by
  simp [valueAt, value?_symbol n h]

/-- A byte is put together again from the parts that were written into two symbols. -/
theorem byte_of_parts {n : Nat} {a : UInt8} (h : n = a.toNat) : UInt8.ofNat n = a := by
  rw [h, UInt8.ofNat_toNat]

/-- Three bytes are read back from their four symbols. -/
theorem group_encode (offset : Nat) (a b c : UInt8) :
    group offset (symbol (a.toNat / 4)) (symbol (a.toNat % 4 * 16 + b.toNat / 16))
      (symbol (b.toNat % 16 * 4 + c.toNat / 64)) (symbol (c.toNat % 64)) = .ok [a, b, c] := by
  have ha := a.toNat_lt
  have hb := b.toNat_lt
  have hc := c.toNat_lt
  simp only [group]
  rw [valueAt_symbol _ (by omega), valueAt_symbol _ (by omega), valueAt_symbol _ (by omega),
    valueAt_symbol _ (by omega)]
  show Except.ok [_, _, _] = _
  rw [byte_of_parts (a := a) (by omega), byte_of_parts (a := b) (by omega),
    byte_of_parts (a := c) (by omega)]

/-- The loop takes one symbol of the tail. -/
theorem tailLoop_symbol (offset place firstPad : Nat) (symbols : List (UInt8 × Nat)) {n : Nat}
    (h : n < 64) (rest : List UInt8) :
    tailLoop offset place symbols 0 firstPad (symbol n :: rest) =
      tailLoop offset (place + 1) ((symbol n, n) :: symbols) 0 firstPad rest := by
  rw [tailLoop, if_neg (symbol_ne_pad n h), if_neg (Nat.lt_irrefl 0), valueAt_symbol _ h]

/-- The last group, where one byte is left for it. -/
theorem tail_one (offset : Nat) (a : UInt8) : tail offset (encode [a]) = .ok [a] := by
  have ha := a.toNat_lt
  have hloop : tailLoop offset 0 [] 0 0 (encode [a]) =
      .ok ([(symbol (a.toNat % 4 * 16), a.toNat % 4 * 16), (symbol (a.toNat / 4), a.toNat / 4)],
        2) := by
    rw [encode, tailLoop_symbol _ _ _ _ (by omega), tailLoop_symbol _ _ _ _ (by omega)]
    rfl
  simp only [tail, hloop]
  rw [if_neg (by simp), if_neg (by omega), byte_of_parts (a := a) (by omega)]

/-- The last group with two bytes. -/
theorem tail_two (offset : Nat) (a b : UInt8) : tail offset (encode [a, b]) = .ok [a, b] := by
  have ha := a.toNat_lt
  have hb := b.toNat_lt
  have hloop : tailLoop offset 0 [] 0 0 (encode [a, b]) =
      .ok ([(symbol (b.toNat % 16 * 4), b.toNat % 16 * 4),
        (symbol (a.toNat % 4 * 16 + b.toNat / 16), a.toNat % 4 * 16 + b.toNat / 16),
        (symbol (a.toNat / 4), a.toNat / 4)], 1) := by
    rw [encode, tailLoop_symbol _ _ _ _ (by omega), tailLoop_symbol _ _ _ _ (by omega),
      tailLoop_symbol _ _ _ _ (by omega)]
    rfl
  simp only [tail, hloop]
  rw [if_neg (by simp), if_neg (by omega), byte_of_parts (a := a) (by omega),
    byte_of_parts (a := b) (by omega)]

/-- The last group with three, which needs no padding. -/
theorem tail_three (offset : Nat) (a b c : UInt8) :
    tail offset (encode [a, b, c]) = .ok [a, b, c] := by
  have ha := a.toNat_lt
  have hb := b.toNat_lt
  have hc := c.toNat_lt
  have hloop : tailLoop offset 0 [] 0 0 (encode [a, b, c]) =
      .ok ([(symbol (c.toNat % 64), c.toNat % 64),
        (symbol (b.toNat % 16 * 4 + c.toNat / 64), b.toNat % 16 * 4 + c.toNat / 64),
        (symbol (a.toNat % 4 * 16 + b.toNat / 16), a.toNat % 4 * 16 + b.toNat / 16),
        (symbol (a.toNat / 4), a.toNat / 4)], 0) := by
    rw [encode, encode, tailLoop_symbol _ _ _ _ (by omega), tailLoop_symbol _ _ _ _ (by omega),
      tailLoop_symbol _ _ _ _ (by omega), tailLoop_symbol _ _ _ _ (by omega)]
    rfl
  simp only [tail, hloop]
  rw [if_neg (by simp), byte_of_parts (a := a) (by omega), byte_of_parts (a := b) (by omega),
    byte_of_parts (a := c) (by omega)]

/-- The symbols of at least one byte are at least four. -/
theorem encode_cons_eq (a : UInt8) (t : List UInt8) :
    ∃ p q r s rest, encode (a :: t) = p :: q :: r :: s :: rest := by
  match t with
  | [] => exact ⟨_, _, _, _, _, rfl⟩
  | [b] => exact ⟨_, _, _, _, _, rfl⟩
  | b :: c :: t => exact ⟨_, _, _, _, _, rfl⟩

/-- Bytes are read back from their symbols: group by group as long as more bytes follow, and the
last one to three of them from the tail. -/
theorem decodeFrom_encode (offset : Nat) (a : UInt8) (t : List UInt8) :
    decodeFrom offset (encode (a :: t)) = .ok (a :: t) := by
  match t with
  | [] => exact tail_one offset a
  | [b] => exact tail_two offset a b
  | [b, c] => exact tail_three offset a b c
  | b :: c :: d :: t =>
    -- The loop takes a group only where another one follows it.
    obtain ⟨p, q, r, s, rest, hrest⟩ := encode_cons_eq d t
    have ih := decodeFrom_encode (offset + 4) d t
    rw [hrest] at ih
    rw [encode, hrest, decodeFrom]
    simp only [group_encode, ih]
    rfl

/-- What is written comes in groups of four. -/
theorem length_encode_mod (t : List UInt8) : (encode t).length % 4 = 0 := by
  match t with
  | [] => rfl
  | [_] => simp [encode]
  | [_, _] => simp [encode]
  | _ :: _ :: _ :: t =>
    have ih := length_encode_mod t
    simp only [encode, List.length_cons]
    omega

/-- **Bytes are read back** from the text that is written for them. -/
theorem decode_encode (t : List UInt8) : decode (encode t) = .ok t := by
  cases t with
  | nil => rfl
  | cons a t =>
    unfold decode
    split
    · rw [if_neg, decodeFrom_encode]
      rw [length_encode_mod]
      simp
    · rename_i h
      obtain ⟨p, q, r, s, rest, hrest⟩ := encode_cons_eq a t
      simp [hrest] at h

/-- Every octet of a written text is a symbol or the padding. -/
theorem forall_mem_encode {P : UInt8 → Prop} (hsymbol : ∀ n, n < 64 → P (symbol n)) (hpad : P pad)
    (t : List UInt8) : ∀ b ∈ encode t, P b := by
  match t with
  | [] => simp [encode]
  | [a] =>
    have ha := a.toNat_lt
    simp only [encode, List.forall_mem_cons, List.not_mem_nil, false_imp_iff, implies_true]
    exact ⟨hsymbol _ (by omega), hsymbol _ (by omega), hpad, hpad, trivial⟩
  | [a, b] =>
    have ha := a.toNat_lt
    have hb := b.toNat_lt
    simp only [encode, List.forall_mem_cons, List.not_mem_nil, false_imp_iff, implies_true]
    exact ⟨hsymbol _ (by omega), hsymbol _ (by omega), hsymbol _ (by omega), hpad, trivial⟩
  | a :: b :: c :: t =>
    have ha := a.toNat_lt
    have hb := b.toNat_lt
    have hc := c.toNat_lt
    simp only [encode, List.forall_mem_cons]
    exact ⟨hsymbol _ (by omega), hsymbol _ (by omega), hsymbol _ (by omega),
      hsymbol _ (by omega), forall_mem_encode hsymbol hpad t⟩

/-- So every octet of a written text is a character of its own. -/
theorem lt_of_mem_encode (t : List UInt8) : ∀ b ∈ encode t, b.toNat < 0x80 :=
  forall_mem_encode symbol_lt (by decide) t

end Base64

namespace Token

theorem toNat_ofNat : ∀ n, n < 0x80 → (Char.ofNat n).toNat = n := by
  decide

/-- Octets below 80 are written as the characters of the same numbers. -/
theorem encode_chars (bs : List UInt8) (h : ∀ b ∈ bs, b.toNat < 0x80) :
    Text.Utf8.encode (bs.map fun b => Char.ofNat b.toNat) = bs := by
  induction bs with
  | nil => rfl
  | cons b bs ih =>
    have hb : b.toNat < 0x80 := h b List.mem_cons_self
    have hn : (Char.ofNat b.toNat).toNat = b.toNat := toNat_ofNat b.toNat hb
    rw [List.map_cons, Text.Utf8.encode_cons, ih fun x hx => h x (List.mem_cons_of_mem _ hx)]
    simp only [Text.Utf8.encodeChar, hn, if_pos hb, Text.Utf8.leadOctet, Nat.zero_add,
      UInt8.ofNat_toNat, List.singleton_append]

/-- **A token is read back** from its text. -/
theorem parse_text (t : Token) : parse t.text = .ok t := by
  have h : Text.Utf8.ofString t.text = Base64.encode t := by
    simp only [Text.Utf8.ofString, text, String.toList_ofList]
    exact encode_chars _ (Base64.lt_of_mem_encode t)
  rw [parse, h, Base64.decode_encode]

end Token

/-! ## UUIDs -/

namespace Uuid

theorem hexValue?_hexDigit : ∀ d : Fin 16, hexValue? (Text.Quoted.hexDigit d.val) = some d := by
  decide

/-- Digits are read back. -/
theorem hexValues?_hexChars (ds : List (Fin 16)) : hexValues? (hexChars ds) = some ds := by
  induction ds with
  | nil => rfl
  | cons d ds ih =>
    have ih' : (hexChars ds).mapM hexValue? = some ds := ih
    simp only [hexValues?, hexChars, List.map_cons, List.mapM_cons, hexValue?_hexDigit]
    simp only [hexChars] at ih'
    rw [ih']
    rfl

theorem length_hexChars (ds : List (Fin 16)) : (hexChars ds).length = ds.length := by
  simp [hexChars]

/-- So is a UUID from its digits. -/
theorem ofHex?_hexChars (u : Uuid) : ofHex? (hexChars u.digits) = some u := by
  simp only [ofHex?, hexValues?_hexChars, u.length_eq, dif_pos]

/-- A group is split off at its hyphen. -/
theorem joinGroups?_cons (n m : Nat) (lengths : List Nat) (g rest : List Char)
    (h : g.length = n) :
    joinGroups? (n :: m :: lengths) (g ++ '-' :: rest) =
      (joinGroups? (m :: lengths) rest).map (g ++ ·) := by
  subst h
  simp [joinGroups?]

theorem joinGroups?_last (n : Nat) (g : List Char) (h : g.length = n) :
    joinGroups? [n] g = some g := by
  simp [joinGroups?, h]

/-- The five groups of a text are those of the digits. -/
theorem joinGroups?_chars (u : Uuid) :
    joinGroups? groupLengths u.chars = some (hexChars u.digits) := by
  have hlen : (hexChars u.digits).length = 32 := (length_hexChars _).trans u.length_eq
  unfold chars
  generalize hexChars u.digits = cs at hlen
  have hsplit : cs.take 8 ++ ((cs.drop 8).take 4 ++ ((cs.drop 12).take 4 ++
      ((cs.drop 16).take 4 ++ cs.drop 20))) = cs := by
    have h (n k : Nat) : (cs.drop n).take k ++ cs.drop (n + k) = cs.drop n := by
      rw [← List.drop_drop, List.take_append_drop]
    rw [h 16 4, h 12 4, h 8 4, List.take_append_drop]
  rw [groupLengths, joinGroups?_cons _ _ _ _ _ (by simp; omega),
    joinGroups?_cons _ _ _ _ _ (by simp; omega), joinGroups?_cons _ _ _ _ _ (by simp; omega),
    joinGroups?_cons _ _ _ _ _ (by simp; omega), joinGroups?_last _ _ (by simp; omega)]
  simp only [Option.map_some, hsplit]

/-- A UUID is written in thirty-six characters. -/
theorem length_chars (u : Uuid) : u.chars.length = 36 := by
  have hlen : (hexChars u.digits).length = 32 := (length_hexChars _).trans u.length_eq
  simp only [chars, List.length_append, List.length_cons, List.length_take, List.length_drop, hlen]
  omega

/-- **A UUID is read back** from its text. -/
theorem parse_text (u : Uuid) : parse u.text = .ok u := by
  have h : ofChars? u.chars = some u := by
    unfold ofChars? ofGroups?
    rw [length_chars, if_neg (by omega), if_pos rfl, joinGroups?_chars]
    exact ofHex?_hexChars u
  simp only [parse, text, String.toList_ofList, h]

end Uuid

end VideoProbe
