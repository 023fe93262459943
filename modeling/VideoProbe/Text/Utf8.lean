/-!
# UTF-8

Texts are lists of characters and files are lists of octets; this module goes from one to the
other.  `encode` writes characters, `decode?` reads them back and refuses octets that no text
encodes to (overlong forms, surrogates, numbers above `10FFFF`, cut-off sequences), and
`decodeLossy` reads whatever it can: each maximal octet run that begins a character without
completing it counts as one replacement character.

Both readers are built on one step, `next?`, which takes the first character off a list of
octets.  Main statements: `next?_encodeChar` and `decode?_encode`, reading gives back what writing
was given.
-/

namespace VideoProbe.Text.Utf8

/-- A continuing octet: it carries the lowest six bits of a number. -/
def tailOctet (n : Nat) : UInt8 :=
  UInt8.ofNat (0x80 + n % 64)

/-- A leading octet: the mark of the length, and the bits left over. -/
def leadOctet (mark n : Nat) : UInt8 :=
  UInt8.ofNat (mark + n)

/-- The octets of one character: one below `80`, two below `800`, three below `10000`, else
four. -/
def encodeChar (c : Char) : List UInt8 :=
  let n := c.toNat
  if n < 0x80 then [leadOctet 0 n]
  else if n < 0x800 then [leadOctet 0xC0 (n / 64), tailOctet n]
  else if n < 0x10000 then [leadOctet 0xE0 (n / 4096), tailOctet (n / 64), tailOctet n]
  else [leadOctet 0xF0 (n / 262144), tailOctet (n / 4096), tailOctet (n / 64), tailOctet n]

/-- The octets of a text. -/
def encode (cs : List Char) : List UInt8 :=
  cs.flatMap encodeChar

/-- The octets of a string. -/
def ofString (s : String) : List UInt8 :=
  encode s.toList

/-- An octet that continues a character. -/
def isTail (b : UInt8) : Bool :=
  0x80 ≤ b.toNat && b.toNat ≤ 0xBF

/-- The six bits that a continuing octet carries. -/
def tailBits (b : UInt8) : Nat :=
  b.toNat - 0x80

/-- Least and greatest second octet after a leading octet of a three-octet character: `E0` rules
out the overlong forms and `ED` the surrogates. -/
def secondOfThree (a : UInt8) : Nat × Nat :=
  if a.toNat = 0xE0 then (0xA0, 0xBF) else if a.toNat = 0xED then (0x80, 0x9F) else (0x80, 0xBF)

/-- Least and greatest second octet after a leading octet of a four-octet character: `F0` rules
out the overlong forms and `F4` the numbers above `10FFFF`. -/
def secondOfFour (a : UInt8) : Nat × Nat :=
  if a.toNat = 0xF0 then (0x90, 0xBF) else if a.toNat = 0xF4 then (0x80, 0x8F) else (0x80, 0xBF)

/-- Whether an octet lies between two bounds. -/
def within (bounds : Nat × Nat) (b : UInt8) : Bool :=
  bounds.1 ≤ b.toNat && b.toNat ≤ bounds.2

/-- The first character of a list of octets and the octets after it, if they begin with one. -/
def next? : List UInt8 → Option (Char × List UInt8)
  | [] => none
  | a :: r =>
    if a.toNat < 0x80 then some (Char.ofNat a.toNat, r)
    else if 0xC2 ≤ a.toNat ∧ a.toNat ≤ 0xDF then
      match r with
      | b :: r =>
        if isTail b then some (Char.ofNat ((a.toNat - 0xC0) * 64 + tailBits b), r) else none
      | [] => none
    else if 0xE0 ≤ a.toNat ∧ a.toNat ≤ 0xEF then
      match r with
      | b :: c :: r =>
        if within (secondOfThree a) b && isTail c then
          some (Char.ofNat ((a.toNat - 0xE0) * 4096 + tailBits b * 64 + tailBits c), r)
        else none
      | _ => none
    else if 0xF0 ≤ a.toNat ∧ a.toNat ≤ 0xF4 then
      match r with
      | b :: c :: d :: r =>
        if within (secondOfFour a) b && isTail c && isTail d then
          some (Char.ofNat ((a.toNat - 0xF0) * 262144 + tailBits b * 4096 + tailBits c * 64
            + tailBits d), r)
        else none
      | _ => none
    else none

/-- What is left after the longest run of octets that begins a character without completing it
(at least one octet is taken). -/
def dropBroken : List UInt8 → List UInt8
  | [] => []
  | a :: r =>
    if 0xE0 ≤ a.toNat ∧ a.toNat ≤ 0xEF then
      match r with
      | b :: r' => if within (secondOfThree a) b then r' else r
      | [] => []
    else if 0xF0 ≤ a.toNat ∧ a.toNat ≤ 0xF4 then
      match r with
      | b :: r' =>
        if within (secondOfFour a) b then
          match r' with
          | c :: r'' => if isTail c then r'' else r'
          | [] => []
        else r
      | [] => []
    else r

/-- The loop of `decode?`; each step takes at least one octet, so `fuel` need not exceed their
number. -/
def decodeLoop : Nat → List Char → List UInt8 → Option (List Char)
  | _, done, [] => some done.reverse
  | 0, _, _ :: _ => none
  | fuel + 1, done, s@(_ :: _) =>
    match next? s with
    | some (c, r) => decodeLoop fuel (c :: done) r
    | none => none

/-- The text that a list of octets encodes, if it encodes one. -/
def decode? (s : List UInt8) : Option (List Char) :=
  decodeLoop s.length [] s

/-- The loop of `decodeLossy`. -/
def lossyLoop : Nat → List Char → List UInt8 → List Char
  | _, done, [] => done.reverse
  | 0, done, _ :: _ => done.reverse
  | fuel + 1, done, s@(_ :: _) =>
    match next? s with
    | some (c, r) => lossyLoop fuel (c :: done) r
    | none => lossyLoop fuel ('\uFFFD' :: done) (dropBroken s)

/-- The text of a list of octets, with a replacement character for each broken piece. -/
def decodeLossy (s : List UInt8) : String :=
  String.ofList (lossyLoop s.length [] s)

/-- The string that a list of octets encodes, if it encodes one. -/
def toString? (s : List UInt8) : Option String :=
  (decode? s).map String.ofList

/-! ## Reading gives back what writing was given -/

theorem encode_append (a b : List Char) : encode (a ++ b) = encode a ++ encode b := by
  simp [encode]

theorem encode_cons (c : Char) (r : List Char) : encode (c :: r) = encodeChar c ++ encode r := by
  simp [encode]

private theorem toNat_ofNat_of_lt {n : Nat} (h : n < 256) : (UInt8.ofNat n).toNat = n := by
  simp [UInt8.toNat_ofNat', Nat.mod_eq_of_lt h]

theorem toNat_tailOctet (n : Nat) : (tailOctet n).toNat = 0x80 + n % 64 :=
  toNat_ofNat_of_lt (by omega)

theorem toNat_leadOctet {mark n : Nat} (h : mark + n < 256) :
    (leadOctet mark n).toNat = mark + n :=
  toNat_ofNat_of_lt h

private theorem isTail_tailOctet (n : Nat) : isTail (tailOctet n) = true := by
  simp only [isTail, toNat_tailOctet, Bool.and_eq_true, decide_eq_true_eq]
  omega

private theorem tailBits_tailOctet (n : Nat) : tailBits (tailOctet n) = n % 64 :=
  Nat.sub_eq_of_eq_add' (toNat_tailOctet n)

/-- No character has the number of a surrogate. -/
theorem toNat_cases (c : Char) :
    c.toNat < 0xD800 ∨ (0xDFFF < c.toNat ∧ c.toNat < 0x110000) := by
  have h := c.valid
  simp only [UInt32.isValidChar, Nat.isValidChar] at h
  exact h

private theorem next?_one {a : UInt8} (ha : a.toNat < 0x80) (r : List UInt8) :
    next? (a :: r) = some (Char.ofNat a.toNat, r) := by
  simp only [next?, if_pos ha]

private theorem next?_two {a b : UInt8} (ha : 0xC2 ≤ a.toNat ∧ a.toNat ≤ 0xDF)
    (hb : isTail b = true) (r : List UInt8) :
    next? (a :: b :: r) = some (Char.ofNat ((a.toNat - 0xC0) * 64 + tailBits b), r) := by
  rw [next?, if_neg (by omega), if_pos ha]
  simp only [hb, if_true]

private theorem next?_three {a b c : UInt8} (ha : 0xE0 ≤ a.toNat ∧ a.toNat ≤ 0xEF)
    (hb : within (secondOfThree a) b = true) (hc : isTail c = true) (r : List UInt8) :
    next? (a :: b :: c :: r) = some
      (Char.ofNat ((a.toNat - 0xE0) * 4096 + tailBits b * 64 + tailBits c), r) := by
  rw [next?, if_neg (by omega), if_neg (by omega), if_pos ha]
  simp only [hb, hc, Bool.and_self, if_true]

private theorem next?_four {a b c d : UInt8} (ha : 0xF0 ≤ a.toNat ∧ a.toNat ≤ 0xF4)
    (hb : within (secondOfFour a) b = true) (hc : isTail c = true) (hd : isTail d = true)
    (r : List UInt8) :
    next? (a :: b :: c :: d :: r) = some (Char.ofNat ((a.toNat - 0xF0) * 262144
      + tailBits b * 4096 + tailBits c * 64 + tailBits d), r) := by
  rw [next?, if_neg (by omega), if_neg (by omega), if_neg (by omega), if_pos ha]
  simp only [hb, hc, hd, Bool.and_self, if_true]

private theorem within_of {lo hi : Nat} {b : UInt8} (h1 : lo ≤ b.toNat) (h2 : b.toNat ≤ hi) :
    within (lo, hi) b = true := by
  simp [within, h1, h2]

/-- The first character of a written text is the character that was written first. -/
theorem next?_encodeChar (c : Char) (r : List UInt8) :
    next? (encodeChar c ++ r) = some (c, r) := by
  have hc := toNat_cases c
  have hback : Char.ofNat c.toNat = c := Char.ofNat_toNat c
  have ht := toNat_tailOctet
  unfold encodeChar
  dsimp only
  split
  · have ea := @toNat_leadOctet 0 c.toNat (by omega)
    refine (next?_one (by omega) r).trans ?_
    rw [ea, Nat.zero_add, hback]
  · split
    · have ea := @toNat_leadOctet 0xC0 (c.toNat / 64) (by omega)
      refine (next?_two (by omega) (isTail_tailOctet _) r).trans ?_
      rw [tailBits_tailOctet, ea,
        show (0xC0 + c.toNat / 64 - 0xC0) * 64 + c.toNat % 64 = c.toNat by omega, hback]
    · split
      · have ea := @toNat_leadOctet 0xE0 (c.toNat / 4096) (by omega)
        have eb := ht (c.toNat / 64)
        refine (next?_three (by omega) ?_ (isTail_tailOctet _) r).trans ?_
        · unfold secondOfThree
          split
          · exact within_of (by omega) (by omega)
          · split <;> exact within_of (by omega) (by omega)
        · rw [tailBits_tailOctet, tailBits_tailOctet, ea,
            show (0xE0 + c.toNat / 4096 - 0xE0) * 4096 + c.toNat / 64 % 64 * 64 + c.toNat % 64
              = c.toNat by omega, hback]
      · have ea := @toNat_leadOctet 0xF0 (c.toNat / 262144) (by omega)
        have eb := ht (c.toNat / 4096)
        refine (next?_four (by omega) ?_ (isTail_tailOctet _) (isTail_tailOctet _) r).trans ?_
        · unfold secondOfFour
          split
          · exact within_of (by omega) (by omega)
          · split <;> exact within_of (by omega) (by omega)
        · rw [tailBits_tailOctet, tailBits_tailOctet, tailBits_tailOctet, ea,
            show (0xF0 + c.toNat / 262144 - 0xF0) * 262144 + c.toNat / 4096 % 64 * 4096
              + c.toNat / 64 % 64 * 64 + c.toNat % 64 = c.toNat by omega, hback]

/-- A character has at least one octet. -/
theorem encodeChar_ne_nil (c : Char) : encodeChar c ≠ [] := by
  unfold encodeChar
  simp only
  split <;> (try split) <;> (try split) <;> simp

theorem length_encodeChar_pos (c : Char) : 0 < (encodeChar c).length :=
  List.length_pos_iff.2 (encodeChar_ne_nil c)

private theorem decodeLoop_encode (cs : List Char) (fuel : Nat) (done : List Char)
    (h : (encode cs).length ≤ fuel) : decodeLoop fuel done (encode cs) = some (done.reverse ++ cs) := by
  induction cs generalizing fuel done with
  | nil => cases fuel <;> simp [encode, decodeLoop]
  | cons c r ih =>
    rw [encode_cons] at h ⊢
    have hpos := length_encodeChar_pos c
    rw [List.length_append] at h
    obtain ⟨fuel, rfl⟩ : ∃ k, fuel = k + 1 := ⟨fuel - 1, by omega⟩
    have hstep : decodeLoop (fuel + 1) done (encodeChar c ++ encode r)
        = decodeLoop fuel (c :: done) (encode r) := by
      have hn := next?_encodeChar c (encode r)
      cases hs : encodeChar c ++ encode r with
      | nil => simp [encodeChar_ne_nil] at hs
      | cons b t =>
        rw [hs] at hn
        simp [decodeLoop, hn]
    rw [hstep, ih fuel (c :: done) (by omega)]
    simp

/-- Reading a written text gives the text back. -/
theorem decode?_encode (cs : List Char) : decode? (encode cs) = some cs := by
  simp [decode?, decodeLoop_encode cs _ [] (Nat.le_refl _)]

theorem toString?_ofString (s : String) : toString? (ofString s) = some s := by
  simp [toString?, ofString, decode?_encode]

/-- Where nothing is broken, the two loops do the same. -/
private theorem lossyLoop_of_decodeLoop {fuel : Nat} {done cs : List Char} {s : List UInt8}
    (h : decodeLoop fuel done s = some cs) : lossyLoop fuel done s = cs := by
  induction fuel generalizing done s with
  | zero =>
    cases s with
    | nil => simpa [decodeLoop, lossyLoop] using h
    | cons b r => simp [decodeLoop] at h
  | succ fuel ih =>
    cases s with
    | nil => simpa [decodeLoop, lossyLoop] using h
    | cons b r =>
      unfold decodeLoop at h
      unfold lossyLoop
      cases hnext : next? (b :: r) with
      | none =>
        rw [hnext] at h
        exact nomatch h
      | some p =>
        rw [hnext] at h
        exact ih h

/-- A text that can be read strictly is read as the same text in the other way. -/
theorem decodeLossy_of_toString? {s : List UInt8} {text : String} (h : toString? s = some text) :
    decodeLossy s = text := by
  obtain ⟨cs, hcs, rfl⟩ := Option.map_eq_some_iff.1 h
  unfold decodeLossy
  rw [lossyLoop_of_decodeLoop hcs]

/-! ## The octets behind the first -/

private theorem le_of_isTail {b : UInt8} (h : isTail b = true) : 0x80 ≤ b.toNat := by
  simp only [isTail, Bool.and_eq_true, decide_eq_true_eq] at h
  exact h.1

private theorem le_of_within {bounds : Nat × Nat} (hbounds : 0x80 ≤ bounds.1) {b : UInt8}
    (h : within bounds b = true) : 0x80 ≤ b.toNat := by
  simp only [within, Bool.and_eq_true, decide_eq_true_eq] at h
  omega

private theorem le_secondOfThree (a : UInt8) : 0x80 ≤ (secondOfThree a).1 := by
  unfold secondOfThree
  split
  · decide
  · split <;> decide

private theorem le_secondOfFour (a : UInt8) : 0x80 ≤ (secondOfFour a).1 := by
  unfold secondOfFour
  split
  · decide
  · split <;> decide

/-- Behind the first octet of a character no octet is one of ASCII. -/
theorem next?_tails {a : UInt8} {r rest : List UInt8} {c : Char}
    (h : next? (a :: r) = some (c, rest)) :
    ∃ tails, r = tails ++ rest ∧ ∀ b ∈ tails, 0x80 ≤ b.toNat := by
  unfold next? at h
  dsimp only at h
  split at h
  · cases h
    exact ⟨[], rfl, by simp⟩
  · split at h
    · split at h
      · rename_i b r
        split at h
        · rename_i hb
          rw [← (Prod.mk.inj (Option.some.inj h)).2]
          exact ⟨[b], rfl, List.forall_mem_cons.2 ⟨le_of_isTail hb, List.forall_mem_nil _⟩⟩
        · exact nomatch h
      · exact nomatch h
    · split at h
      · split at h
        · rename_i b c r
          split at h
          · rename_i hbc
            rw [Bool.and_eq_true] at hbc
            rw [← (Prod.mk.inj (Option.some.inj h)).2]
            exact ⟨[b, c], rfl, List.forall_mem_cons.2 ⟨le_of_within (le_secondOfThree a) hbc.1,
              List.forall_mem_cons.2 ⟨le_of_isTail hbc.2, List.forall_mem_nil _⟩⟩⟩
          · exact nomatch h
        · exact nomatch h
      · split at h
        · split at h
          · rename_i b c d r
            split at h
            · rename_i hbcd
              rw [Bool.and_eq_true, Bool.and_eq_true] at hbcd
              rw [← (Prod.mk.inj (Option.some.inj h)).2]
              obtain ⟨⟨hb, hc⟩, hd⟩ := hbcd
              exact ⟨[b, c, d], rfl, List.forall_mem_cons.2 ⟨le_of_within (le_secondOfFour a) hb,
                List.forall_mem_cons.2 ⟨le_of_isTail hc,
                  List.forall_mem_cons.2 ⟨le_of_isTail hd, List.forall_mem_nil _⟩⟩⟩⟩
            · exact nomatch h
          · exact nomatch h
        · exact nomatch h

end VideoProbe.Text.Utf8
