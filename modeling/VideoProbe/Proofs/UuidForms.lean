import VideoProbe.Proofs.PercentCodes

/-!
# The forms of a UUID

Four forms of a UUID are read, with letters of either case.  `Uuid.SpelledBy` says so without the
reader: in lower case the text is one of the forms.  The reader looks at the length of a text to
tell which form it can be, takes away what is around the digits, and only then looks at the digits;
the crux is that each of these steps asks the same of a text as of its lower case
(`hexValue?_eq_some_iff` for a digit, `joinGroups?_eq_some_iff` for the hyphens).  So a text is read
as a UUID exactly if it spells it (`parse_ok_iff`).

One form is written, and from it the UUID is known (`text_injective`).
-/

namespace VideoProbe.Uuid

open Text.Quoted Text.Utf8

/-! ## The forms -/

/-- The four forms of a UUID in lower case: the digits alone, with hyphens, that in braces, and as a
resource name. -/
def forms (u : Uuid) : List (List Char) :=
  [hexChars u.digits, u.chars, '\x7b' :: (u.chars ++ ['\x7d']), urnPrefix ++ u.chars]

/-- A text spells a UUID: but for the case of its letters it is one of the forms. -/
def SpelledBy (u : Uuid) (text : String) : Prop :=
  text.toList.map Char.toLower ∈ u.forms

instance (u : Uuid) (text : String) : Decidable (u.SpelledBy text) :=
  inferInstanceAs (Decidable (_ ∈ _))

/-! ## Digits -/

/-- A character has the value of a digit exactly if its lower case is the digit. -/
theorem hexValue?_eq_some_iff (c : Char) (d : Fin 16) :
    hexValue? c = some d ↔ c.toLower = hexDigit d.val := by
  by_cases hc : c.toNat < 0x80
  · have hall : ∀ n, n < 0x80 → ∀ d : Fin 16,
        hexValue? (Char.ofNat n) = some d ↔ (Char.ofNat n).toLower = hexDigit d.val := by
      decide +kernel
    exact ascii_forall (P := fun c => ∀ d : Fin 16,
      hexValue? c = some d ↔ c.toLower = hexDigit d.val) hall hc d
  · -- Neither a digit nor its lower case is outside of ASCII.
    have hdigit : ∀ d : Fin 16, (hexDigit d.val).toNat < 0x80 := by decide
    have hnone : hexValue? c = none := by
      unfold hexValue?
      have hle : ∀ m : Char, m.toNat < 0x80 → ¬ c ≤ m := by
        intro m hm h
        have hcm : c.toNat ≤ m.toNat := h
        omega
      rw [if_neg fun h => hle '9' (by decide) h.2, if_neg fun h => hle 'f' (by decide) h.2,
        if_neg fun h => hle 'F' (by decide) h.2]
    rw [hnone, toLower_of_le (Nat.not_lt.1 hc)]
    constructor
    · exact fun h => nomatch h
    · intro h
      exact absurd (h ▸ hdigit d) hc

/-- Digits are read in either case. -/
theorem hexValues?_eq_some_iff (cs : List Char) (ds : List (Fin 16)) :
    hexValues? cs = some ds ↔ cs.map Char.toLower = hexChars ds := by
  unfold hexValues? hexChars
  induction cs generalizing ds with
  | nil => cases ds <;> simp
  | cons c cs ih =>
    rw [List.mapM_cons]
    cases ds with
    | nil =>
      cases hexValue? c <;> cases cs.mapM hexValue? <;> simp
    | cons d ds =>
      rw [List.map_cons, List.map_cons, List.cons.injEq, ← hexValue?_eq_some_iff, ← ih]
      cases hexValue? c <;> cases cs.mapM hexValue? <;> simp

/-- The form without dashes. -/
theorem ofHex?_eq_some_iff (cs : List Char) (u : Uuid) :
    ofHex? cs = some u ↔ cs.map Char.toLower = hexChars u.digits := by
  rw [← hexValues?_eq_some_iff]
  unfold ofHex?
  cases hexValues? cs with
  | none => simp
  | some ds =>
    obtain ⟨digits, hlen⟩ := u
    by_cases h : ds.length = 32
    · simp [h]
    · have hne : ds ≠ digits := fun he => h (he ▸ hlen)
      simp [h, hne]

/-! ## Groups -/

/-- A mark is no letter of either case. -/
theorem toLower_eq_mark_iff {m : Char} (hm : m ∈ ['-', '\x7b', '\x7d']) (c : Char) :
    c.toLower = m ↔ c = m := by
  by_cases hc : c.toNat < 0x80
  · have hall : ∀ n, n < 0x80 → (['-', '\x7b', '\x7d'].all fun m =>
        decide ((Char.ofNat n).toLower = m ↔ Char.ofNat n = m)) = true := by
      decide +kernel
    exact ascii_forall (P := fun c => c.toLower = m ↔ c = m)
      (fun n hn => forall_mem_of_all (hall n hn) m hm) hc
  · rw [toLower_of_le (Nat.not_lt.1 hc)]

/-- A text begins with a group exactly if it has that many characters and a hyphen after them. -/
theorem joinGroups?_cons_eq_some_iff (n m : Nat) (lengths : List Nat) (cs hs : List Char) :
    joinGroups? (n :: m :: lengths) cs = some hs ↔
      ∃ g rest hs', g.length = n ∧ cs = g ++ '-' :: rest ∧
        joinGroups? (m :: lengths) rest = some hs' ∧ hs = g ++ hs' := by
  constructor
  · intro h
    unfold joinGroups? at h
    split at h
    · rename_i rest hdrop
      obtain ⟨hs', hjoin, rfl⟩ := Option.map_eq_some_iff.1 h
      refine ⟨cs.take n, rest, hs', ?_, ?_, hjoin, rfl⟩
      · have hlen := congrArg List.length hdrop
        rw [List.length_drop, List.length_cons] at hlen
        rw [List.length_take]
        omega
      · rw [← hdrop, List.take_append_drop]
    · cases h
  · rintro ⟨g, rest, hs', hg, rfl, hjoin, rfl⟩
    rw [joinGroups?_cons _ _ _ _ _ hg, hjoin]
    rfl

/-- What the groups are joined to tells the text. -/
theorem joinGroups?_injective {lengths : List Nat} {xs ys hs : List Char}
    (hx : joinGroups? lengths xs = some hs) (hy : joinGroups? lengths ys = some hs) : xs = ys := by
  induction lengths generalizing xs ys hs with
  | nil => exact nomatch hx
  | cons n lengths ih =>
    cases lengths with
    | nil =>
      simp only [joinGroups?, Option.ite_none_right_eq_some, Option.some.injEq] at hx hy
      exact hx.2.trans hy.2.symm
    | cons m lengths =>
      obtain ⟨g, rest, hs', hg, rfl, hjoin, rfl⟩ := (joinGroups?_cons_eq_some_iff ..).1 hx
      obtain ⟨k, rest', hs'', hk, rfl, hjoin', heq⟩ := (joinGroups?_cons_eq_some_iff ..).1 hy
      obtain ⟨rfl, rfl⟩ := List.append_inj heq (hg.trans hk.symm)
      rw [ih hjoin hjoin']

/-- The groups of a text in lower case are its groups in lower case. -/
theorem joinGroups?_map_toLower (lengths : List Nat) (cs : List Char) :
    joinGroups? lengths (cs.map Char.toLower) =
      (joinGroups? lengths cs).map (List.map Char.toLower) := by
  induction lengths generalizing cs with
  | nil => rfl
  | cons n lengths ih =>
    cases lengths with
    | nil =>
      unfold joinGroups?
      rw [List.length_map]
      by_cases h : cs.length = n
      · rw [if_pos h, if_pos h, Option.map_some]
      · rw [if_neg h, if_neg h, Option.map_none]
    | cons m lengths =>
      unfold joinGroups?
      rw [← List.map_drop, ← List.map_take]
      cases hdrop : cs.drop n with
      | nil => rfl
      | cons c rest =>
        rw [List.map_cons]
        -- The dash is a dash in either case, and no other character becomes one.
        by_cases hc : c = '-'
        · subst hc
          have hlower : Char.toLower '-' = '-' := by decide
          rw [hlower]
          show Option.map _ (joinGroups? (m :: lengths) (rest.map Char.toLower)) =
            Option.map _ (Option.map _ (joinGroups? (m :: lengths) rest))
          rw [ih rest]
          cases joinGroups? (m :: lengths) rest <;> simp
        · have hlower : c.toLower ≠ '-' := fun h => hc ((toLower_eq_mark_iff (by simp) c).1 h)
          split
          · rename_i h
            exact absurd (List.cons.inj h).1 hlower
          · split
            · rename_i h
              exact absurd (List.cons.inj h).1 hc
            · rfl

/-- The form in groups. -/
theorem ofGroups?_eq_some_iff (cs : List Char) (u : Uuid) :
    ofGroups? cs = some u ↔ cs.map Char.toLower = u.chars := by
  unfold ofGroups?
  have hjoin := joinGroups?_map_toLower groupLengths cs
  constructor
  · intro h
    obtain ⟨hs, hhs, hhex⟩ := Option.bind_eq_some_iff.1 h
    rw [hhs, Option.map_some, (ofHex?_eq_some_iff hs u).1 hhex] at hjoin
    exact joinGroups?_injective hjoin (joinGroups?_chars u)
  · intro h
    rw [h, joinGroups?_chars] at hjoin
    obtain ⟨hs, hhs, hlower⟩ := Option.map_eq_some_iff.1 hjoin.symm
    rw [hhs, Option.bind_some]
    exact (ofHex?_eq_some_iff hs u).2 hlower

/-! ## What is around them -/

/-- Braces are taken off from both ends. -/
theorem betweenBraces?_eq_some_iff (cs body : List Char) :
    betweenBraces? cs = some body ↔ cs = '\x7b' :: (body ++ ['\x7d']) := by
  constructor
  · intro h
    unfold betweenBraces? at h
    split at h
    · rename_i rest
      split at h
      · rename_i hlast
        obtain ⟨front, rfl⟩ := List.getLast?_eq_some_iff.1 hlast
        rw [List.dropLast_concat] at h
        cases h
        rfl
      · cases h
    · cases h
  · rintro rfl
    simp [betweenBraces?]

/-- The form in braces. -/
theorem braced_iff (cs : List Char) (u : Uuid) :
    (betweenBraces? cs).bind ofGroups? = some u ↔
      cs.map Char.toLower = '\x7b' :: (u.chars ++ ['\x7d']) := by
  simp only [Option.bind_eq_some_iff, betweenBraces?_eq_some_iff, ofGroups?_eq_some_iff]
  constructor
  · rintro ⟨body, rfl, hbody⟩
    rw [List.map_cons, List.map_append, hbody]
    rfl
  · intro h
    obtain ⟨o, rest, rfl, ho, hrest⟩ := List.map_eq_cons_iff.1 h
    obtain ⟨body, last, rfl, hbody, hlast⟩ := List.map_eq_append_iff.1 hrest
    obtain ⟨e, tail, rfl, he, htail⟩ := List.map_eq_cons_iff.1 hlast
    obtain rfl := List.map_eq_nil_iff.1 htail
    rw [(toLower_eq_mark_iff (by simp) o).1 ho, (toLower_eq_mark_iff (by simp) e).1 he]
    exact ⟨body, rfl, hbody⟩

/-- The form with a name before it. -/
theorem named_iff (cs : List Char) (u : Uuid) :
    (afterUrn? cs).bind ofGroups? = some u ↔ cs.map Char.toLower = urnPrefix ++ u.chars := by
  have hlength : urnPrefix.length = 9 := rfl
  simp only [Option.bind_eq_some_iff, ofGroups?_eq_some_iff]
  unfold afterUrn?
  simp only [Option.ite_none_right_eq_some, Option.some.injEq]
  constructor
  · rintro ⟨body, ⟨hstart, rfl⟩, hbody⟩
    rw [← hstart, ← hbody, ← List.map_append, List.take_append_drop]
  · intro h
    refine ⟨cs.drop 9, ⟨?_, rfl⟩, ?_⟩
    · rw [List.map_take, h, List.take_left' hlength]
    · rw [List.map_drop, h, List.drop_left' hlength]

/-! ## Reading -/

/-- **A text is read as a UUID** exactly if it is one of its forms, in either case. -/
theorem ofChars?_eq_some_iff (cs : List Char) (u : Uuid) :
    ofChars? cs = some u ↔ cs.map Char.toLower ∈ u.forms := by
  have hhex : (hexChars u.digits).length = 32 := (length_hexChars _).trans u.length_eq
  have hchars := length_chars u
  have hurn : urnPrefix.length = 9 := rfl
  -- The form that a text can have is told by its length.
  have hform : ∀ {form : List Char} {n : Nat}, form.length = n → cs.length ≠ n →
      cs.map Char.toLower ≠ form := by
    rintro form n rfl hne rfl
    exact hne (List.length_map _).symm
  have hplain := @hform _ _ hhex
  have hgroups := @hform _ _ hchars
  have hbraced := @hform ('\x7b' :: (u.chars ++ ['\x7d'])) 38 (by simp [hchars])
  have hnamed := @hform (urnPrefix ++ u.chars) 45 (by simp [hchars, hurn])
  unfold ofChars? forms
  simp only [List.mem_cons, List.not_mem_nil, or_false]
  by_cases h32 : cs.length = 32
  · simp [h32, ofHex?_eq_some_iff, hgroups, hbraced, hnamed]
  · rw [if_neg h32]
    by_cases h36 : cs.length = 36
    · simp [h36, ofGroups?_eq_some_iff, hplain, hbraced, hnamed]
    · rw [if_neg h36]
      by_cases h38 : cs.length = 38
      · simp [h38, braced_iff, hplain, hgroups, hnamed]
      · rw [if_neg h38]
        by_cases h45 : cs.length = 45
        · simp [h45, named_iff, hplain, hgroups, hbraced]
        · simp [h45, hplain h32, hgroups h36, hbraced h38, hnamed h45]

/-- **A text is read as a UUID** exactly if it spells it. -/
theorem parse_ok_iff (text : String) (u : Uuid) : parse text = .ok u ↔ u.SpelledBy text := by
  unfold SpelledBy
  rw [← ofChars?_eq_some_iff]
  unfold parse
  cases ofChars? text.toList <;> simp

/-- No text spells two UUIDs. -/
theorem SpelledBy.unique {u v : Uuid} {text : String} (hu : u.SpelledBy text)
    (hv : v.SpelledBy text) : u = v :=
  Except.ok.inj (((parse_ok_iff text u).2 hu).symm.trans ((parse_ok_iff text v).2 hv))

/-- The text that is written spells the UUID, too. -/
theorem spelledBy_text (u : Uuid) : u.SpelledBy u.text :=
  (parse_ok_iff u.text u).1 (parse_text u)

/-- **Of two UUIDs the written texts differ.** -/
theorem text_injective {u v : Uuid} (h : u.text = v.text) : u = v :=
  (spelledBy_text u).unique (h ▸ spelledBy_text v)

/-- A text has the form that is written: groups of 8, 4, 4, 4 and 12 digits in lower case, with
hyphens between them. -/
def IsWritten (text : String) : Prop :=
  ∃ a b c d e : List (Fin 16),
    [a.length, b.length, c.length, d.length, e.length] = groupLengths ∧
      text.toList = hexChars a ++ '-' :: (hexChars b ++ '-' :: (hexChars c ++ '-' ::
        (hexChars d ++ '-' :: hexChars e)))

/-- What is written is in the one form. -/
theorem isWritten_text (u : Uuid) : IsWritten u.text := by
  have hlen := u.length_eq
  refine ⟨u.digits.take 8, (u.digits.drop 8).take 4, (u.digits.drop 12).take 4,
    (u.digits.drop 16).take 4, u.digits.drop 20, ?_, ?_⟩
  · simp [hlen, groupLengths]
  · simp only [text, chars, String.toList_ofList, hexChars, List.map_take, List.map_drop]

end VideoProbe.Uuid
