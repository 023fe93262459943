import VideoProbe.Json.Record

/-!
# What is written is read

The text of a value, with anything after it, is read as the value, and the reader stops right where
the text ends.

A string is read back character by character, in whichever of three ways it was written (`Escaped`,
`stringLoop_escapeChar`).  An object is read back member by member: `Fills` says that its members,
in the order in which they stand, fill the draft of a record, and `Shape.readsBack` that the record
is read from the object.
-/

namespace VideoProbe.Json

/-- The octets of a value's text. -/
def octets (v : Json) : Octets :=
  Text.Utf8.encode v.chars

/-- The text of a tree, in octets. -/
theorem ofString_text (v : Json) : Text.Utf8.ofString v.text = v.octets := by
  simp only [Text.Utf8.ofString, Json.text, String.toList_ofList, octets]

/-! ## Strings -/

/-- A character that is not escaped begins with an octet that neither ends a string nor begins an
escape. -/
theorem encodeChar_plain {c : Char} (hquote : c ≠ '"') (hslash : c ≠ '\\') (h : 0x20 ≤ c.toNat) :
    ∃ b r, Text.Utf8.encodeChar c = b :: r ∧ b ≠ quoteMark ∧ b ≠ backslash ∧ ¬ b < 0x20 := by
  -- The three octets to be avoided are all below 80, and so is the character if its first is.
  have hof {n : Nat} (hn : n < 256) : (UInt8.ofNat n).toNat = n := UInt8.toNat_ofNat_of_lt' hn
  have havoid {b : UInt8} (hb : b.toNat = c.toNat ∨ 0x80 ≤ b.toNat) :
      b ≠ quoteMark ∧ b ≠ backslash ∧ ¬ b < 0x20 := by
    have hq : c.toNat ≠ 0x22 := fun hc => hquote (Char.toNat_inj.1 hc)
    have hs : c.toNat ≠ 0x5C := fun hc => hslash (Char.toNat_inj.1 hc)
    refine ⟨?_, ?_, ?_⟩
    · rintro rfl
      have hval : quoteMark.toNat = 0x22 := rfl
      omega
    · rintro rfl
      have hval : backslash.toNat = 0x5C := rfl
      omega
    · intro hlt
      have hval : b.toNat < 0x20 := hlt
      omega
  have hc : c.toNat < 0x110000 := by
    rcases c.valid with h | h
    · exact Nat.lt_trans h (by decide)
    · exact h.2
  unfold Text.Utf8.encodeChar
  dsimp only
  split
  · exact ⟨_, _, rfl, havoid (Or.inl (by rw [Text.Utf8.leadOctet, hof (by omega)]; omega))⟩
  · split
    · exact ⟨_, _, rfl, havoid (Or.inr (by rw [Text.Utf8.leadOctet, hof (by omega)]; omega))⟩
    · split
      · exact ⟨_, _, rfl, havoid (Or.inr (by rw [Text.Utf8.leadOctet, hof (by omega)]; omega))⟩
      · exact ⟨_, _, rfl, havoid (Or.inr (by rw [Text.Utf8.leadOctet, hof (by omega)]; omega))⟩

theorem hexValue?_hexDigit : ∀ n, n < 16 →
    hexValue? (UInt8.ofNat (Text.Quoted.hexDigit n).toNat) = some n := by
  decide

theorem encodeChar_hexDigit : ∀ n, n < 16 → Text.Utf8.encodeChar (Text.Quoted.hexDigit n) =
    [UInt8.ofNat (Text.Quoted.hexDigit n).toNat] := by
  decide

/-- A control character is read back from its number. -/
theorem readEscape_number {n : Nat} (hn : n < 0x20) (s : Octets) :
    readEscape (Text.Utf8.encode ['u', '0', '0', Text.Quoted.hexDigit (n / 16),
      Text.Quoted.hexDigit (n % 16)] ++ s) = .ok (Char.ofNat n, s) := by
  have hhigh := hexValue?_hexDigit (n / 16) (by omega)
  have hlow := hexValue?_hexDigit (n % 16) (by omega)
  have hoctets : Text.Utf8.encode ['u', '0', '0', Text.Quoted.hexDigit (n / 16),
      Text.Quoted.hexDigit (n % 16)] = [0x75, 0x30, 0x30,
        UInt8.ofNat (Text.Quoted.hexDigit (n / 16)).toNat,
        UInt8.ofNat (Text.Quoted.hexDigit (n % 16)).toNat] := by
    simp only [Text.Utf8.encode_cons, encodeChar_hexDigit _ (show n / 16 < 16 by omega),
      encodeChar_hexDigit _ (show n % 16 < 16 by omega)]
    rfl
  have hzero : hexValue? 0x30 = some 0 := rfl
  have hnumber : ((0 * 16 + 0) * 16 + n / 16) * 16 + n % 16 = n := by omega
  -- Two zeros and two digits: the number is below thirty-two.
  have hfour : hexFour (0x30 :: 0x30 :: UInt8.ofNat (Text.Quoted.hexDigit (n / 16)).toNat ::
      UInt8.ofNat (Text.Quoted.hexDigit (n % 16)).toNat :: s) = .ok (n, s) := by
    simp only [hexFour, hzero, hhigh, hlow, hnumber]
  rw [hoctets]
  show numericEscape (0x30 :: 0x30 :: _ :: _ :: s) = _
  unfold numericEscape
  rw [hfour]
  dsimp only
  rw [if_neg (by omega), if_pos (by omega)]

/-- There are three ways to write a character: by a letter after a backslash, by its number after
one, and as it is. -/
inductive Escaped (c : Char) : List Char → Prop
  | letter {l : Char} {b : UInt8} (hb : Text.Utf8.encodeChar l = [b])
      (hread : simpleEscape? b = some c) : Escaped c ['\\', l]
  | number (h : c.toNat < 0x20) : Escaped c ['\\', 'u', '0', '0',
      Text.Quoted.hexDigit (c.toNat / 16), Text.Quoted.hexDigit (c.toNat % 16)]
  | plain (hquote : c ≠ '"') (hslash : c ≠ '\\') (h : 0x20 ≤ c.toNat) : Escaped c [c]

/-- How a character of a string is written. -/
theorem escaped (c : Char) : Escaped c (escapeChar c) := by
  -- The characters with a letter of their own are among the first seven.
  have hletter : ∀ x ∈ ['"', '\\', '\x08', '\t', '\n', '\x0c', '\r'],
      c = x → Escaped c (escapeChar c) := by
    simp only [List.forall_mem_cons, List.not_mem_nil, false_imp_iff, implies_true, and_true]
    refine ⟨?_, ?_, ?_, ?_, ?_, ?_, ?_⟩ <;> rintro rfl <;> exact .letter rfl rfl
  by_cases hmem : c ∈ ['"', '\\', '\x08', '\t', '\n', '\x0c', '\r']
  · exact hletter c hmem rfl
  · simp only [List.mem_cons, List.not_mem_nil, or_false, not_or] at hmem
    obtain ⟨hquote, hslash, h1, h2, h3, h4, h5⟩ := hmem
    unfold escapeChar
    rw [if_neg hquote, if_neg hslash, if_neg h1, if_neg h2, if_neg h3, if_neg h4, if_neg h5]
    split
    · rename_i hcontrol
      exact .number hcontrol
    · rename_i hplain
      exact .plain hquote hslash (Nat.not_lt.1 hplain)

/-- One round of the loop takes an escape. -/
theorem stringLoop_escape {s rest : Octets} {c : Char} (h : readEscape s = .ok (c, rest))
    (fuel : Nat) (done : List Char) :
    stringLoop (fuel + 1) done none (backslash :: s) = stringLoop fuel (c :: done) none rest := by
  have hslash : backslash ≠ quoteMark := by decide
  rw [stringLoop, if_neg hslash, if_pos rfl, h]

/-- One character of a string is read back. -/
theorem stringLoop_escapeChar (fuel : Nat) (done : List Char) (c : Char) (s : Octets) :
    stringLoop (fuel + 1) done none (Text.Utf8.encode (escapeChar c) ++ s) =
      stringLoop fuel (c :: done) none s := by
  have hcases := escaped c
  generalize escapeChar c = cs at hcases ⊢
  -- An escape of one letter, an escape by its number, or the character itself.
  cases hcases with
  | @letter l b hb hread =>
    have hescape : readEscape (b :: s) = .ok (c, s) := by
      unfold readEscape
      dsimp only
      rw [hread]
    have hcons : Text.Utf8.encode ['\\', l] ++ s = backslash :: b :: s := by
      rw [Text.Utf8.encode_cons, Text.Utf8.encode_cons, hb]
      rfl
    rw [hcons]
    exact stringLoop_escape hescape fuel done
  | number hcontrol =>
    have hescape := readEscape_number hcontrol s
    rw [Char.ofNat_toNat] at hescape
    exact stringLoop_escape hescape fuel done
  | plain hquote hslash hplain =>
    obtain ⟨b, r, hb, hbquote, hbslash, hbcontrol⟩ := encodeChar_plain hquote hslash hplain
    have hnext := Text.Utf8.next?_encodeChar c s
    have hone : Text.Utf8.encode [c] = Text.Utf8.encodeChar c := by simp [Text.Utf8.encode]
    rw [hone]
    rw [hb] at hnext ⊢
    rw [List.cons_append] at hnext ⊢
    rw [stringLoop, if_neg hbquote, if_neg hbslash, if_neg hbcontrol, hnext]

/-- The characters of a string are read back, up to the quote that ends it. -/
theorem stringLoop_written (cs : List Char) (fuel : Nat) (done : List Char) (rest : Octets)
    (h : cs.length < fuel) :
    stringLoop fuel done none (Text.Utf8.encode (cs.flatMap escapeChar) ++ quoteMark :: rest) =
      .ok (done.reverse ++ cs, rest) := by
  induction cs generalizing fuel done with
  | nil =>
    obtain ⟨fuel, rfl⟩ : ∃ n, fuel = n + 1 := ⟨fuel - 1, by simp at h; omega⟩
    rw [List.append_nil]
    rfl
  | cons c cs ih =>
    rw [List.length_cons] at h
    obtain ⟨fuel, rfl⟩ : ∃ n, fuel = n + 1 := ⟨fuel - 1, by omega⟩
    rw [List.flatMap_cons, Text.Utf8.encode_append, List.append_assoc, stringLoop_escapeChar,
      ih fuel (c :: done) (by omega)]
    simp

/-- A character takes at least one octet, escaped or not. -/
theorem length_le_written (cs : List Char) :
    cs.length ≤ (Text.Utf8.encode (cs.flatMap escapeChar)).length := by
  induction cs with
  | nil => exact Nat.le_refl 0
  | cons c cs ih =>
    have hone : 0 < (Text.Utf8.encode (escapeChar c)).length := by
      refine List.length_pos_iff.2 fun hnil => ?_
      have hread := stringLoop_escapeChar 0 [] c [quoteMark]
      rw [hnil] at hread
      exact nomatch hread
    rw [List.flatMap_cons, Text.Utf8.encode_append, List.length_append, List.length_cons]
    omega

/-- The octets of a string, between its quotes. -/
theorem octets_str (s : String) :
    (Json.str s).octets =
      quoteMark :: (Text.Utf8.encode (s.toList.flatMap escapeChar) ++ [quoteMark]) := by
  show Text.Utf8.encode ('"' :: (s.toList.flatMap escapeChar ++ ['"'])) = _
  rw [Text.Utf8.encode_cons, Text.Utf8.encode_append]
  rfl

/-- **A string is read back**, after the quote that opens it. -/
theorem readString_written (s : String) (fuel : Nat) (rest : Octets)
    (h : (Json.str s).octets.length < fuel) :
    readString fuel (Text.Utf8.encode (s.toList.flatMap escapeChar) ++ quoteMark :: rest) =
      .ok (s, rest) := by
  have hlen := length_le_written s.toList
  rw [octets_str, List.length_cons, List.length_append] at h
  have hchars := stringLoop_written s.toList fuel [] rest (by omega)
  unfold readString readChars
  rw [hchars]
  simp

/-! ## Values -/

/-- The octets after a value end it: there are none, or the first one is none of the value. -/
def Ends (rest : Octets) : Prop :=
  ∀ b r, rest = b :: r → b = comma ∨ b = closeList ∨ b = closeObject

/-- A decoder reads a value from the text of a tree, in which some levels stand inside each other,
and stops where the text ends. -/
def Decoder.ReadsBack (d : Decoder α) (levels : Nat) (v : Json) (a : α) : Prop :=
  ∀ nesting fuel rest, levels ≤ nesting → v.octets.length < fuel → Ends rest →
    d.read nesting fuel (v.octets ++ rest) = .ok (a, rest)

/-- With more levels it is read back as well. -/
theorem Decoder.ReadsBack.mono {d : Decoder α} {levels levels' : Nat} {v : Json} {a : α}
    (h : d.ReadsBack levels v a) (hle : levels ≤ levels') : d.ReadsBack levels' v a :=
  fun nesting fuel rest hlevels => h nesting fuel rest (Nat.le_trans hle hlevels)

/-- A text that spells a value is read as the value. -/
theorem Decoder.readsBack_spelled {parse : String → Except String α} {s : String} {a : α}
    (expected : String) (h : parse s = .ok a) :
    (Decoder.spelled expected parse).ReadsBack 0 (.str s) a := by
  intro nesting fuel rest _ hfuel _
  have hread := readString_written s fuel rest hfuel
  have hopens : (Json.str s).octets ++ rest =
      quoteMark :: (Text.Utf8.encode (s.toList.flatMap escapeChar) ++ quoteMark :: rest) := by
    rw [octets_str, List.cons_append, List.append_assoc, List.singleton_append]
  have hskip (r : Octets) : skipBlank (quoteMark :: r) = quoteMark :: r := rfl
  unfold Decoder.spelled
  dsimp only
  rw [hopens, hskip]
  dsimp only
  rw [if_pos rfl, hread]
  dsimp only
  rw [h]

/-- The whole text of a value is read. -/
theorem Decoder.ReadsBack.ofOctets {d : Decoder α} {levels : Nat} {v : Json} {a : α}
    (h : d.ReadsBack levels v a) (hlevels : levels ≤ nestingLimit) :
    d.ofOctets v.octets = .ok a := by
  have hread := h nestingLimit (v.octets.length + 1) [] hlevels (Nat.lt_succ_self _)
    (fun b r hnil => nomatch hnil)
  rw [List.append_nil] at hread
  unfold Decoder.ofOctets
  rw [hread]
  rfl

/-! ## Records -/

/-- A field reads its value from the text of a tree into a draft. -/
def Field.ReadsBack (f : Field δ) (levels : Nat) (v : Json) (before after : δ) : Prop :=
  ∀ nesting fuel rest, levels ≤ nesting → v.octets.length < fuel → Ends rest →
    f.read nesting before fuel (v.octets ++ rest) = .ok (after, rest)

/-- A field is read back if its value is. -/
theorem Field.readsBack_of {d : Decoder β} {levels : Nat} {v : Json} {b : β}
    (h : d.ReadsBack levels v b) (name : String) (get : δ → Option β) (set : β → δ → δ)
    (omissible : Bool) (draft : δ) :
    (Field.of name d get set omissible).ReadsBack levels v draft (set b draft) := by
  intro nesting fuel rest hlevels hfuel hends
  unfold Field.of
  dsimp only
  rw [h nesting fuel rest hlevels hfuel hends]

/-- The members of an object, in the order in which they stand, fill a draft. -/
inductive Fills (shape : Shape δ α) (levels : Nat) : List (String × Json) → δ → δ → Prop
  | nothing (d : δ) : Fills shape levels [] d d
  | member {name : String} {v : Json} {members : List (String × Json)} {d d' d'' : δ} {f : Field δ}
      (hfield : shape.field? name = some f) (hunset : f.isSet d = false)
      (hread : f.ReadsBack levels v d d') (hrest : Fills shape levels members d' d'') :
      Fills shape levels ((name, v) :: members) d d''

/-- A field that was not set is filled by its member. -/
theorem fills_field {shape : Shape δ α} {levels : Nat} {name : String} {d : Decoder β}
    {get : δ → Option β} {set : β → δ → δ} {omissible : Bool}
    (hfield : shape.field? name = some (.of name d get set omissible))
    {before after : δ} (hunset : (get before).isSome = false) {v : Json} {b : β}
    (hread : d.ReadsBack levels v b) (hset : set b before = after) :
    Fills shape levels [(name, v)] before after := by
  have hfill := Field.readsBack_of hread name get set omissible before
  rw [hset] at hfill
  exact .member hfield hunset hfill (.nothing after)

/-- Some members fill some fields, and others fill others. -/
theorem Fills.append {shape : Shape δ α} {levels : Nat} {ms ms' : List (String × Json)}
    {d d' d'' : δ} (h : Fills shape levels ms d d') (h' : Fills shape levels ms' d' d'') :
    Fills shape levels (ms ++ ms') d d'' := by
  induction h with
  | nothing d => exact h'
  | member hfield hunset hread _ ih => exact .member hfield hunset hread (ih h')

/-- The octets of the members after the first. -/
def memberOctets (members : List (String × Json)) : Octets :=
  Text.Utf8.encode (membersChars members)

/-- The next member stands behind a comma. -/
theorem memberOctets_cons (name : String) (v : Json) (members : List (String × Json)) :
    memberOctets ((name, v) :: members) =
      comma :: ((Json.str name).octets ++ colon :: (v.octets ++ memberOctets members)) := by
  show Text.Utf8.encode (',' :: (stringChars name ++ ':' :: (v.chars ++ membersChars members))) = _
  rw [Text.Utf8.encode_cons, Text.Utf8.encode_append, Text.Utf8.encode_cons,
    Text.Utf8.encode_append]
  rfl

/-- The first member stands behind the brace, and what follows it has the form of later members. -/
theorem octets_object_cons (name : String) (v : Json) (members : List (String × Json)) :
    (Json.object ((name, v) :: members)).octets =
      openObject :: ((Json.str name).octets ++
        colon :: (v.octets ++ (memberOctets members ++ [closeObject]))) := by
  show Text.Utf8.encode ('\x7b' :: (stringChars name ++ ':' :: (v.chars ++
    (membersChars members ++ ['\x7d'])))) = _
  rw [Text.Utf8.encode_cons, Text.Utf8.encode_append, Text.Utf8.encode_cons,
    Text.Utf8.encode_append, Text.Utf8.encode_append]
  rfl

/-- Behind a member there is a comma or the end of the object. -/
theorem ends_members (members : List (String × Json)) (rest : Octets) :
    Ends (memberOctets members ++ closeObject :: rest) := by
  intro b r h
  cases members with
  | nil =>
    obtain ⟨rfl, -⟩ := List.cons.inj h
    exact Or.inr (Or.inr rfl)
  | cons m members =>
    rw [memberOctets_cons] at h
    obtain ⟨rfl, -⟩ := List.cons.inj h
    exact Or.inl rfl

/-- Another member follows, behind a comma unless it is the first. -/
theorem nextMember_written (first : Bool) (name : String) (s : Octets) :
    nextMember first ((if first then [] else [comma]) ++ ((Json.str name).octets ++ s)) =
      .ok (true, Text.Utf8.encode (name.toList.flatMap escapeChar) ++ quoteMark :: s) := by
  rw [octets_str]
  simp only [List.cons_append, List.append_assoc, List.nil_append]
  cases first <;> rfl

/-- One round of the loop takes one member, behind a comma unless it is the first. -/
theorem membersLoop_member {shape : Shape δ α} {levels nesting fuel : Nat} {name : String}
    {v : Json} {d d' : δ} {f : Field δ} (hfield : shape.field? name = some f)
    (hunset : f.isSet d = false) (hread : f.ReadsBack levels v d d') (hlevels : levels ≤ nesting)
    (hname : (Json.str name).octets.length < fuel) (hvalue : v.octets.length < fuel)
    {more : Octets} (hends : Ends more) (first : Bool) (rounds : Nat) :
    shape.membersLoop nesting fuel (rounds + 1) first d ((if first then [] else [comma]) ++
        ((Json.str name).octets ++ colon :: (v.octets ++ more))) =
      shape.membersLoop nesting fuel rounds false d' more := by
  have hstring := readString_written name fuel (colon :: (v.octets ++ more)) hname
  have hcolon : takeColon (colon :: (v.octets ++ more)) = .ok ((), v.octets ++ more) := rfl
  have hnext := nextMember_written first name (colon :: (v.octets ++ more))
  rw [Shape.membersLoop, hnext]
  dsimp only
  rw [hstring]
  dsimp only
  rw [hfield]
  dsimp only
  rw [hunset, if_neg Bool.false_ne_true, hcolon]
  dsimp only
  rw [hread nesting fuel more hlevels hvalue hends]

/-- A member takes at least one octet. -/
theorem length_le_memberOctets (members : List (String × Json)) :
    members.length ≤ (memberOctets members).length := by
  induction members with
  | nil => exact Nat.le_refl 0
  | cons m members ih =>
    rw [memberOctets_cons, List.length_cons, List.length_cons, List.length_append, List.length_cons,
      List.length_append]
    omega

/-- The members after the first are read back. -/
theorem membersLoop_fills {shape : Shape δ α} {levels nesting fuel : Nat}
    {members : List (String × Json)} {d d' : δ} (h : Fills shape levels members d d')
    (hlevels : levels ≤ nesting) (hfuel : (memberOctets members).length < fuel) (rounds : Nat)
    (hrounds : members.length < rounds) (rest : Octets) :
    shape.membersLoop nesting fuel rounds false d (memberOctets members ++ closeObject :: rest) =
      .ok (d', closeObject :: rest) := by
  induction h generalizing rounds with
  | nothing d =>
    obtain ⟨rounds, rfl⟩ : ∃ n, rounds = n + 1 := ⟨rounds - 1, by simp at hrounds; omega⟩
    rfl
  | @member name v members d d1 d2 f hfield hunset hread hrest ih =>
    rw [List.length_cons] at hrounds
    rw [memberOctets_cons] at hfuel ⊢
    simp only [List.length_cons, List.length_append] at hfuel
    simp only [List.cons_append, List.append_assoc]
    obtain ⟨rounds, rfl⟩ : ∃ n, rounds = n + 1 := ⟨rounds - 1, by omega⟩
    exact (membersLoop_member hfield hunset hread hlevels (by omega) (by omega)
      (ends_members members rest) false rounds).trans (ih (by omega) rounds (by omega))

/-- All members of an object are read back. -/
theorem membersLoop_object {shape : Shape δ α} {levels nesting fuel : Nat}
    {members : List (String × Json)} {d d' : δ} (h : Fills shape levels members d d')
    (hlevels : levels ≤ nesting) (hfuel : (Json.object members).octets.length < fuel)
    (rest : Octets) :
    ∃ s, (Json.object members).octets ++ rest = openObject :: s ∧
      shape.membersLoop nesting fuel fuel true d s = .ok (d', closeObject :: rest) := by
  cases h with
  | nothing d =>
    refine ⟨closeObject :: rest, rfl, ?_⟩
    obtain ⟨fuel, rfl⟩ : ∃ n, fuel = n + 1 := ⟨fuel - 1, by omega⟩
    rfl
  | @member name v members d d1 d2 f hfield hunset hread hrest =>
    have hmembers := length_le_memberOctets members
    rw [octets_object_cons] at hfuel ⊢
    simp only [List.length_cons, List.length_append, List.length_nil] at hfuel
    refine ⟨(Json.str name).octets ++ colon :: (v.octets ++ (memberOctets members ++
      closeObject :: rest)), ?_, ?_⟩
    · simp only [List.cons_append, List.append_assoc, List.nil_append]
    · obtain ⟨rounds, hrounds⟩ : ∃ n, fuel = n + 1 := ⟨fuel - 1, by omega⟩
      -- The first member stands behind the brace, all others behind a comma.
      have hfirst := membersLoop_member hfield hunset hread hlevels
        (show (Json.str name).octets.length < fuel by omega) (by omega)
        (ends_members members rest) true rounds
      have hloop := membersLoop_fills hrest hlevels
        (show (memberOctets members).length < fuel by omega) rounds (by omega) rest
      rw [← hrounds] at hfirst
      exact hfirst.trans hloop

/-- **A record is read back** from an object whose members fill it. -/
theorem Shape.readsBack {shape : Shape δ α} {levels : Nat} {members : List (String × Json)} {d : δ}
    {a : α} (h : Fills shape levels members shape.blank d) (hfinish : shape.finish d = .ok a) :
    shape.decoder.ReadsBack (levels + 1) (.object members) a := by
  intro nesting fuel rest hlevels hfuel _
  obtain ⟨inner, rfl⟩ : ∃ n, nesting = n + 1 := ⟨nesting - 1, by omega⟩
  obtain ⟨s, hs, hloop⟩ := membersLoop_object h (Nat.le_of_succ_le_succ hlevels) hfuel rest
  rw [hs]
  show enclosed closeObject endObject
    (shape.finishAt (shape.membersLoop inner fuel fuel true shape.blank s)) = _
  rw [hloop]
  unfold Shape.finishAt
  dsimp only
  rw [hfinish]
  rfl

end VideoProbe.Json
