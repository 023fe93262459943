import VideoProbe.Proofs.Gate
import VideoProbe.Proofs.Marks

/-!
# The parts of a web address

What counts as the address of a web resource is said of octets.  Here it is said of the text: it is
a scheme, an authority of ASCII, and a tail that opens with a mark, and before a `#` each part holds
certain characters only (`Parts`).  A text is such an address exactly if it can be cut in this way
and is not too long (`isWebAddress_iff_parts`).

Of such a text it can then be told what never stands before the `#`: no space and no control
character (`Parts.visible`).
-/

namespace VideoProbe.Http.Uri

open Text Text.Utf8

/-! ## Characters -/

/-- A character that ends the authority. -/
def isEnd (c : Char) : Bool :=
  c == '/' || c == '?' || c == '#'

/-- A character of an authority. -/
def isAuthorityChar (c : Char) : Bool :=
  c.toNat < 0x80 && (isMark (octet c) || c == '%')

/-- A character of a path. -/
def isPathChar (c : Char) : Bool :=
  0x80 ≤ c.toNat || isPathOctet (octet c)

/-- A character of a query. -/
def isQueryChar (c : Char) : Bool :=
  0x80 ≤ c.toNat || isQueryOctet (octet c)

/-- Characters of ASCII are told apart by their octets. -/
theorem octet_eq_iff {c m : Char} (hc : c.toNat < 0x80) (hm : m.toNat < 0x80) :
    octet c = octet m ↔ c = m := by
  constructor
  · intro h
    have hn := congrArg UInt8.toNat h
    rw [octet, octet, toNat_octet hc, toNat_octet hm] at hn
    rw [← Char.ofNat_toNat c, ← Char.ofNat_toNat m, hn]
  · exact fun h => h ▸ rfl

/-- One mark of ASCII. -/
theorem sameMarks_ne {m : Char} (hm : m.toNat < 0x80) :
    SameMarks (· != octet m) (· != m) where
  ascii c hc := by
    rw [Bool.eq_iff_iff, bne_iff_ne, bne_iff_ne, ne_eq, ne_eq, octet_eq_iff hc hm]
  octets b hb := by
    refine bne_iff_ne.2 fun h => ?_
    rw [h, octet, toNat_octet hm] at hb
    omega
  chars c hc := bne_iff_ne.2 fun h => by rw [h] at hc; omega

/-- The marks that end an authority. -/
theorem sameMarks_end : SameMarks (!endsAuthority ·) (!isEnd ·) where
  ascii c hc := ascii_forall (P := fun c => (!isEnd c) = !endsAuthority (octet c))
    (by decide +kernel) hc
  octets b hb := octet_forall (P := fun b => 0x80 ≤ b.toNat → (!endsAuthority b) = true)
    (by decide +kernel) b hb
  chars c hc := by
    have hne : ∀ m : Char, m.toNat < 0x80 → (c == m) = false := fun m hm =>
      beq_eq_false_iff_ne.2 fun h => absurd (h ▸ hc) (Nat.not_le.2 hm)
    rw [isEnd, hne '/' (by decide), hne '?' (by decide), hne '#' (by decide)]
    rfl

/-- The marks of a path, among which is everything beyond ASCII. -/
theorem sameMarks_path : SameMarks isPathOctet isPathChar where
  ascii c hc := by rw [isPathChar, decide_eq_false (Nat.not_le.2 hc), Bool.false_or]
  octets b hb := octet_forall (P := fun b => 0x80 ≤ b.toNat → isPathOctet b = true)
    (by decide +kernel) b hb
  chars c hc := by rw [isPathChar, decide_eq_true hc, Bool.true_or]

/-- The marks of a query, likewise. -/
theorem sameMarks_query : SameMarks isQueryOctet isQueryChar where
  ascii c hc := by rw [isQueryChar, decide_eq_false (Nat.not_le.2 hc), Bool.false_or]
  octets b hb := octet_forall (P := fun b => 0x80 ≤ b.toNat → isQueryOctet b = true)
    (by decide +kernel) b hb
  chars c hc := by rw [isQueryChar, decide_eq_true hc, Bool.true_or]

/-! ## The authority -/

/-- Every octet of an authority is a mark or a percent sign. -/
theorem octet_of_step {s s' : AuthorityScan} {b : UInt8} (h : s.step b = some s') :
    isMark b = true ∨ b = octet '%' := by
  by_cases hmark : isMark b = true
  · exact Or.inl hmark
  · refine Or.inr (Classical.byContradiction fun hpercent => ?_)
    -- What is no mark is none of the octets that count, and not passed over either.
    have hne : ∀ m, isMark m = true → b ≠ m := fun m hm h => hmark (h ▸ hm)
    unfold AuthorityScan.step at h
    rw [if_neg (hne 0x3A rfl), if_neg (hne 0x5B rfl), if_neg (hne 0x5D rfl), if_neg (hne 0x40 rfl),
      if_neg (show b ≠ 0x25 from hpercent), if_neg hmark] at h
    exact nomatch h

/-- What has been scanned to the end held nothing but marks of an authority and percent signs. -/
theorem octets_of_scan {bs : List UInt8} {s s' : AuthorityScan}
    (h : bs.foldlM AuthorityScan.step s = some s') :
    ∀ b ∈ bs, isMark b = true ∨ b = octet '%' := by
  induction bs generalizing s with
  | nil => simp
  | cons b bs ih =>
    rw [List.foldlM_cons] at h
    obtain ⟨s1, hstep, hrest⟩ := Option.bind_eq_some_iff.1 h
    exact List.forall_mem_cons.2 ⟨octet_of_step hstep, ih hrest⟩

/-- An authority is a scan that went through. -/
theorem isAuthority_iff (bs : List UInt8) :
    isAuthority bs = true ↔
      bs ≠ [] ∧ ∃ s, bs.foldlM AuthorityScan.step {} = some s ∧ s.isAcceptable = true := by
  unfold isAuthority
  cases bs.foldlM AuthorityScan.step {} <;> cases bs <;> simp

/-- An authority is text of ASCII. -/
theorem chars_of_authority {cs : List Char} (h : isAuthority (encode cs) = true) :
    ∀ c ∈ cs, isAuthorityChar c = true := by
  obtain ⟨-, s, hscan, -⟩ := (isAuthority_iff _).1 h
  have hoctets := octets_of_scan hscan
  have hlow : ∀ b, isMark b = true ∨ b = octet '%' → b.toNat < 0x80 :=
    octet_forall (by decide +kernel)
  have hascii := ascii_of_encode fun b hb => hlow b (hoctets b hb)
  intro c hc
  have hmem : octet c ∈ encode cs := by
    rw [encode_ascii hascii]
    exact List.mem_map_of_mem hc
  unfold isAuthorityChar
  rw [decide_eq_true (hascii c hc), Bool.true_and, Bool.or_eq_true, beq_iff_eq,
    ← octet_eq_iff (hascii c hc) (by decide)]
  exact hoctets _ hmem

/-- These are all of ASCII. -/
theorem lt_of_authority {c : Char} (h : isAuthorityChar c = true) : c.toNat < 0x80 := by
  unfold isAuthorityChar at h
  rw [Bool.and_eq_true] at h
  exact of_decide_eq_true h.1

/-! ## The scheme -/

/-- An octet of ASCII in lower case. -/
def lowerOctet (b : UInt8) : UInt8 :=
  if 0x41 ≤ b && b ≤ 0x5A then b + 0x20 else b

/-- Lower case does not lead into ASCII from beyond. -/
theorem lowerOctet_lt : ∀ b, (lowerOctet b).toNat < 0x80 → b.toNat < 0x80 :=
  octet_forall (by decide +kernel)

/-- In ASCII the lower case of an octet is that of its character. -/
theorem lowerOctet_octet {c : Char} (hc : c.toNat < 0x80) :
    lowerOctet (octet c) = octet c.toLower :=
  ascii_forall (P := fun c => lowerOctet (octet c) = octet c.toLower) (by decide +kernel) hc

theorem lt_of_toLower {c : Char} (h : c.toLower.toNat < 0x80) : c.toNat < 0x80 :=
  Nat.lt_of_not_le fun hle => by
    rw [toLower_of_le hle] at h
    omega

theorem ofNat_octet {c : Char} (hc : c.toNat < 0x80) : Char.ofNat (octet c).toNat = c := by
  rw [octet, toNat_octet hc, Char.ofNat_toNat]

/-- Texts of ASCII are the same if their octets are. -/
theorem map_octet_injective {cs ds : List Char} (hc : ∀ c ∈ cs, c.toNat < 0x80)
    (hd : ∀ d ∈ ds, d.toNat < 0x80) (h : cs.map octet = ds.map octet) : cs = ds := by
  have hback : ∀ xs : List Char, (∀ x ∈ xs, x.toNat < 0x80) →
      (xs.map octet).map (fun b => Char.ofNat b.toNat) = xs := by
    intro xs hx
    rw [List.map_map]
    exact (List.map_congr_left fun x hmem => ofNat_octet (hx x hmem)).trans (List.map_id xs)
  rw [← hback cs hc, h, hback ds hd]

/-- Octets that are text of ASCII in either case are the characters of this text. -/
theorem start_of_octets {cs pre : List Char} (hpre : ∀ c ∈ pre, c.toNat < 0x80)
    (h : ((encode cs).take pre.length).map lowerOctet = pre.map octet) :
    (cs.take pre.length).map Char.toLower = pre ∧
      (encode cs).drop pre.length = encode (cs.drop pre.length) := by
  have hlen : pre.length ≤ (encode cs).length := by
    have hlengths := congrArg List.length h
    rw [List.length_map, List.length_map, List.length_take] at hlengths
    omega
  -- In either case the octets are those of ASCII, so each is a character of its own.
  have hlow : ∀ b ∈ (encode cs).take pre.length, b.toNat < 0x80 := by
    intro b hb
    refine lowerOctet_lt b ?_
    have hmem : lowerOctet b ∈ pre.map octet := h ▸ List.mem_map_of_mem hb
    obtain ⟨c, hc, hcb⟩ := List.mem_map.1 hmem
    rw [← hcb, octet, toNat_octet (hpre c hc)]
    exact hpre c hc
  obtain ⟨htake, hdrop, hascii⟩ := encode_take_ascii hlen hlow
  refine ⟨map_octet_injective ?_ hpre ?_, hdrop⟩
  · intro c hc
    obtain ⟨d, hd, rfl⟩ := List.mem_map.1 hc
    exact toLower_lt (hascii d hd)
  · rw [htake, List.map_map] at h
    rw [← h, List.map_map]
    exact List.map_congr_left fun c hc => (lowerOctet_octet (hascii c hc)).symm

/-- And the characters are these octets. -/
theorem octets_of_start {start pre : List Char} (hpre : ∀ c ∈ pre, c.toNat < 0x80)
    (h : start.map Char.toLower = pre) (more : List Char) :
    ((encode (start ++ more)).take pre.length).map lowerOctet = pre.map octet ∧
      (encode (start ++ more)).drop pre.length = encode more := by
  have hascii : ∀ c ∈ start, c.toNat < 0x80 := fun c hc =>
    lt_of_toLower (hpre _ (h ▸ List.mem_map_of_mem hc))
  have hoctets : encode start = start.map octet := encode_ascii hascii
  have hlength : (start.map octet).length = pre.length := by
    rw [List.length_map, ← h, List.length_map]
  rw [encode_append, hoctets, List.take_left' hlength, List.drop_left' hlength]
  refine ⟨?_, rfl⟩
  rw [← h, List.map_map, List.map_map]
  exact List.map_congr_left fun c hc => lowerOctet_octet (hascii c hc)

/-- A text begins with a scheme exactly if its first characters are those of the scheme in either
case. -/
theorem afterScheme?_eq_some_iff {scheme : String}
    (hscheme : ∀ c ∈ (scheme ++ "://").toList, c.toNat < 0x80) (cs : List Char)
    (rest : List UInt8) :
    afterScheme? scheme (encode cs) = some rest ↔
      ∃ start more, cs = start ++ more ∧ start.map Char.toLower = (scheme ++ "://").toList ∧
        rest = encode more := by
  generalize hpre : (scheme ++ "://").toList = pre at hscheme
  -- The test compares octets in lower case; characters are compared below.
  have hafter : afterScheme? scheme (encode cs) =
      if ((encode cs).take pre.length).map lowerOctet = pre.map octet
        then some ((encode cs).drop pre.length) else none := by
    unfold afterScheme?
    rw [hpre]
    dsimp only
    rw [List.length_map]
    rfl
  rw [hafter, Option.ite_none_right_eq_some, Option.some.injEq]
  constructor
  · rintro ⟨hoctets, rfl⟩
    obtain ⟨hstart, hdrop⟩ := start_of_octets hscheme hoctets
    exact ⟨_, _, (List.take_append_drop pre.length cs).symm, hstart, hdrop⟩
  · rintro ⟨start, more, rfl, hstart, rfl⟩
    exact octets_of_start hscheme hstart more

/-! ## Parts -/

/-- A scheme of the web, and what divides it from the rest. -/
def IsStart (start : List Char) : Prop :=
  start.map Char.toLower = "http://".toList ∨ start.map Char.toLower = "https://".toList

/-- What stands before a `#`. -/
def beforeFragment (cs : List Char) : List Char :=
  cs.takeWhile (· != '#')

/-- The parts of a web address: its scheme, its authority, and what follows these. -/
structure Parts (start auth tail : List Char) : Prop where
  start : IsStart start
  authority : isAuthority (encode auth) = true
  host : Uri.host (encode auth) ≠ []
  opens : ∀ c r, tail = c :: r → isEnd c = true
  path : ((beforeFragment tail).takeWhile (· != '?')).all isPathChar = true
  query : (((beforeFragment tail).dropWhile (· != '?')).drop 1).all isQueryChar = true

/-- The path and the query are read alike. -/
theorem isPathAndQuery_encode (cs : List Char) :
    isPathAndQuery (encode cs) =
      (((beforeFragment cs).takeWhile (· != '?')).all isPathChar &&
        (((beforeFragment cs).dropWhile (· != '?')).drop 1).all isQueryChar) := by
  have hmark : SameMarks (· != (0x3F : UInt8)) (· != '?') := sameMarks_ne (m := '?') (by decide)
  have hkept : (encode cs).takeWhile (· != 0x23) = encode (beforeFragment cs) :=
    (sameMarks_ne (m := '#') (by decide)).takeWhile_encode cs
  unfold isPathAndQuery
  rw [hkept]
  dsimp only
  rw [hmark.takeWhile_encode, hmark.dropWhile_encode, sameMarks_path.all_encode]
  congr 1
  -- Behind the path stands a question mark or nothing.
  cases hquery : (beforeFragment cs).dropWhile (· != '?') with
  | nil => rfl
  | cons c r =>
    obtain rfl : c = '?' := by simpa using head_of_dropWhile hquery
    exact sameMarks_query.all_encode r

/-- No character of an authority ends it. -/
theorem not_isEnd_of_authority {auth : List Char} (h : isAuthority (encode auth) = true) :
    ∀ c ∈ auth, (!isEnd c) = true := by
  intro c hc
  have hchar := chars_of_authority h c hc
  exact ascii_forall (P := fun c => isAuthorityChar c = true → (!isEnd c) = true)
    (by decide +kernel) (lt_of_authority hchar) hchar

/-- Where the parts are put together, the authority is found again. -/
theorem cut_authority {auth tail : List Char} (h : isAuthority (encode auth) = true)
    (hopens : ∀ c r, tail = c :: r → isEnd c = true) :
    (auth ++ tail).takeWhile (!isEnd ·) = auth ∧ (auth ++ tail).dropWhile (!isEnd ·) = tail :=
  cut_append (not_isEnd_of_authority h) fun c r heq => by rw [hopens c r heq]; rfl

/-- **A text is a web address** exactly if it has these parts and is not too long. -/
theorem isWebAddress_iff_parts (text : String) :
    IsWebAddress text ↔ (Text.Utf8.ofString text).length ≤ maxLength ∧
      ∃ start auth tail, text.toList = start ++ (auth ++ tail) ∧ Parts start auth tail := by
  have hschemes : ∀ scheme, scheme = "http" ∨ scheme = "https" →
      ∀ c ∈ (scheme ++ "://").toList, c.toNat < 0x80 := by
    rintro scheme (rfl | rfl) <;> exact forall_mem_of_all (by decide)
  -- Cut as octets and cut as characters the parts are the same, since all the marks are ASCII.
  have hauthority : ∀ more, authorityOf (encode more) = encode (more.takeWhile (!isEnd ·)) :=
    sameMarks_end.takeWhile_encode
  have htail : ∀ more,
      (encode more).dropWhile (!endsAuthority ·) = encode (more.dropWhile (!isEnd ·)) :=
    sameMarks_end.dropWhile_encode
  unfold IsWebAddress Text.Utf8.ofString
  constructor
  · rintro ⟨scheme, rest, hscheme, hrest, hhierarchy, hhost, hlen⟩
    obtain ⟨start, more, htext, hstart, rfl⟩ :=
      (afterScheme?_eq_some_iff (hschemes scheme hscheme) _ _).1 hrest
    unfold isHierarchy at hhierarchy
    rw [hauthority, htail, isPathAndQuery_encode, Bool.and_eq_true, Bool.and_eq_true] at hhierarchy
    rw [hauthority] at hhost
    obtain ⟨hauth, hpath, hquery⟩ := hhierarchy
    refine ⟨hlen, start, more.takeWhile (!isEnd ·), more.dropWhile (!isEnd ·), ?_, ?_⟩
    · rw [List.takeWhile_append_dropWhile, htext]
    · refine ⟨?_, hauth, hhost, fun c r h => ?_, hpath, hquery⟩
      · rcases hscheme with rfl | rfl
        · exact Or.inl hstart
        · exact Or.inr hstart
      · simpa using head_of_dropWhile h
  · rintro ⟨hlen, start, auth, tail, htext, hparts⟩
    -- Parts that are given are found again, as the authority goes on to the first mark behind it.
    obtain ⟨htake, hdrop⟩ := cut_authority hparts.authority hparts.opens
    have hrest : ∀ scheme, scheme = "http" ∨ scheme = "https" →
        start.map Char.toLower = (scheme ++ "://").toList →
        afterScheme? scheme (encode text.toList) = some (encode (auth ++ tail)) := by
      intro scheme hscheme hstart
      exact (afterScheme?_eq_some_iff (hschemes scheme hscheme) _ _).2
        ⟨start, auth ++ tail, htext, hstart, rfl⟩
    have hhierarchy : isHierarchy (encode (auth ++ tail)) = true := by
      unfold isHierarchy
      rw [hauthority, htail, htake, hdrop, isPathAndQuery_encode, hparts.authority, hparts.path,
        hparts.query]
      rfl
    have hhost : Uri.host (authorityOf (encode (auth ++ tail))) ≠ [] := by
      rw [hauthority, htake]
      exact hparts.host
    rcases hparts.start with hstart | hstart
    · exact ⟨"http", _, Or.inl rfl, hrest "http" (Or.inl rfl) hstart, hhierarchy, hhost, hlen⟩
    · exact ⟨"https", _, Or.inr rfl, hrest "https" (Or.inr rfl) hstart, hhierarchy, hhost, hlen⟩

/-! ## What is visible -/

/-- A character that is neither white space nor a control character of ASCII. -/
def IsVisible (c : Char) : Prop :=
  0x20 < c.toNat

/-- Everything beyond ASCII counts as visible. -/
theorem isVisible_of_le {c : Char} (h : 0x80 ≤ c.toNat) : IsVisible c :=
  Nat.lt_of_lt_of_le (by decide) h

theorem visible_of_path {c : Char} (h : isPathChar c = true) : IsVisible c := by
  rcases Nat.lt_or_ge c.toNat 0x80 with hc | hc
  · exact ascii_forall (P := fun c => isPathChar c = true → 0x20 < c.toNat) (by decide +kernel) hc h
  · exact isVisible_of_le hc

theorem visible_of_query {c : Char} (h : isQueryChar c = true) : IsVisible c := by
  rcases Nat.lt_or_ge c.toNat 0x80 with hc | hc
  · exact ascii_forall (P := fun c => isQueryChar c = true → 0x20 < c.toNat)
      (by decide +kernel) hc h
  · exact isVisible_of_le hc

/-- A character of a scheme or an authority is visible, and no `#`. -/
theorem visible_of_start {start : List Char} (h : IsStart start) :
    ∀ c ∈ start, IsVisible c ∧ (c != '#') = true := by
  intro c hc
  have hmem : c.toLower ∈ "https://".toList := by
    rcases h with h | h
    · have hlower : c.toLower ∈ "http://".toList := h ▸ List.mem_map_of_mem hc
      exact forall_mem_of_all (P := (· ∈ "https://".toList)) (by decide) _ hlower
    · exact h ▸ List.mem_map_of_mem hc
  have hascii : c.toNat < 0x80 :=
    lt_of_toLower (forall_mem_of_all (P := (·.toNat < 0x80)) (by decide) _ hmem)
  exact ascii_forall (P := fun c => c.toLower ∈ "https://".toList →
    0x20 < c.toNat ∧ (c != '#') = true) (by decide +kernel) hascii hmem

theorem visible_of_authority {c : Char} (h : isAuthorityChar c = true) :
    IsVisible c ∧ (c != '#') = true :=
  ascii_forall (P := fun c => isAuthorityChar c = true → 0x20 < c.toNat ∧ (c != '#') = true)
    (by decide +kernel) (lt_of_authority h) h

variable {start auth tail : List Char}

/-- A `#` can only stand in the tail. -/
theorem Parts.beforeFragment_eq (h : Parts start auth tail) :
    beforeFragment (start ++ (auth ++ tail)) = start ++ (auth ++ beforeFragment tail) := by
  have hstart : ∀ c ∈ start, (c != '#') = true := fun c hc => (visible_of_start h.start c hc).2
  have hauth : ∀ c ∈ auth, (c != '#') = true := fun c hc =>
    (visible_of_authority (chars_of_authority h.authority c hc)).2
  unfold beforeFragment
  rw [List.takeWhile_append_of_pos hstart, List.takeWhile_append_of_pos hauth]

/-- **Before a `#` everything is visible.** -/
theorem Parts.visible (h : Parts start auth tail) :
    ∀ c ∈ beforeFragment (start ++ (auth ++ tail)), IsVisible c := by
  intro c hc
  rw [h.beforeFragment_eq, List.mem_append, List.mem_append] at hc
  rcases hc with hc | hc | hc
  · exact (visible_of_start h.start c hc).1
  · exact (visible_of_authority (chars_of_authority h.authority c hc)).1
  · rw [← List.takeWhile_append_dropWhile (p := (· != '?')) (l := beforeFragment tail),
      List.mem_append] at hc
    rcases hc with hc | hc
    · exact visible_of_path (List.all_eq_true.1 h.path c hc)
    · -- What follows the path is a question mark and the characters of a query.
      have hquery := h.query
      cases hmark : (beforeFragment tail).dropWhile (· != '?') with
      | nil =>
        rw [hmark] at hc
        exact nomatch hc
      | cons m r =>
        rw [hmark] at hc hquery
        obtain rfl : m = '?' := by simpa using head_of_dropWhile hmark
        rcases List.mem_cons.1 hc with rfl | hc
        · exact (by decide : 0x20 < '?'.toNat)
        · exact visible_of_query (List.all_eq_true.1 hquery c hc)

end VideoProbe.Http.Uri
