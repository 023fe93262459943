import VideoProbe.Proofs.Basic
import VideoProbe.Proofs.PercentCodes
import VideoProbe.Url.Domain

/-!
# The short rules are lawful

The programs run with a short form of the rules of domains.  Of the characters of ASCII it says what
every form does, so whatever is proved from the laws of the rules holds of the programs.

A domain of ASCII is put into lower case (`flatMap_mapToLower`), and after that each of its labels
is kept as it is or refused (`labelToAscii?_eq`).  So what is put together from the labels is what
has been taken apart (`joined_splitAt`).
-/

namespace VideoProbe.Url

open Text.Utf8 (ascii_forall forall_mem_of_all toLower_lt)

/-! ## Parts -/

/-- Parts are put together again with what they were separated by. -/
theorem joined_splitAt (m : Char) (cs : List Char) :
    ((splitAt (· == m) cs).intersperse [m]).flatten = cs := by
  induction cs with
  | nil => rfl
  | cons c cs ih =>
    obtain ⟨part, parts, hparts⟩ := List.exists_cons_of_ne_nil (splitAt_ne_nil (· == m) cs)
    rw [hparts] at ih
    rw [splitAt, hparts]
    split
    · -- A new part begins here, and the mark before it is put back.
      rename_i hm
      rw [List.intersperse_cons_cons, List.flatten_cons, List.flatten_cons, ih, beq_iff_eq.1 hm]
      rfl
    · dsimp only
      cases parts with
      | nil =>
        rw [← ih]
        simp
      | cons part' parts =>
        rw [List.intersperse_cons_cons, List.flatten_cons] at ih ⊢
        rw [List.cons_append, ih]

/-- A part has no other characters than the whole. -/
theorem mem_of_splitAt {p : Char → Bool} {cs part : List Char} (h : part ∈ splitAt p cs) :
    ∀ c ∈ part, c ∈ cs := by
  induction cs generalizing part with
  | nil =>
    rw [splitAt, List.mem_singleton] at h
    simp [h]
  | cons d cs ih =>
    intro c hc
    rw [splitAt] at h
    split at h
    · rcases List.mem_cons.1 h with rfl | h
      · exact absurd hc List.not_mem_nil
      · exact List.mem_cons_of_mem _ (ih h c hc)
    · obtain ⟨first, parts, hparts⟩ := List.exists_cons_of_ne_nil (splitAt_ne_nil p cs)
      rw [hparts] at h ih
      dsimp only at h
      rcases List.mem_cons.1 h with rfl | h
      · rcases List.mem_cons.1 hc with rfl | hc
        · exact List.mem_cons_self
        · exact List.mem_cons_of_mem _ (ih List.mem_cons_self c hc)
      · exact List.mem_cons_of_mem _ (ih (List.mem_cons_of_mem _ h) c hc)

namespace Domain

/-! ## Letters -/

/-- In ASCII the lower case of a character is the usual one. -/
theorem mapToLower_ascii {c : Char} (h : c.toNat < 0x80) : mapToLower c = [c.toLower] :=
  ascii_forall (P := fun c => mapToLower c = [c.toLower]) (by decide +kernel) h

/-- Of ASCII only the letters are changed, and each into one. -/
theorem flatMap_mapToLower {cs : List Char} (h : ∀ c ∈ cs, c.toNat < 0x80) :
    cs.flatMap mapToLower = cs.map Char.toLower := by
  induction cs with
  | nil => rfl
  | cons c cs ih =>
    obtain ⟨hc, hcs⟩ := List.forall_mem_cons.1 h
    rw [List.flatMap_cons, mapToLower_ascii hc, ih hcs]
    rfl

/-- And the text stays in ASCII. -/
theorem forall_toLower_lt {cs : List Char} (h : ∀ c ∈ cs, c.toNat < 0x80) :
    ∀ c ∈ cs.map Char.toLower, c.toNat < 0x80 := by
  intro c hc
  obtain ⟨d, hd, rfl⟩ := List.mem_map.1 hc
  exact toLower_lt (h d hd)

/-! ## Labels -/

/-- A label in ASCII stays as it is, or is refused. -/
theorem labelToAscii?_eq {label out : List Char} (hlabel : ∀ c ∈ label, c.toNat < 0x80)
    (h : labelToAscii? label = some out) : out = label := by
  have hascii : (label.all fun c => decide (c.toNat < 0x80)) = true :=
    List.all_eq_true.2 fun c hc => decide_eq_true (hlabel c hc)
  unfold labelToAscii? at h
  rw [if_pos hascii] at h
  split at h
  · split at h
    · dsimp only at h
      split at h
      · exact (Option.some.inj h).symm
      · exact nomatch h
    · exact nomatch h
  · exact (Option.some.inj h).symm

/-- And one that is not marked is not refused. -/
theorem labelToAscii?_of_unmarked {label : List Char} (hlabel : ∀ c ∈ label, c.toNat < 0x80)
    (hunmarked : punycodeMark.isPrefixOf label = false) : labelToAscii? label = some label := by
  have hascii : (label.all fun c => decide (c.toNat < 0x80)) = true :=
    List.all_eq_true.2 fun c hc => decide_eq_true (hlabel c hc)
  unfold labelToAscii?
  rw [if_pos hascii, hunmarked]
  rfl

/-! ## The laws -/

/-- A delimiter stays what it is, and is forbidden. -/
theorem toAscii?_of_delimiter {cs : List Char} {m : Char} (hm : m ∈ delimiters) (hmem : m ∈ cs) :
    toAscii? cs = none := by
  have hmarks : ∀ m ∈ delimiters, mapToLower m = [m] ∧ isForbiddenInDomain m = true :=
    forall_mem_of_all (by decide +kernel)
  obtain ⟨hlower, hforbidden⟩ := hmarks m hm
  have hrefused : (cs.flatMap mapToLower).any isForbiddenInDomain = true :=
    List.any_eq_true.2
      ⟨m, List.mem_flatMap.2 ⟨m, hmem, hlower ▸ List.mem_singleton.2 rfl⟩, hforbidden⟩
  unfold toAscii?
  exact if_pos hrefused

/-- A domain of ASCII is put into lower case, label by label, and put together as it was. -/
theorem toAscii?_eq {cs ascii : List Char} (hcs : ∀ c ∈ cs, c.toNat < 0x80)
    (h : toAscii? cs = some ascii) : ascii = cs.map Char.toLower := by
  unfold toAscii? at h
  dsimp only at h
  rw [flatMap_mapToLower hcs] at h
  split at h
  · exact nomatch h
  · obtain ⟨labels, hlabels, rfl⟩ := Option.map_eq_some_iff.1 h
    obtain rfl := List.eq_of_mapM (fun label hlabel out hout => labelToAscii?_eq
      (fun c hc => forall_toLower_lt hcs c (mem_of_splitAt hlabel c hc)) hout) hlabels
    exact joined_splitAt '.' _

/-- And it is not refused, where nothing is forbidden and no label is marked. -/
theorem toAscii?_of_unmarked {cs : List Char} (hcs : ∀ c ∈ cs, c.toNat < 0x80)
    (hallowed : ∀ c ∈ cs, isForbiddenInDomain c = false) (hunmarked : IsUnmarked cs) :
    toAscii? cs = some (cs.map Char.toLower) := by
  -- What is not forbidden is not forbidden in lower case either.
  have hkept : (cs.map Char.toLower).any isForbiddenInDomain = false := by
    rw [List.any_eq_false]
    intro c hc
    obtain ⟨d, hd, rfl⟩ := List.mem_map.1 hc
    rw [ascii_forall (P := fun c => isForbiddenInDomain c.toLower = isForbiddenInDomain c)
      (by decide +kernel) (hcs d hd), hallowed d hd]
    exact Bool.false_ne_true
  have hlabels : (splitAt (· == '.') (cs.map Char.toLower)).mapM labelToAscii? =
      some (splitAt (· == '.') (cs.map Char.toLower)) :=
    List.mapM_of_fixed fun label hlabel => labelToAscii?_of_unmarked
      (fun c hc => forall_toLower_lt hcs c (mem_of_splitAt hlabel c hc)) (hunmarked label hlabel)
  unfold toAscii?
  dsimp only
  rw [flatMap_mapToLower hcs, hkept, if_neg Bool.false_ne_true, hlabels, Option.map_some,
    joined_splitAt]

end Domain

/-- **The short rules obey the laws.** -/
instance lawful_shortRules : LawfulDomainRules where
  no_delimiter {domain ascii} h c hc hm := by
    have hnone : DomainRules.toAscii? domain = none := Domain.toAscii?_of_delimiter hm hc
    rw [hnone] at h
    exact nomatch h
  ascii_eq := Domain.toAscii?_eq
  ascii_ok := Domain.toAscii?_of_unmarked

end VideoProbe.Url
