import VideoProbe.Proofs.AddressReading
import VideoProbe.Proofs.AuthorityScan

/-!
# How a host is written

The host of a URL is written again once it has been read, and it is written in a form that may stand
in a web address: plain characters, or groups and colons in brackets (`isHost_of_readable`).

Of a numeric address this is seen from how it is written.  The crux is the number of colons: an
address of eight groups leaves out a run of at least two zeros before it doubles a colon
(`longestZeros_le`), so there are eight at most (`coloned_eightGroupsText`).  A name keeps the
characters it was read from, in lower case, as long as these are plain (`toAscii?_of_plain`).  And
they are: a delimiter is found by the reader of a domain, whatever stands around it
(`not_mem_of_readDomain`), and the percent sign has been looked for at admission.

What the rules of domains make of a name is not known here beyond their laws (`LawfulDomainRules`).
These settle whether a plain host is read, unless one of its labels is in Punycode
(`readable_iff_of_unmarked`).
-/

namespace VideoProbe.Url

open Http.Uri (isPlain IsHost Parts)
open Text.Utf8 (ascii_forall forall_mem_of_all)

/-! ## Eight groups

Between the brackets of a host there may be plain characters and eight colons at most.  The text of
an address is made of groups joined by colons, in one piece or, around a run of zeros, in two.  So
the colons are counted along with what else may stand there (`IsColoned`), piece by piece. -/

/-- Plain characters, and no more than so many colons. -/
structure IsColoned (n : Nat) (cs : List Char) : Prop where
  chars : ∀ c ∈ cs, isPlain c = true ∨ c = ':'
  colons : cs.count ':' ≤ n

/-- What stands one behind the other has the colons of both. -/
theorem IsColoned.append {n m : Nat} {cs ds : List Char} (h : IsColoned n cs)
    (h' : IsColoned m ds) : IsColoned (n + m) (cs ++ ds) where
  chars c hc := (List.mem_append.1 hc).elim (h.chars c) (h'.chars c)
  colons := by
    rw [List.count_append]
    exact Nat.add_le_add h.colons h'.colons

/-- The bound may be raised. -/
theorem IsColoned.mono {n m : Nat} {cs : List Char} (h : IsColoned n cs) (hle : n ≤ m) :
    IsColoned m cs :=
  ⟨h.chars, Nat.le_trans h.colons hle⟩

/-- Plain characters are no colons. -/
theorem isColoned_of_plain {cs : List Char} (h : ∀ c ∈ cs, isPlain c = true) : IsColoned 0 cs :=
  ⟨fun c hc => Or.inl (h c hc), Nat.le_of_eq (Http.Uri.count_colon_of_plain h)⟩

/-- And without colons only plain characters are left. -/
theorem IsColoned.isPlain {cs : List Char} (h : IsColoned 0 cs) : ∀ c ∈ cs, isPlain c = true := by
  have hcolon : ':' ∉ cs := List.count_eq_zero.1 (Nat.le_zero.1 h.colons)
  exact fun c hc => (h.chars c hc).resolve_right fun heq => hcolon (heq ▸ hc)

/-- Plain texts that are joined have the colons of what they are joined by. -/
theorem coloned_intercalate {n : Nat} {separator : String}
    (hseparator : IsColoned n separator.toList) {texts : List String}
    (htexts : ∀ text ∈ texts, IsColoned 0 text.toList) :
    IsColoned (n * texts.length) (separator.intercalate texts).toList := by
  induction texts with
  | nil => exact isColoned_of_plain (by simp)
  | cons text texts ih =>
    obtain ⟨htext, htexts⟩ := List.forall_mem_cons.1 htexts
    -- The separator stands between two texts, so the last one has none behind it.
    cases texts with
    | nil =>
      rw [String.intercalate_singleton]
      exact htext.mono (Nat.zero_le _)
    | cons text' texts =>
      rw [String.intercalate_cons_cons, String.toList_append, String.toList_append]
      refine ((htext.append hseparator).append (ih htexts)).mono ?_
      rw [Nat.zero_add, List.length_cons (a := text), Nat.mul_succ, Nat.add_comm]

/-- The digits to the base sixteen are plain. -/
theorem isPlain_groupDigit : ∀ n, n < 16 → isPlain (groupDigit n) = true := by
  decide +kernel

/-- A group is written in such digits, without the zeros in front. -/
theorem isPlain_groupText (n : Nat) : ∀ c ∈ (groupText n).toList, isPlain c = true := by
  intro c hc
  unfold groupText at hc
  dsimp only at hc
  rw [String.toList_ofList] at hc
  obtain ⟨d, hd, rfl⟩ := List.mem_map.1 hc
  have hmem : d ∈ [n / 4096 % 16, n / 256 % 16, n / 16 % 16, n % 16] := by
    rcases List.mem_append.1 hd with h | h
    · exact List.mem_of_mem_take ((List.dropWhile_sublist _).subset h)
    · exact List.mem_of_mem_drop h
  refine isPlain_groupDigit d ?_
  simp only [List.mem_cons, List.not_mem_nil, or_false] at hmem
  omega

/-- Groups and the colons between them. -/
theorem coloned_groups (gs : List Nat) :
    IsColoned gs.length (":".intercalate (gs.map groupText)).toList := by
  have hcolon : IsColoned 1 ":".toList := ⟨forall_mem_of_all (by decide), by decide⟩
  refine (coloned_intercalate hcolon ?_).mono (by rw [List.length_map, Nat.one_mul])
  intro text htext
  obtain ⟨g, -, rfl⟩ := List.mem_map.1 htext
  exact isColoned_of_plain (isPlain_groupText g)

/-- A run of zeros lies within the groups, by induction on the groups that are left: `i` of them
have been passed, and the best run so far does not go beyond the last one. -/
theorem longestZeros_le (gs : List Nat) (best : Nat × Nat) (i : Nat)
    (h : best.1 + best.2 ≤ i + gs.length) :
    (longestZeros best i gs).1 + (longestZeros best i gs).2 ≤ i + gs.length := by
  induction gs generalizing best i with
  | nil => exact h
  | cons g gs ih =>
    have hrun : zeroRun (g :: gs) ≤ (g :: gs).length := (List.takeWhile_sublist _).length_le
    rw [List.length_cons] at h hrun ⊢
    have hbest := ih (if best.2 < zeroRun (g :: gs) then (i, zeroRun (g :: gs)) else best) (i + 1)
      (by split <;> omega)
    have hstep : longestZeros best i (g :: gs) = longestZeros
      (if best.2 < zeroRun (g :: gs) then (i, zeroRun (g :: gs)) else best) (i + 1) gs := rfl
    rw [hstep]
    exact Nat.le_trans hbest (by omega)

/-- The reader of such an address gives eight groups, also where a doubled colon stood for some. -/
theorem length_of_eightGroups {cs : List Char} {gs : List Nat} (h : eightGroups? cs = some gs) :
    gs.length = 8 := by
  unfold eightGroups? at h
  split at h
  · rw [Option.filter_eq_some_iff] at h
    simpa using h.2
  · split at h
    · split at h
      · rw [← Option.some.inj h]
        simp only [List.length_append, List.length_replicate]
        omega
      · exact nomatch h
    · exact nomatch h

/-- **An address of eight groups has eight colons at most.** -/
theorem coloned_eightGroupsText {gs : List Nat} (h : gs.length = 8) :
    IsColoned 8 (eightGroupsText gs).toList := by
  have hzeros := longestZeros_le gs (0, 0) 0 (Nat.zero_le _)
  unfold eightGroupsText
  dsimp only
  rcases hlongest : longestZeros (0, 0) 0 gs with ⟨start, run⟩
  rw [hlongest] at hzeros
  dsimp only at hzeros ⊢
  split
  · -- No run of zeros is left out: seven colons and one to spare.
    exact (coloned_groups gs).mono (Nat.le_of_eq h)
  · -- The two that stand for the run are not more than the groups that it has.
    have hgap : IsColoned 2 "::".toList := ⟨forall_mem_of_all (by decide), by decide⟩
    rw [String.toList_append, String.toList_append]
    refine (((coloned_groups _).append hgap).append (coloned_groups _)).mono ?_
    rw [List.length_take, List.length_drop]
    omega

/-! ## Four octets

Such an address is four numbers with dots between them.  Digits and dots are plain, and that is all
there is to show. -/

/-- A number is written in plain digits. -/
theorem isPlain_ofNat (n : Nat) : ∀ c ∈ (Decimal.ofNat n).toList, isPlain c = true := by
  intro c hc
  unfold Decimal.ofNat at hc
  rw [String.toList_ofList] at hc
  have hdigit := List.all_eq_true.1 (Decimal.all_isDigit_digits n) c hc
  have hlt : c.toNat < 0x80 := by
    simp only [Decimal.isDigit, Bool.and_eq_true, decide_eq_true_eq] at hdigit
    exact Nat.lt_of_le_of_lt (show c.toNat ≤ '9'.toNat from hdigit.2) (by decide)
  exact ascii_forall (P := fun c => Decimal.isDigit c = true → isPlain c = true) (by decide +kernel)
    hlt hdigit

/-- The dots between numbers are plain too. -/
theorem isPlain_octets (ns : List Nat) :
    ∀ c ∈ (".".intercalate (ns.map Decimal.ofNat)).toList, isPlain c = true := by
  have hdot : IsColoned 0 ".".toList := isColoned_of_plain (forall_mem_of_all (by decide))
  refine ((coloned_intercalate hdot ?_).mono (by rw [Nat.zero_mul])).isPlain
  intro text htext
  obtain ⟨n, -, rfl⟩ := List.mem_map.1 htext
  exact isColoned_of_plain (isPlain_ofNat n)

/-- **An address of four octets is written as a host.** -/
theorem isHost_fourOctetsText (n : Nat) : IsHost (fourOctetsText n).toList := by
  refine Or.inl ⟨?_, isPlain_octets _⟩
  unfold fourOctetsText
  rw [List.map_cons, List.map_cons, String.intercalate_cons_cons, String.toList_append,
    String.toList_append]
  simp

/-! ## Names

Any other host is a domain.  Where it is plain and none of its labels is in Punycode, the laws of
the rules say what becomes of it, its lower case.  Where some label is in Punycode they leave open
whether the domain is refused, but if it is not, it is its lower case there as well. -/

/-- In lower case a plain character stays plain. -/
theorem isPlain_toLower {c : Char} (h : isPlain c = true) : isPlain c.toLower = true :=
  ascii_forall (P := fun c => isPlain c = true → isPlain c.toLower = true) (by decide +kernel)
    (Http.Uri.lt_of_plain h) h

/-- A plain character is none that is forbidden in a domain. -/
theorem not_forbidden_of_plain {c : Char} (h : isPlain c = true) : isForbiddenInDomain c = false :=
  ascii_forall (P := fun c => isPlain c = true → isForbiddenInDomain c = false) (by decide +kernel)
    (Http.Uri.lt_of_plain h) h

/-- **A domain of plain characters** is its characters in lower case, or is refused. -/
theorem toAscii?_of_plain [DomainRules] [LawfulDomainRules] {cs ascii : List Char}
    (h : ∀ c ∈ cs, isPlain c = true) (hascii : DomainRules.toAscii? cs = some ascii) :
    ∀ c ∈ ascii, isPlain c = true := by
  obtain rfl := LawfulDomainRules.ascii_eq (fun c hc => Http.Uri.lt_of_plain (h c hc)) hascii
  intro c hc
  obtain ⟨d, hd, rfl⟩ := List.mem_map.1 hc
  exact isPlain_toLower (h d hd)

/-- Where there is no percent sign there is nothing to decode. -/
theorem decode_of_not_mem {bs : List UInt8} (h : ∀ b ∈ bs, b ≠ 0x25) :
    Text.Percent.decode bs = bs := by
  induction bs with
  | nil => rfl
  | cons b bs ih =>
    obtain ⟨hb, hbs⟩ := List.forall_mem_cons.1 h
    rw [Text.Percent.decode_cons_of_ne hb, ih hbs]

/-- A plain host is its own text after decoding, since the percent sign is not plain. -/
theorem decode_of_plain {cs : List Char} (h : ∀ c ∈ cs, isPlain c = true) :
    Text.Utf8.decode? (Text.Percent.decode (Text.Utf8.encode cs)) = some cs := by
  rw [decode_of_not_mem, Text.Utf8.decode?_encode]
  intro b hb
  rw [Text.Utf8.encode_ascii fun c hc => Http.Uri.lt_of_plain (h c hc)] at hb
  obtain ⟨c, hc, rfl⟩ := List.mem_map.1 hb
  intro hpercent
  have hlt := Http.Uri.lt_of_plain (h c hc)
  obtain rfl : c = '%' := (Http.Uri.octet_eq_iff hlt (by decide)).1 hpercent
  exact absurd (h '%' hc) (by decide)

/-- A plain host does not stand in brackets. -/
theorem not_open_of_plain {cs : List Char} (h : ∀ c ∈ cs, isPlain c = true) :
    cs.head? ≠ some '[' := by
  intro hhead
  obtain ⟨r, rfl⟩ := List.head?_eq_some_iff.1 hhead
  exact absurd (h '[' List.mem_cons_self) (by decide)

/-- What a domain of plain characters names is written as a host. -/
theorem isHost_of_ofAscii {ascii : List Char} {host : Host} (h : ∀ c ∈ ascii, isPlain c = true)
    (hread : Host.ofAscii ascii = .ok host) : IsHost host.text.toList := by
  unfold Host.ofAscii at hread
  split at hread
  · exact nomatch hread
  · rename_i hne
    split at hread
    · split at hread
      · rw [← Except.ok.inj hread]
        exact isHost_fourOctetsText _
      · exact nomatch hread
    · rw [← Except.ok.inj hread]
      unfold Host.text
      rw [String.toList_ofList]
      exact Or.inl ⟨by simpa using hne, h⟩

/-- What a host of plain characters is read as is written as a host. -/
theorem isHost_of_plain [DomainRules] [LawfulDomainRules] {cs : List Char} {host : Host}
    (h : ∀ c ∈ cs, isPlain c = true) (hread : Host.readDomain cs = .ok host) :
    IsHost host.text.toList := by
  unfold Host.readDomain at hread
  rw [if_neg (not_open_of_plain h), decode_of_plain h] at hread
  dsimp only at hread
  split at hread
  · exact nomatch hread
  · rename_i ascii hascii
    exact isHost_of_ofAscii (toAscii?_of_plain h hascii) hread

/-- **Only a label in Punycode is looked up.**  What any other host of plain characters is read as
is settled by its characters. -/
theorem readDomain_of_unmarked [DomainRules] [LawfulDomainRules] {cs : List Char}
    (h : ∀ c ∈ cs, isPlain c = true) (hunmarked : IsUnmarked cs) :
    Host.readDomain cs = Host.ofAscii (cs.map Char.toLower) := by
  have hascii : DomainRules.toAscii? cs = some (cs.map Char.toLower) :=
    LawfulDomainRules.ascii_ok (fun c hc => Http.Uri.lt_of_plain (h c hc))
      (fun c hc => not_forbidden_of_plain (h c hc)) hunmarked
  unfold Host.readDomain
  rw [if_neg (not_open_of_plain h), decode_of_plain h]
  dsimp only
  rw [hascii]

/-- And so is what is read from brackets. -/
theorem isHost_of_bracketed [DomainRules] {cs : List Char} {host : Host}
    (h : cs.head? = some '[') (hread : Host.readDomain cs = .ok host) :
    IsHost host.text.toList := by
  unfold Host.readDomain at hread
  rw [if_pos h] at hread
  unfold Host.readBracketed at hread
  split at hread
  · split at hread
    · rename_i gs hgs
      have hcoloned := coloned_eightGroupsText (length_of_eightGroups hgs)
      rw [← Except.ok.inj hread]
      refine Or.inr ⟨(eightGroupsText gs).toList, ?_, hcoloned.chars, hcoloned.colons⟩
      unfold Host.text
      rw [String.toList_append, String.toList_append]
      rfl
    · exact nomatch hread
  · exact nomatch hread

/-! ## Marks that no name holds

A host is decoded twice before it is a domain, from percent codes and from UTF-8, and then the rules
of domains are applied.  A delimiter comes through all of it unchanged, and no domain has one.  So a
host that was read has none either, which is how it is seen below that a readable host has no marks
but plain ones. -/

/-- An octet that is no part of an escaped one is not decoded away. -/
theorem mem_percentDecode {bs : List UInt8} {m : UInt8} (hhex : Text.Percent.hexValue? m = none)
    (hne : m ≠ 0x25) (h : m ∈ bs) : m ∈ Text.Percent.decode bs := by
  -- The first case is that of an escaped octet, whose three marks are gone after decoding.
  fun_induction Text.Percent.decode bs with
  | case1 b c rest x y hc hb ih =>
    simp only [List.mem_cons] at h
    rcases h with rfl | rfl | rfl | h
    · exact absurd rfl hne
    · rw [hhex] at hb
      exact nomatch hb
    · rw [hhex] at hc
      exact nomatch hc
    · exact List.mem_cons_of_mem _ (ih h)
  | case2 a b c rest x y hc hb ha ih =>
    rcases List.mem_cons.1 h with rfl | h
    · exact List.mem_cons_self
    · exact List.mem_cons_of_mem _ (ih h)
  | case3 a b c rest hbc ih =>
    rcases List.mem_cons.1 h with rfl | h
    · exact List.mem_cons_self
    · exact List.mem_cons_of_mem _ (ih h)
  | case4 bs hbs => exact h

/-- An octet of ASCII shows up in the text as its character, by induction on the fuel: what has been
decoded stays, and the octets of a longer character are all beyond ASCII. -/
theorem mem_decodeLoop {fuel : Nat} {done cs : List Char} {bs : List UInt8}
    (h : Text.Utf8.decodeLoop fuel done bs = some cs) :
    (∀ c ∈ done, c ∈ cs) ∧ ∀ b ∈ bs, b.toNat < 0x80 → Char.ofNat b.toNat ∈ cs := by
  induction fuel generalizing done bs with
  | zero =>
    cases bs with
    | nil =>
      obtain rfl := Option.some.inj h
      exact ⟨fun c hc => List.mem_reverse.2 hc, fun b hb => absurd hb List.not_mem_nil⟩
    | cons a r => cases h
  | succ fuel ih =>
    cases bs with
    | nil =>
      obtain rfl := Option.some.inj h
      exact ⟨fun c hc => List.mem_reverse.2 hc, fun b hb => absurd hb List.not_mem_nil⟩
    | cons a r =>
      unfold Text.Utf8.decodeLoop at h
      split at h
      · rename_i c rest hnext
        obtain ⟨hdone, hrest⟩ := ih h
        refine ⟨fun d hd => hdone d (List.mem_cons_of_mem _ hd), fun b hb hlow => ?_⟩
        obtain ⟨tails, rfl, htails⟩ := Text.Utf8.next?_tails hnext
        rcases List.mem_cons.1 hb with rfl | hb
        · -- It is a character of its own.
          unfold Text.Utf8.next? at hnext
          dsimp only at hnext
          rw [if_pos hlow] at hnext
          obtain rfl := (Prod.mk.inj (Option.some.inj hnext)).1
          exact hdone _ List.mem_cons_self
        · rcases List.mem_append.1 hb with hb | hb
          · exact absurd (htails b hb) (Nat.not_le.2 hlow)
          · exact hrest b hb hlow
      · cases h

/-- **A delimiter** is found by the reader of a domain, whatever stands around it. -/
theorem not_mem_of_readDomain [DomainRules] [LawfulDomainRules] {cs : List Char} {host : Host}
    {m : Char} (hm : m ∈ delimiters) (hopen : cs.head? ≠ some '[')
    (hread : Host.readDomain cs = .ok host) : m ∉ cs := by
  intro hmem
  have hmarks : ∀ m ∈ delimiters, m.toNat < 0x80 ∧
      Text.Percent.hexValue? (Text.Utf8.octet m) = none ∧ Text.Utf8.octet m ≠ 0x25 :=
    forall_mem_of_all (by decide +kernel)
  obtain ⟨hlow, hhex, hne⟩ := hmarks m hm
  -- The mark is followed through the octets, the decoding, the text and the rules of domains.
  have hoctet : Text.Utf8.octet m ∈ Text.Utf8.encode cs := by
    refine List.mem_flatMap.2 ⟨m, hmem, ?_⟩
    rw [Text.Utf8.encodeChar_ascii hlow]
    exact List.mem_singleton.2 rfl
  unfold Host.readDomain at hread
  rw [if_neg hopen] at hread
  split at hread
  · cases hread
  · rename_i plain hplain
    have hfound : m ∈ plain := by
      have hchar := (mem_decodeLoop hplain).2 _ (mem_percentDecode hhex hne hoctet)
        (by rw [Text.Utf8.octet, Text.Utf8.toNat_octet hlow]; exact hlow)
      rwa [Http.Uri.ofNat_octet hlow] at hchar
    split at hread
    · cases hread
    · rename_i ascii hascii
      exact LawfulDomainRules.no_delimiter hascii m hfound hm

/-! ## The host of an address

Admission and reading cut an authority in the same places but check different things of it.  What
admission has seen to are the characters of the whole authority and where a percent sign may stand;
what the reader of the host has seen to are the delimiters.  Together they leave only plain
characters. -/

/-- The host and the port are what stands behind the last `@`. -/
theorem not_mem_hostPort (auth : List Char) : '@' ∉ hostPort auth := fun h =>
  absurd (List.mem_takeWhile_imp (p := (· != '@')) (List.mem_reverse.1 h)) (by decide)

section

variable [DomainRules] [LawfulDomainRules] {start auth tail : List Char}

/-- A bracket behind the last `@` of a readable authority belongs to a host in brackets. -/
theorem not_mem_of_unbracketed (hopen : (hostText auth).head? ≠ some '[') (hread : Readable auth) :
    ']' ∉ hostPort auth := by
  obtain ⟨host, hhost⟩ := hread.host
  rw [← takeHost_joined true false (hostPort auth), List.mem_append, not_or]
  -- In the host it would be found by its reader, and a port is a colon and digits.
  refine ⟨not_mem_of_readDomain (by decide) hopen hhost, fun hport => ?_⟩
  rcases hread.port with hnone | ⟨digits, hdigits, hnumber⟩
  · rw [portText] at hnone
    rw [hnone] at hport
    exact nomatch hport
  · rw [portText] at hdigits
    rw [hdigits] at hport
    rcases List.mem_cons.1 hport with hcolon | hmem
    · exact absurd hcolon (by decide)
    · exact absurd (hnumber.1 _ hmem) (by decide)

/-- **The host of a readable authority** stands in brackets or in plain characters. -/
theorem bracketed_or_plain (h : Parts start auth tail) (hread : Readable auth) :
    (hostText auth).head? = some '[' ∨ ∀ c ∈ hostText auth, isPlain c = true := by
  by_cases hopen : (hostText auth).head? = some '['
  · exact Or.inl hopen
  · refine Or.inr fun c hc => ?_
    obtain ⟨host, hhost⟩ := hread.host
    -- A percent sign is admitted only in front of an `@` or a `]`, and here there is neither.
    have hpercent : '%' ∉ hostPort auth := by
      obtain ⟨before, hbefore⟩ : ∃ before, auth = before ++ hostPort auth := by
        rcases hostPort_cases auth with ⟨-, hall⟩ | ⟨user, huser⟩
        · exact ⟨[], hall.symm⟩
        · exact ⟨user ++ ['@'], huser.trans (by rw [List.append_assoc]; rfl)⟩
      exact Http.Uri.percent_not_mem (hbefore ▸ h.authority) (not_mem_hostPort auth)
        (not_mem_of_unbracketed hopen hread)
    have hmem : c ∈ hostPort auth := by
      rw [← takeHost_joined true false (hostPort auth)]
      exact List.mem_append_left _ hc
    -- Of the characters of an authority only the plain ones and the delimiters are left.
    have hmarks : c ∉ delimiters := fun hm => not_mem_of_readDomain hm hopen hhost hc
    have hchar := Http.Uri.chars_of_authority h.authority c (mem_of_hostPort hmem)
    exact ascii_forall (P := fun c => Http.Uri.isAuthorityChar c = true → c ≠ '%' →
        c ∉ delimiters → isPlain c = true) (by decide +kernel) (Http.Uri.lt_of_authority hchar)
      hchar (fun heq => hpercent (heq ▸ hmem)) hmarks

/-- **Whether an authority is readable** can be seen from it, where no label of its host is in
Punycode: the host stands in plain characters, and if it ends in a number, this is an address. -/
theorem readable_iff_of_unmarked (h : Parts start auth tail)
    (hopen : (hostText auth).head? ≠ some '[') (hunmarked : IsUnmarked (hostText auth)) :
    Readable auth ↔ (∀ c ∈ hostText auth, isPlain c = true) ∧
      (∃ host, Host.ofAscii ((hostText auth).map Char.toLower) = .ok host) ∧
      IsPort (portText auth) := by
  constructor
  · intro hread
    have hplain := (bracketed_or_plain h hread).resolve_left hopen
    obtain ⟨host, hhost⟩ := hread.host
    exact ⟨hplain, ⟨host, readDomain_of_unmarked hplain hunmarked ▸ hhost⟩, hread.port⟩
  · rintro ⟨hplain, ⟨host, hhost⟩, hport⟩
    exact ⟨⟨host, (readDomain_of_unmarked hplain hunmarked).trans hhost⟩, hport⟩

/-- **What the host of an address is read as** is written as a host again. -/
theorem isHost_of_readable (h : Parts start auth tail) (hread : Readable auth) {host : Host}
    (hhost : Host.readDomain (hostText auth) = .ok host) : IsHost host.text.toList := by
  rcases bracketed_or_plain h hread with hopen | hplain
  · exact isHost_of_bracketed hopen hhost
  · exact isHost_of_plain hplain hhost

end

end VideoProbe.Url
