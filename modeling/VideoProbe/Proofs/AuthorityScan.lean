import VideoProbe.Proofs.AddressParts

/-!
# The scan of an authority

The scan of an authority looks for five marks and passes over all other characters, which are plain
(`isPlain`).  A run of plain characters, colons and percent signs only adds to what has been counted
(`scan_run`), and the three marks that are left begin, end or divide such runs.

Two things follow.  Where user information, a host and a port are written one after another, each of
them in characters of its own, the scan goes through (`isAuthority_of_parts`).  And where it goes
through, a percent sign behind the last `@` can only stand in brackets (`percent_not_mem`).
-/

namespace VideoProbe.Http.Uri

open Text.Utf8

/-- A character of an authority that is not looked for. -/
def isPlain (c : Char) : Bool :=
  c.toNat < 0x80 && isMark (octet c) && c != ':' && c != '@' && c != '[' && c != ']'

/-- A character of a run: one that is plain, or is only counted. -/
def isOfRun (c : Char) : Bool :=
  isPlain c || c == ':' || c == '%'

/-- The scan of a text. -/
def scan (s : AuthorityScan) (cs : List Char) : Option AuthorityScan :=
  (encode cs).foldlM AuthorityScan.step s

theorem scan_nil (s : AuthorityScan) : scan s [] = some s :=
  rfl

/-- A scan goes on where it has stopped. -/
theorem scan_append (s : AuthorityScan) (cs ds : List Char) :
    scan s (cs ++ ds) = (scan s cs).bind (scan · ds) := by
  unfold scan
  rw [encode_append, List.foldlM_append]
  rfl

/-- A character of ASCII is one step. -/
theorem scan_cons {c : Char} (hc : c.toNat < 0x80) (s : AuthorityScan) (cs : List Char) :
    scan s (c :: cs) = (s.step (octet c)).bind (scan · cs) := by
  unfold scan
  rw [encode_cons, encodeChar_ascii hc, List.singleton_append, List.foldlM_cons]
  rfl

theorem lt_of_plain {c : Char} (h : isPlain c = true) : c.toNat < 0x80 := by
  simp only [isPlain, Bool.and_eq_true, decide_eq_true_eq] at h
  exact h.1.1.1.1.1

theorem lt_of_run {c : Char} (h : isOfRun c = true) : c.toNat < 0x80 := by
  simp only [isOfRun, Bool.or_eq_true, beq_iff_eq] at h
  rcases h with (h | rfl) | rfl
  · exact lt_of_plain h
  · decide
  · decide

/-- One character of a run. -/
theorem step_run {s : AuthorityScan} {c : Char} (h : isOfRun c = true)
    (hcolons : s.colons + [c].count ':' ≤ AuthorityScan.maxColons) :
    s.step (octet c) = some { s with colons := s.colons + [c].count ':',
                                     percent := s.percent || '%' == c, afterAt := false } := by
  have hplain : isPlain c = true → octet c ≠ 0x3A ∧ octet c ≠ 0x5B ∧ octet c ≠ 0x5D ∧
      octet c ≠ 0x40 ∧ octet c ≠ 0x25 ∧ isMark (octet c) = true ∧ c ≠ ':' ∧ c ≠ '%' :=
    ascii_forall (P := fun c => isPlain c = true → octet c ≠ 0x3A ∧ octet c ≠ 0x5B ∧
      octet c ≠ 0x5D ∧ octet c ≠ 0x40 ∧ octet c ≠ 0x25 ∧ isMark (octet c) = true ∧
      c ≠ ':' ∧ c ≠ '%') (by decide +kernel) (lt_of_run h)
  simp only [isOfRun, Bool.or_eq_true, beq_iff_eq] at h
  unfold AuthorityScan.step
  rcases h with (h | rfl) | rfl
  · obtain ⟨h1, h2, h3, h4, h5, hmark, hcolon, hpercent⟩ := hplain h
    rw [if_neg h1, if_neg h2, if_neg h3, if_neg h4, if_neg h5, if_pos hmark]
    simp [hcolon, hpercent.symm]
  · have hlt : ¬ AuthorityScan.maxColons ≤ s.colons := by
      rw [List.count_singleton_self] at hcolons
      omega
    simp [octet, hlt]
  · simp [octet]

/-- **A run only adds to what has been counted.** -/
theorem scan_run {cs : List Char} (h : ∀ c ∈ cs, isOfRun c = true) (s : AuthorityScan)
    (hcolons : s.colons + cs.count ':' ≤ AuthorityScan.maxColons) :
    scan s cs = some { s with colons := s.colons + cs.count ':',
                              percent := s.percent || cs.contains '%',
                              afterAt := s.afterAt && cs.isEmpty } := by
  induction cs generalizing s with
  | nil => simp [scan_nil]
  | cons c cs ih =>
    obtain ⟨hc, hcs⟩ := List.forall_mem_cons.1 h
    have hcount : (c :: cs).count ':' = [c].count ':' + cs.count ':' := by
      rw [← List.singleton_append, List.count_append]
    rw [hcount] at hcolons ⊢
    rw [scan_cons (lt_of_run hc), step_run hc (by omega), Option.bind_some,
      ih hcs _ (by dsimp only; omega)]
    simp [Nat.add_assoc, Bool.or_assoc, beq_eq_decide]

/-! ## Parts that are written one after another -/

/-- User information and the `@` behind it, or nothing. -/
def IsUserinfo (cs : List Char) : Prop :=
  cs = [] ∨ ∃ run, cs = run ++ ['@'] ∧ (∀ c ∈ run, isOfRun c = true) ∧
    run.count ':' ≤ AuthorityScan.maxColons

/-- A host: plain characters, or plain characters and colons in brackets. -/
def IsHost (cs : List Char) : Prop :=
  (cs ≠ [] ∧ ∀ c ∈ cs, isPlain c = true) ∨
    ∃ inner, cs = '[' :: (inner ++ [']']) ∧ (∀ c ∈ inner, isPlain c = true ∨ c = ':') ∧
      inner.count ':' ≤ AuthorityScan.maxColons

/-- A port and the colon before it, or nothing. -/
def IsPortText (cs : List Char) : Prop :=
  cs = [] ∨ ∃ digits, cs = ':' :: digits ∧ ∀ c ∈ digits, isPlain c = true

/-- Nothing has been counted that is still of interest. -/
structure AuthorityScan.IsClear (s : AuthorityScan) : Prop where
  colons : s.colons = 0
  percent : s.percent = false

/-- Plain characters may stand in a run. -/
theorem isOfRun_of_plain {c : Char} (h : isPlain c = true) : isOfRun c = true := by
  simp [isOfRun, h]

/-- Among plain characters there is no colon. -/
theorem count_colon_of_plain {cs : List Char} (h : ∀ c ∈ cs, isPlain c = true) :
    cs.count ':' = 0 := by
  refine List.count_eq_zero.2 fun hmem => ?_
  exact absurd (h ':' hmem) (by decide)

/-- Nor anything else that is not plain. -/
theorem not_mem_of_plain {cs : List Char} {m : Char} (hm : isPlain m = false)
    (h : ∀ c ∈ cs, isPlain c = true) : m ∉ cs := fun hmem =>
  Bool.false_ne_true (hm.symm.trans (h m hmem))

/-- Behind user information the scan is as good as new. -/
theorem scan_userinfo {cs : List Char} (h : IsUserinfo cs) :
    ∃ s, scan {} cs = some s ∧ s.IsClear ∧ s.opened = false ∧ s.closed = false := by
  rcases h with rfl | ⟨run, rfl, hrun, hcolons⟩
  · exact ⟨{}, rfl, ⟨rfl, rfl⟩, rfl, rfl⟩
  · rw [scan_append, scan_run hrun {} (by simpa using hcolons), Option.bind_some,
      scan_cons (by decide)]
    exact ⟨_, rfl, ⟨rfl, rfl⟩, rfl, rfl⟩

/-- Behind a host no bracket is open, and an authority may end. -/
theorem scan_host {s : AuthorityScan} {cs : List Char} (h : IsHost cs) (hs : s.IsClear)
    (hopened : s.opened = false) (hclosed : s.closed = false) :
    ∃ s', scan s cs = some s' ∧ s'.IsClear ∧ s'.opened = s'.closed ∧ s'.afterAt = false := by
  rcases h with ⟨hne, hplain⟩ | ⟨inner, rfl, hinner, hcolons⟩
  · have hcount := count_colon_of_plain hplain
    have hpercent : cs.contains '%' = false := by
      simpa using not_mem_of_plain (m := '%') (by decide) hplain
    rw [scan_run (fun c hc => isOfRun_of_plain (hplain c hc)) s
      (by rw [hcount, hs.colons]; decide), hcount, hpercent, List.isEmpty_eq_false_iff.2 hne]
    exact ⟨_, rfl, ⟨hs.colons, by simp [hs.percent]⟩, hopened.trans hclosed.symm, by simp⟩
  · -- Inside the brackets colons are counted, and the closing one forgets them.
    have hopen : s.step (octet '[') = some { s with opened := true, afterAt := false } := by
      simp [AuthorityScan.step, octet, hs.percent, hopened]
    have hrun : ∀ c ∈ inner, isOfRun c = true := by
      intro c hc
      rcases hinner c hc with h | rfl
      · exact isOfRun_of_plain h
      · decide
    obtain ⟨t, hinside, htopened, htclosed⟩ : ∃ t,
        scan { s with opened := true, afterAt := false } inner = some t ∧ t.opened = true ∧
          t.closed = false :=
      ⟨_, scan_run hrun _ (by simpa [hs.colons] using hcolons), rfl, hclosed⟩
    have hclose : t.step (octet ']') =
        some { t with closed := true, colons := 0, percent := false, afterAt := false } := by
      simp [AuthorityScan.step, octet, htopened, htclosed]
    rw [scan_cons (by decide), hopen, Option.bind_some, scan_append, hinside, Option.bind_some,
      scan_cons (by decide), hclose]
    exact ⟨_, rfl, ⟨rfl, rfl⟩, htopened, rfl⟩

/-- **An authority may be written from its parts.** -/
theorem isAuthority_of_parts {user host port : List Char} (huser : IsUserinfo user)
    (hhost : IsHost host) (hport : IsPortText port) :
    isAuthority (encode (user ++ (host ++ port))) = true := by
  obtain ⟨s, hscan, hclear, hopened, hclosed⟩ := scan_userinfo huser
  obtain ⟨s', hscan', hclear', hbrackets, hat⟩ := scan_host hhost hclear hopened hclosed
  have hne : encode (user ++ (host ++ port)) ≠ [] := by
    refine encode_ne_nil (List.append_ne_nil_of_right_ne_nil _ ?_)
    refine List.append_ne_nil_of_left_ne_nil ?_ _
    rcases hhost with ⟨hne, -⟩ | ⟨inner, rfl, -⟩
    · exact hne
    · exact List.cons_ne_nil _ _
  have hscanned : scan {} (user ++ (host ++ port)) = scan s' port := by
    rw [scan_append, hscan, Option.bind_some, scan_append, hscan', Option.bind_some]
  -- The part before the port leaves the scan clear, and a port adds one colon.
  refine (isAuthority_iff _).2 ⟨hne, ?_⟩
  change ∃ s, scan {} (user ++ (host ++ port)) = some s ∧ s.isAcceptable = true
  rw [hscanned]
  unfold AuthorityScan.isAcceptable
  rcases hport with rfl | ⟨digits, rfl, hdigits⟩
  · refine ⟨s', rfl, ?_⟩
    rw [hbrackets, hclear'.colons, hat, hclear'.percent, beq_self_eq_true]
    rfl
  · have hrun : ∀ c ∈ ':' :: digits, isOfRun c = true :=
      List.forall_mem_cons.2 ⟨by decide, fun c hc => isOfRun_of_plain (hdigits c hc)⟩
    have hcount : (':' :: digits).count ':' = 1 := by
      rw [List.count_cons_self, count_colon_of_plain hdigits]
    have hpercent : (':' :: digits).contains '%' = false := by
      simpa using not_mem_of_plain (m := '%') (by decide) hdigits
    rw [scan_run hrun s' (by rw [hcount, hclear'.colons]; decide), hcount, hpercent]
    refine ⟨_, rfl, ?_⟩
    dsimp only
    rw [hbrackets, hclear'.colons, hat, hclear'.percent, beq_self_eq_true]
    rfl

/-! ## Percent signs -/

/-- Only an `@` and a closing bracket let a percent sign be forgotten. -/
theorem percent_of_step {s s' : AuthorityScan} {b : UInt8} (h : s.step b = some s')
    (hat : b ≠ 0x40) (hclose : b ≠ 0x5D) (hpercent : s.percent = true ∨ b = 0x25) :
    s'.percent = true := by
  unfold AuthorityScan.step at h
  dsimp only at h
  rw [if_neg hat, if_neg hclose] at h
  -- No other octet takes the sign back, unless it stops the scan.
  split at h
  · rename_i hcolon
    split at h
    · exact nomatch h
    · cases h
      exact hpercent.resolve_right fun hb => absurd (hcolon.symm.trans hb) (by decide)
  · split at h
    · rename_i hopen
      split at h
      · exact nomatch h
      · cases h
        exact hpercent.resolve_right fun hb => absurd (hopen.symm.trans hb) (by decide)
    · split at h
      · cases h
        rfl
      · rename_i hne
        split at h
        · cases h
          exact hpercent.resolve_right hne
        · exact nomatch h

/-- Where neither mark follows, a percent sign is remembered to the end, by induction on what is
scanned. -/
theorem percent_of_scan {cs : List Char} {s s' : AuthorityScan} (h : scan s cs = some s')
    (hcs : ∀ c ∈ cs, c.toNat < 0x80) (hat : '@' ∉ cs) (hclose : ']' ∉ cs)
    (hpercent : s.percent = true ∨ '%' ∈ cs) : s'.percent = true := by
  induction cs generalizing s with
  | nil =>
    rw [scan_nil] at h
    rw [← Option.some.inj h]
    exact hpercent.resolve_right List.not_mem_nil
  | cons c cs ih =>
    obtain ⟨hc, hcs⟩ := List.forall_mem_cons.1 hcs
    rw [List.mem_cons, not_or] at hat hclose
    rw [scan_cons hc] at h
    obtain ⟨s1, hstep, hrest⟩ := Option.bind_eq_some_iff.1 h
    have hne : ∀ m : Char, m.toNat < 0x80 → m ≠ c → octet c ≠ octet m := fun m hm hmc heq =>
      hmc ((octet_eq_iff hc hm).1 heq).symm
    have hone : s.percent = true ∨ octet c = 0x25 → s1.percent = true :=
      percent_of_step hstep (hne '@' (by decide) hat.1) (hne ']' (by decide) hclose.1)
    refine ih hrest hcs hat.2 hclose.2 ?_
    rcases hpercent with h | h
    · exact Or.inl (hone (Or.inl h))
    · rcases List.mem_cons.1 h with rfl | h
      · exact Or.inl (hone (Or.inr rfl))
      · exact Or.inr h

/-- **A percent sign behind the last `@` stands in brackets**: where nothing is closed, there is
none. -/
theorem percent_not_mem {before cs : List Char} (h : isAuthority (encode (before ++ cs)) = true)
    (hat : '@' ∉ cs) (hclose : ']' ∉ cs) : '%' ∉ cs := by
  intro hpercent
  obtain ⟨-, s, hscan, hacceptable⟩ := (isAuthority_iff _).1 h
  have hsplit : (scan {} before).bind (scan · cs) = some s := (scan_append _ _ _).symm.trans hscan
  obtain ⟨s1, -, hrest⟩ := Option.bind_eq_some_iff.1 hsplit
  have hcs : ∀ c ∈ cs, c.toNat < 0x80 := fun c hc =>
    lt_of_authority (chars_of_authority h c (List.mem_append_right _ hc))
  have htrue := percent_of_scan hrest hcs hat hclose (Or.inr hpercent)
  simp [AuthorityScan.isAcceptable, htrue] at hacceptable

end VideoProbe.Http.Uri
