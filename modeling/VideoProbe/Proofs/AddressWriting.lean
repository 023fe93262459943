import VideoProbe.Delivery
import VideoProbe.Proofs.WrittenHosts

/-!
# A URL written as a web address

Before a request is sent to a URL, the URL is written, and what is written has to be a web address
again.  Each part of it is: its text is either escaped, and then no mark shows up in it that would
end it (`all_escape`), or it was written as a host or a number.  So **nothing but its length can
keep a URL that was read from a web address from being one** (`isAddressable_iff`); escaping makes
it longer.
-/

namespace VideoProbe.Url

open Http.Uri (IsUserinfo IsHost IsPortText isPlain isOfRun isPathChar isQueryChar Parts IsStart
  beforeFragment isEnd)

/-! ## Escaped text -/

/-- What holds of the characters that stand for themselves, of the percent sign and of digits holds
throughout an escaped text. -/
theorem all_escape {keep : UInt8 → Bool} {P : Char → Prop}
    (hkeep : ∀ b, keep b = true → P (Char.ofNat b.toNat)) (hpercent : P '%')
    (hhex : ∀ n, n < 16 → P (Text.Percent.upperHexDigit n)) (cs : List Char) :
    ∀ c ∈ (escape keep cs).toList, P c := by
  intro c hc
  unfold escape at hc
  rw [String.toList_ofList] at hc
  rcases Text.Percent.mem_encode hc with ⟨b, hb, rfl⟩ | rfl | ⟨n, hn, rfl⟩
  · exact hkeep b hb
  · exact hpercent
  · exact hhex n hn

/-- A character that user information is written with. -/
def IsOfUserinfo (c : Char) : Prop :=
  isOfRun c = true ∧ c ≠ ':'

/-- A character that a path is written with. -/
def IsOfPath (c : Char) : Prop :=
  isPathChar c = true ∧ c ≠ '?' ∧ c ≠ '#'

/-- A character that a query is written with. -/
def IsOfQuery (c : Char) : Prop :=
  isQueryChar c = true ∧ c ≠ '#'

/-- All three are settled by looking at the character. -/
instance : DecidablePred IsOfUserinfo := fun _ => inferInstanceAs (Decidable (_ ∧ _))

instance : DecidablePred IsOfPath := fun _ => inferInstanceAs (Decidable (_ ∧ _))

instance : DecidablePred IsOfQuery := fun _ => inferInstanceAs (Decidable (_ ∧ _))

/-- Escaped user information holds no mark that would end it. -/
theorem escaped_userinfo (cs : List Char) :
    ∀ c ∈ (escape keepInUserinfo cs).toList, IsOfUserinfo c :=
  all_escape (Text.Utf8.octet_forall (by decide +kernel)) (by decide) (by decide +kernel) cs

/-- Neither does an escaped segment of a path. -/
theorem escaped_path (cs : List Char) : ∀ c ∈ (escape keepInPath cs).toList, IsOfPath c :=
  all_escape (Text.Utf8.octet_forall (by decide +kernel)) (by decide) (by decide +kernel) cs

/-- Nor does an escaped query. -/
theorem escaped_query (cs : List Char) : ∀ c ∈ (escape (keepInQuery true) cs).toList, IsOfQuery c :=
  all_escape (Text.Utf8.octet_forall (by decide +kernel)) (by decide) (by decide +kernel) cs

/-! ## Who and where -/

/-- An authority is written in three parts. -/
theorem toList_authority {a : Authority} (h : a.Escaped) :
    ∃ user port, a.text.toList = user ++ (a.host.text.toList ++ port) ∧ IsUserinfo user ∧
      IsPortText port := by
  obtain ⟨name, hname⟩ := h.username
  have husername : ∀ c ∈ a.username.toList, IsOfUserinfo c := hname ▸ escaped_userinfo name
  have hrun : ∀ {cs : List Char}, (∀ c ∈ cs, IsOfUserinfo c) →
      (∀ c ∈ cs, isOfRun c = true) ∧ cs.count ':' = 0 := fun hcs =>
    ⟨fun c hc => (hcs c hc).1, List.count_eq_zero.2 fun hmem => (hcs ':' hmem).2 rfl⟩
  obtain ⟨hnameRun, hnameCount⟩ := hrun husername
  unfold Authority.text
  dsimp only
  rw [String.toList_append, String.toList_append, List.append_assoc]
  -- The host stands in the middle as it is; what is before it and behind it is looked at.
  refine ⟨_, _, rfl, ?_, ?_⟩
  · -- The colon between the name and the password is the only one, since both are escaped.
    cases hpassword : a.password with
    | none =>
      dsimp only
      split
      · exact Or.inl rfl
      · refine Or.inr ⟨a.username.toList, String.toList_append, hnameRun, ?_⟩
        rw [hnameCount]
        exact Nat.zero_le _
    | some password =>
      obtain ⟨word, rfl⟩ := h.password password hpassword
      obtain ⟨hwordRun, hwordCount⟩ := hrun (escaped_userinfo word)
      refine Or.inr ⟨a.username.toList ++ ':' :: (escape keepInUserinfo word).toList, ?_, ?_, ?_⟩
      · simp [String.toList_append]
      · intro c hc
        rcases List.mem_append.1 hc with hc | hc
        · exact hnameRun c hc
        · rcases List.mem_cons.1 hc with rfl | hc
          · decide
          · exact hwordRun c hc
      · rw [List.count_append, List.count_cons_self, hnameCount, hwordCount]
        decide
  · cases a.port with
    | none => exact Or.inl rfl
    | some n => exact Or.inr ⟨_, String.toList_append, isPlain_ofNat n⟩

/-- What follows user information is found behind the last `@`. -/
theorem hostPort_append {user cs : List Char} (huser : IsUserinfo user) (hat : '@' ∉ cs) :
    hostPort (user ++ cs) = cs := by
  have hall : ∀ c ∈ cs.reverse, (c != '@') = true := fun c hc =>
    bne_iff_ne.2 fun heq => hat (heq ▸ List.mem_reverse.1 hc)
  unfold hostPort
  rw [List.reverse_append, List.takeWhile_append_of_pos hall]
  have hstop : user.reverse.takeWhile (· != '@') = [] := by
    rcases huser with rfl | ⟨run, rfl, -⟩
    · rfl
    · rw [List.reverse_append]
      rfl
  rw [hstop, List.append_nil, List.reverse_reverse]

/-- **An authority that is written from its parts** is one of a web address, and has a host. -/
theorem authority_of_parts {user host port : List Char} (huser : IsUserinfo user)
    (hhost : IsHost host) (hport : IsPortText port) :
    Http.Uri.isAuthority (Text.Utf8.encode (user ++ (host ++ port))) = true ∧
      Http.Uri.host (Text.Utf8.encode (user ++ (host ++ port))) ≠ [] := by
  have hauthority := Http.Uri.isAuthority_of_parts huser hhost hport
  have hascii : ∀ c ∈ user ++ (host ++ port), c.toNat < 0x80 := fun c hc =>
    Http.Uri.lt_of_authority (Http.Uri.chars_of_authority hauthority c hc)
  -- The last `@` is that of the user information, so the host is found behind it.
  have hat : '@' ∉ host ++ port := by
    have hplain : isPlain '@' = false := by decide
    rw [List.mem_append, not_or]
    constructor
    · rcases hhost with ⟨-, hchars⟩ | ⟨inner, rfl, hinner, -⟩
      · exact Http.Uri.not_mem_of_plain hplain hchars
      · intro hmem
        have hinside : '@' ∈ inner := by simpa using hmem
        rcases hinner '@' hinside with h | h
        · exact Bool.false_ne_true (hplain.symm.trans h)
        · exact absurd h (by decide)
    · rcases hport with rfl | ⟨digits, rfl, hdigits⟩
      · exact List.not_mem_nil
      · intro hmem
        refine Http.Uri.not_mem_of_plain hplain hdigits ?_
        simpa using hmem
  refine ⟨hauthority, (host_ne_nil_iff hascii).2 ?_⟩
  rw [hostPort_append huser hat]
  rcases hhost with ⟨hne, hchars⟩ | ⟨inner, rfl, -, -⟩
  · obtain ⟨c, r, rfl⟩ := List.exists_cons_of_ne_nil hne
    refine ⟨c, r ++ port, rfl, fun heq => ?_⟩
    exact absurd (heq ▸ hchars c List.mem_cons_self) (by decide)
  · exact ⟨'[', _, rfl, by decide⟩

/-! ## Paths -/

/-- A path that is tidied up has a segment, and its segments are empty or escaped, by the recursion
of the reader: the segments before stay so whether one is added, taken back or passed over. -/
theorem tidySegments_spec (before : List String) (segments : List (List Char))
    (hbefore : ∀ s ∈ before, ∀ c ∈ s.toList, IsOfPath c) :
    (∀ s ∈ tidySegments before segments, ∀ c ∈ s.toList, IsOfPath c) ∧
      (segments ≠ [] → tidySegments before segments ≠ []) := by
  have hempty : ∀ c ∈ "".toList, IsOfPath c := by simp
  have hsnoc : ∀ {xs : List String} {x : String}, (∀ s ∈ xs, ∀ c ∈ s.toList, IsOfPath c) →
      (∀ c ∈ x.toList, IsOfPath c) → ∀ s ∈ xs ++ [x], ∀ c ∈ s.toList, IsOfPath c := by
    intro xs x hxs hx s hs
    rcases List.mem_append.1 hs with hs | hs
    · exact hxs s hs
    · exact List.mem_singleton.1 hs ▸ hx
  have hlast : ∀ {xs : List String}, (∀ s ∈ xs, ∀ c ∈ s.toList, IsOfPath c) →
      ∀ s ∈ xs.dropLast, ∀ c ∈ s.toList, IsOfPath c := fun hxs s hs =>
    hxs s (List.dropLast_subset _ hs)
  -- No segment; a last one, in three kinds; and one before others, in the same three kinds.
  fun_induction tidySegments before segments with
  | case1 before => exact ⟨hbefore, fun h => absurd rfl h⟩
  | case2 before last h => exact ⟨hsnoc (hlast hbefore) hempty, fun _ => by simp⟩
  | case3 before last h h' => exact ⟨hsnoc hbefore hempty, fun _ => by simp⟩
  | case4 before last h h' => exact ⟨hsnoc hbefore (escaped_path last), fun _ => by simp⟩
  | case5 before segment rest hrest h ih =>
    obtain ⟨hall, hne⟩ := ih (hlast hbefore)
    exact ⟨hall, fun _ => hne hrest⟩
  | case6 before segment rest hrest h h' ih =>
    obtain ⟨hall, hne⟩ := ih hbefore
    exact ⟨hall, fun _ => hne hrest⟩
  | case7 before segment rest hrest h h' ih =>
    obtain ⟨hall, hne⟩ := ih (hsnoc hbefore (escaped_path segment))
    exact ⟨hall, fun _ => hne hrest⟩

/-- A path is written with a slash before each segment, and there is one segment at least. -/
theorem toList_path {segments : List (List Char)} (h : segments ≠ []) :
    (∃ rest, (Path.rooted (tidySegments [] segments)).text.toList = '/' :: rest) ∧
      ∀ c ∈ (Path.rooted (tidySegments [] segments)).text.toList, IsOfPath c := by
  obtain ⟨hall, hne⟩ := tidySegments_spec [] segments fun s hs => nomatch hs
  have htext : (Path.rooted (tidySegments [] segments)).text.toList =
      (tidySegments [] segments).flatMap fun s => '/' :: s.toList := by
    unfold Path.text
    rw [String.toList_join, List.flatMap_map]
    simp only [String.toList_append]
    rfl
  rw [htext]
  constructor
  · obtain ⟨s, rest, hrest⟩ := List.exists_cons_of_ne_nil (hne h)
    rw [hrest, List.flatMap_cons, List.cons_append]
    exact ⟨_, rfl⟩
  · intro c hc
    obtain ⟨s, hs, hc⟩ := List.mem_flatMap.1 hc
    rcases List.mem_cons.1 hc with rfl | hc
    · decide
    · exact hall s hs c hc

/-! ## The whole -/

/-- A text that is put together from a scheme, an authority, a path, a query and a fragment has the
parts of a web address. -/
theorem parts_of_written {start auth path query fragment : List Char} (hstart : IsStart start)
    (hauthority : Http.Uri.isAuthority (Text.Utf8.encode auth) = true)
    (hhost : Http.Uri.host (Text.Utf8.encode auth) ≠ []) (hslash : ∃ rest, path = '/' :: rest)
    (hpath : ∀ c ∈ path, IsOfPath c)
    (hquery : query = [] ∨ ∃ q, query = '?' :: q ∧ ∀ c ∈ q, IsOfQuery c)
    (hfragment : ∀ c r, fragment = c :: r → c = '#') :
    Parts start auth (path ++ (query ++ fragment)) := by
  have hqueryChars : ∀ c ∈ query, (c != '#') = true := by
    intro c hc
    rcases hquery with rfl | ⟨q, rfl, hq⟩
    · exact nomatch hc
    · rcases List.mem_cons.1 hc with rfl | hc
      · decide
      · exact bne_iff_ne.2 (hq c hc).2
  -- Nothing before the fragment is a `#`, and nothing in the path is a question mark.
  have hbefore : beforeFragment (path ++ (query ++ fragment)) = path ++ query := by
    unfold beforeFragment
    rw [← List.append_assoc]
    refine (Text.cut_append (fun c hc => ?_) fun c r heq => by rw [hfragment c r heq]; rfl).1
    rcases List.mem_append.1 hc with hc | hc
    · exact bne_iff_ne.2 (hpath c hc).2.2
    · exact hqueryChars c hc
  obtain ⟨htake, hdrop⟩ : (path ++ query).takeWhile (· != '?') = path ∧
      (path ++ query).dropWhile (· != '?') = query := by
    refine Text.cut_append (fun c hc => bne_iff_ne.2 (hpath c hc).2.1) fun c r heq => ?_
    rcases hquery with rfl | ⟨q, rfl, -⟩
    · exact nomatch heq
    · rw [← (List.cons.inj heq).1]
      rfl
  refine ⟨hstart, hauthority, hhost, fun c r heq => ?_, ?_, ?_⟩
  · obtain ⟨rest, rfl⟩ := hslash
    rw [← (List.cons.inj heq).1]
    rfl
  · rw [hbefore, htake, List.all_eq_true]
    exact fun c hc => (hpath c hc).1
  · rw [hbefore, hdrop, List.all_eq_true]
    rcases hquery with rfl | ⟨q, rfl, hq⟩
    · exact fun c hc => nomatch hc
    · exact fun c hc => (hq c hc).1

variable [DomainRules]

/-- How a URL with an authority is written. -/
theorem toList_text {host : List Char} {url : Url} {a : Authority} (h : OfWeb host url)
    (ha : url.authority = some a) :
    ∃ start query fragment, IsStart start ∧
      url.text.toList = start ++ (a.text.toList ++ (url.path.text.toList ++ (query ++ fragment))) ∧
      (query = [] ∨ ∃ q, query = '?' :: q ∧ ∀ c ∈ q, IsOfQuery c) ∧
      ∀ c r, fragment = c :: r → c = '#' := by
  have hstart : IsStart (url.scheme.toList ++ (":".toList ++ "//".toList)) := by
    rcases h.scheme with hs | hs <;> rw [hs]
    · exact Or.inl (by decide)
    · exact Or.inr (by decide)
  -- The fragment is not looked at: whatever it says, it begins with a `#`.
  unfold Url.text
  dsimp only
  rw [ha]
  dsimp only [Option.map_some]
  simp only [String.toList_append, List.append_assoc]
  refine ⟨_, _, _, hstart, by simp only [List.append_assoc]; rfl, ?_, ?_⟩
  · cases hquery : url.query with
    | none => exact Or.inl rfl
    | some q =>
      obtain ⟨cs, rfl⟩ := h.query q hquery
      exact Or.inr ⟨_, String.toList_append, escaped_query cs⟩
  · cases url.fragment with
    | none => exact fun c r heq => nomatch heq
    | some f =>
      intro c r heq
      dsimp only at heq
      rw [String.toList_append] at heq
      exact (List.cons.inj heq).1.symm

/-- **A URL of the web is written in the parts of a web address.** -/
theorem parts_of_text {host : List Char} {url : Url} (h : OfWeb host url)
    (hwritten : ∀ h, Host.readDomain host = .ok h → IsHost h.text.toList) :
    ∃ start auth tail, url.text.toList = start ++ (auth ++ tail) ∧ Parts start auth tail := by
  obtain ⟨a, ha, hescaped, hhost⟩ := h.authority
  obtain ⟨user, port, hauth, huser, hport⟩ := toList_authority hescaped
  obtain ⟨segments, hne, hpath⟩ := h.path
  obtain ⟨hslash, hpathChars⟩ := toList_path hne
  obtain ⟨hauthority, hnamed⟩ := authority_of_parts huser (hwritten a.host hhost) hport
  obtain ⟨start, query, fragment, hstart, htext, hquery, hfragment⟩ := toList_text h ha
  rw [← hauth] at hauthority hnamed
  rw [← hpath] at hslash hpathChars
  exact ⟨start, _, _, htext,
    parts_of_written hstart hauthority hnamed hslash hpathChars hquery hfragment⟩

/-- Without its user information it is still a URL of the web. -/
theorem OfWeb.withoutUserinfo {host : List Char} {url : Url} (h : OfWeb host url) :
    OfWeb host url.withoutUserinfo := by
  obtain ⟨a, ha, hescaped, hhost⟩ := h.authority
  unfold Url.withoutUserinfo
  dsimp only
  rw [ha]
  dsimp only
  split
  · exact ⟨h.scheme, ⟨_, rfl, ⟨⟨[], rfl⟩, fun p hp => nomatch hp⟩, hhost⟩, h.path, h.query⟩
  · exact h

/-- A URL of the web names a host, since none that is read is empty. -/
theorem hasHost_of_web {host : List Char} {url : Url} (h : OfWeb host url) :
    url.hasHost = true := by
  obtain ⟨a, ha, -, hhost⟩ := h.authority
  unfold Url.hasHost
  rw [ha]
  exact bne_iff_ne.2 (readDomain_ne_empty hhost)

/-- **Only its length** keeps a URL that was read from a web address from being one when it is
written. -/
theorem isAddressable_iff [LawfulDomainRules] {start auth tail : List Char}
    (h : Parts start auth tail) (hread : Readable auth) {url : Url}
    (hurl : OfWeb (hostText auth) url) :
    Delivery.isAddressable url = true ↔
      (Text.Utf8.ofString url.text).length ≤ Http.Uri.maxLength := by
  have hparts := parts_of_text hurl fun host hhost => isHost_of_readable h hread hhost
  have hsame : Delivery.isAddressable url = Http.isWebhookAddress url.text := rfl
  rw [hsame, Http.isWebhookAddress_iff, Http.Uri.isWebAddress_iff_parts]
  exact and_iff_left hparts

end VideoProbe.Url
