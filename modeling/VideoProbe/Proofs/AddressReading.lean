import Mathlib.Data.List.TakeWhile
import VideoProbe.Proofs.AddressParts
import VideoProbe.Url.Parser

/-!
# A web address read as a URL

The address of a webhook is looked at twice, and by two grammars: when it is named it has to be a
web address, and when it is called it is read as a URL.  Both cut the text at the same places.
Nothing before a `#` is lost when white space is dropped (`tidy_append`), the scheme is found again
(`scheme?_of_start`), and no character of an authority is one where the reader of a URL stops
(`takeHost_append`).

So they can only differ in what they ask of the parts.  User information, path and query are escaped
where they have to be, whatever they are; the host and the port are not.  **A web address is read as
a URL exactly if its host and its port are** (`parse_of_readable`, `parse_of_not_readable`).
-/

namespace VideoProbe.Url

open Http.Uri (IsStart IsVisible Parts isEnd isAuthorityChar beforeFragment)
open Text (cut_append head_of_dropWhile)
open Text.Utf8 (ascii_forall forall_mem_of_all)

/-! ## White space -/

/-- No such character is dropped from an end. -/
theorem not_isAround {c : Char} (h : IsVisible c) : isAround c = false :=
  decide_eq_false (Nat.not_le.2 h)

/-- Nothing is dropped before a character that can be seen. -/
theorem dropWhile_isAround {c : Char} (h : IsVisible c) (cs : List Char) :
    (c :: cs).dropWhile isAround = c :: cs := by
  rw [List.dropWhile_cons, not_isAround h]
  rfl

/-- No character that can be seen breaks a line. -/
theorem filter_visible {cs : List Char} (h : ∀ c ∈ cs, IsVisible c) :
    cs.filter (fun c => c != '\t' && c != '\n' && c != '\r') = cs := by
  refine List.filter_eq_self.2 fun c hc => ?_
  have hbreak : ∀ m : Char, m.toNat ≤ 0x20 → (c != m) = true := fun m hm =>
    bne_iff_ne.2 fun heq => absurd (heq ▸ h c hc) (Nat.not_lt.2 hm)
  rw [hbreak '\t' (by decide), hbreak '\n' (by decide), hbreak '\r' (by decide)]
  rfl

/-- What is tidied up stands behind a `#`. -/
theorem tidy_append {seen rest : List Char} (hseen : ∀ c ∈ seen, IsVisible c) (hne : seen ≠ [])
    (hrest : ∀ c r, rest = c :: r → c = '#') :
    ∃ kept, tidy (seen ++ rest) = seen ++ kept ∧ ∀ c r, kept = c :: r → c = '#' := by
  have hbefore : (seen ++ rest).dropWhile isAround = seen ++ rest := by
    obtain ⟨first, more, rfl⟩ := List.exists_cons_of_ne_nil hne
    exact dropWhile_isAround (hseen first List.mem_cons_self) _
  have hbehind : seen.reverse.dropWhile isAround = seen.reverse := by
    obtain ⟨last, more, hlast⟩ :=
      List.exists_cons_of_ne_nil (mt List.reverse_eq_nil_iff.1 hne)
    rw [hlast]
    exact dropWhile_isAround
      (hseen last (List.mem_reverse.1 (hlast ▸ List.mem_cons_self))) more
  unfold tidy
  rw [hbefore]
  cases rest with
  | nil =>
    refine ⟨[], ?_, fun c r h => nomatch h⟩
    rw [List.append_nil, hbehind, List.reverse_reverse, filter_visible hseen]
  | cons c r =>
    obtain rfl := hrest c r rfl
    -- Dropping from behind stops at the `#` at the latest.
    have hdrop : (seen ++ '#' :: r).reverse.dropWhile isAround =
        r.reverse.dropWhile isAround ++ '#' :: seen.reverse := by
      rw [List.reverse_append, List.reverse_cons, List.append_assoc, List.singleton_append,
        List.dropWhile_append]
      cases hr : r.reverse.dropWhile isAround with
      | nil => rfl
      | cons x xs => rfl
    rw [hdrop, List.reverse_append, List.reverse_cons, List.reverse_reverse, List.append_assoc,
      List.singleton_append, List.filter_append, filter_visible hseen]
    exact ⟨_, rfl, fun c' r' h => (List.cons.inj h).1.symm⟩

/-! ## The scheme -/

/-- What an address begins with: the letters of a scheme, a colon and two slashes. -/
theorem letters_of_start {start : List Char} (h : IsStart start) :
    ∃ name scheme, (scheme = "http" ∨ scheme = "https") ∧ start = name ++ [':', '/', '/'] ∧
      name.map Char.toLower = scheme.toList ∧ ∀ c ∈ name, c.isAlpha = true := by
  -- Only letters are changed in lower case, so the marks are found as they are.
  have hmark : ∀ m, m = ':' ∨ m = '/' → ∀ c : Char, c.toLower = m → c = m := by
    rintro m hm c rfl
    have hc : c.toNat < 0x80 :=
      Http.Uri.lt_of_toLower (by rcases hm with h | h <;> rw [h] <;> decide)
    exact ascii_forall (P := fun c => c.toLower = ':' ∨ c.toLower = '/' → c = c.toLower)
      (by decide +kernel) hc hm
  have hletter : ∀ c : Char, c.toLower ∈ "https".toList → c.isAlpha = true := by
    intro c hlower
    have hc : c.toNat < 0x80 :=
      Http.Uri.lt_of_toLower (forall_mem_of_all (P := (·.toNat < 0x80)) (by decide) _ hlower)
    exact ascii_forall (P := fun c => c.toLower ∈ "https".toList → c.isAlpha = true)
      (by decide +kernel) hc hlower
  obtain ⟨scheme, hscheme, hstart⟩ : ∃ scheme, (scheme = "http" ∨ scheme = "https") ∧
      start.map Char.toLower = scheme.toList ++ [':', '/', '/'] := by
    rcases h with h | h
    · exact ⟨"http", Or.inl rfl, h⟩
    · exact ⟨"https", Or.inr rfl, h⟩
  obtain ⟨name, marks, rfl, hlower, hmarks⟩ := List.map_eq_append_iff.1 hstart
  obtain rfl : marks = [':', '/', '/'] := by
    obtain ⟨a, marks, rfl, ha, hmarks⟩ := List.map_eq_cons_iff.1 hmarks
    obtain ⟨b, marks, rfl, hb, hmarks⟩ := List.map_eq_cons_iff.1 hmarks
    obtain ⟨c, marks, rfl, hc, hmarks⟩ := List.map_eq_cons_iff.1 hmarks
    rw [hmark ':' (Or.inl rfl) a ha, hmark '/' (Or.inr rfl) b hb, hmark '/' (Or.inr rfl) c hc,
      List.map_eq_nil_iff.1 hmarks]
  refine ⟨name, scheme, hscheme, rfl, hlower, fun c hc => hletter c ?_⟩
  have hmem : c.toLower ∈ scheme.toList := hlower ▸ List.mem_map_of_mem hc
  rcases hscheme with rfl | rfl
  · exact forall_mem_of_all (P := (· ∈ "https".toList)) (by decide) _ hmem
  · exact hmem

/-- A scheme of the web is found again, in lower case. -/
theorem scheme?_of_start {start : List Char} (h : IsStart start) (rest : List Char) :
    ∃ scheme, (scheme = "http" ∨ scheme = "https") ∧
      scheme? (start ++ rest) = some (scheme, '/' :: '/' :: rest) := by
  obtain ⟨name, scheme, hscheme, rfl, hlower, hletters⟩ := letters_of_start h
  refine ⟨scheme, hscheme, ?_⟩
  have htext : name ++ [':', '/', '/'] ++ rest = name ++ ':' :: '/' :: '/' :: rest := by
    rw [List.append_assoc]
    rfl
  have hall : ∀ c ∈ name, isSchemeChar c = true := fun c hc => by
    simp [isSchemeChar, Char.isAlphanum, hletters c hc]
  have hcolon : isSchemeChar ':' = false := by decide
  unfold scheme?
  rw [htext, List.takeWhile_append_of_pos hall, List.dropWhile_append_of_pos hall,
    List.takeWhile_cons, List.dropWhile_cons, hcolon]
  cases name with
  | nil =>
    -- A scheme has a first letter.
    rcases hscheme with rfl | rfl <;> exact nomatch hlower
  | cons first name =>
    rw [if_neg Bool.false_ne_true, if_neg Bool.false_ne_true, List.append_nil]
    refine (if_pos (hletters first List.mem_cons_self)).trans ?_
    rw [hlower, String.ofList_toList]

/-! ## User information -/

/-- The host and the port in an authority: what follows the last `@`. -/
def hostPort (auth : List Char) : List Char :=
  (auth.reverse.takeWhile (· != '@')).reverse

/-- An authority is its host and port alone, or has user information before them. -/
theorem hostPort_cases (auth : List Char) :
    ('@' ∉ auth ∧ hostPort auth = auth) ∨ ∃ user, auth = user ++ '@' :: hostPort auth := by
  have hsplit : auth = (auth.reverse.dropWhile (· != '@')).reverse ++ hostPort auth := by
    rw [hostPort, ← List.reverse_append, List.takeWhile_append_dropWhile, List.reverse_reverse]
  cases hrest : auth.reverse.dropWhile (· != '@') with
  | nil =>
    rw [hrest, List.reverse_nil, List.nil_append] at hsplit
    refine Or.inl ⟨fun hmem => ?_, hsplit.symm⟩
    have hall := List.dropWhile_eq_nil_iff.1 hrest '@' (List.mem_reverse.2 hmem)
    exact absurd hall (by decide)
  | cons c user =>
    obtain rfl : c = '@' := by simpa using head_of_dropWhile hrest
    refine Or.inr ⟨user.reverse, ?_⟩
    rw [hrest, List.reverse_cons, List.append_assoc] at hsplit
    exact hsplit

section

variable {special : Bool} {auth cs tail : List Char}

/-- **The host and the port begin** behind the last `@` of the authority. -/
theorem cutUserinfo_append (hauth : ∀ c ∈ auth, endsAuthority special c = false)
    (hopens : ∀ c r, tail = c :: r → endsAuthority special c = true) :
    (cutUserinfo special (auth ++ tail)).2 = hostPort auth ++ tail := by
  have hregion : (auth ++ tail).takeWhile (!endsAuthority special ·) = auth :=
    (cut_append (fun c hc => by rw [hauth c hc]; rfl)
      fun c r heq => by rw [hopens c r heq]; rfl).1
  unfold cutUserinfo
  dsimp only
  rw [hregion]
  rcases hostPort_cases auth with ⟨hnone, hhost⟩ | ⟨user, hauth⟩
  · rw [if_neg (by simpa using hnone), hhost]
  · -- The reader counts from behind how far the last `@` is away.
    have hreverse : auth.reverse = (auth.reverse.takeWhile (· != '@')) ++ '@' :: user.reverse := by
      rw [← List.reverse_reverse (auth.reverse.takeWhile _)]
      conv_lhs => rw [hauth]
      rw [List.reverse_append, List.reverse_cons, List.append_assoc]
      rfl
    have hdrop : auth.reverse.drop ((auth.reverse.takeWhile (· != '@')).length + 1) =
        user.reverse :=
      (congrArg (List.drop _) hreverse).trans (by rw [← List.drop_drop, List.drop_left]; rfl)
    have hmem : auth.contains '@' = true := by
      rw [hauth]
      simp
    rw [if_pos hmem]
    dsimp only
    rw [hdrop, List.reverse_reverse]
    conv_lhs => rw [hauth]
    rw [List.append_assoc, ← List.drop_drop, List.drop_left]
    rfl

/-! ## The host and the port -/

/-- The reader of the host does not look past an authority, by induction on the authority, inside
brackets and outside. -/
theorem takeHost_append (hcs : ∀ c ∈ cs, endsAuthority special c = false)
    (hopens : ∀ c r, tail = c :: r → endsAuthority special c = true) (inside : Bool) :
    takeHost special inside (cs ++ tail) =
      ((takeHost special inside cs).1, (takeHost special inside cs).2 ++ tail) := by
  induction cs generalizing inside with
  | nil =>
    cases tail with
    | nil => rfl
    | cons c r => simp [takeHost, hopens c r rfl]
  | cons c cs ih =>
    rw [List.cons_append, takeHost, takeHost, hcs c List.mem_cons_self, Bool.false_or]
    split
    · rfl
    · rw [ih fun d hd => hcs d (List.mem_cons_of_mem c hd)]

/-- The host and what is left are the whole. -/
theorem takeHost_joined (special inside : Bool) (cs : List Char) :
    (takeHost special inside cs).1 ++ (takeHost special inside cs).2 = cs := by
  induction cs generalizing inside with
  | nil => rfl
  | cons c cs ih =>
    rw [takeHost]
    split
    · rfl
    · exact congrArg (c :: ·) (ih _)

/-- What is left of an authority begins with a colon. -/
theorem takeHost_left (hcs : ∀ c ∈ cs, endsAuthority special c = false) (inside : Bool) :
    (takeHost special inside cs).2 = [] ∨ ∃ r, (takeHost special inside cs).2 = ':' :: r := by
  induction cs generalizing inside with
  | nil => exact Or.inl rfl
  | cons c cs ih =>
    rw [takeHost, hcs c List.mem_cons_self, Bool.false_or]
    split
    · rename_i hcolon
      rw [Bool.and_eq_true, beq_iff_eq] at hcolon
      exact Or.inr ⟨cs, by rw [hcolon.1]⟩
    · exact ih (fun d hd => hcs d (List.mem_cons_of_mem c hd)) _

end

/-- A number that a port can have, in digits; no digits at all will do. -/
def IsPortNumber (digits : List Char) : Prop :=
  (∀ c ∈ digits, c.isDigit = true) ∧ (numberIn? 10 digits).getD 0 ≤ 65535

/-- A port behind a host: nothing, or a colon and a number. -/
def IsPort (cs : List Char) : Prop :=
  cs = [] ∨ ∃ digits, cs = ':' :: digits ∧ IsPortNumber digits

/-- No mark that ends an authority is a digit, so the digits of a port end before it. -/
theorem not_isDigit_of_ends {c : Char} (h : endsAuthority true c = true) : c.isDigit = false := by
  have hcases : c = '/' ∨ c = '\\' ∨ c = '?' ∨ c = '#' := by
    simpa [endsAuthority, isSlash, or_assoc] using h
  rcases hcases with rfl | rfl | rfl | rfl <;> rfl

/-- **A port is read** if it is a number that fits, and all of it is. -/
theorem readPort_append {digits tail : List Char} (scheme : String)
    (hopens : ∀ c r, tail = c :: r → endsAuthority true c = true) (h : IsPortNumber digits) :
    ∃ port, readPort scheme (digits ++ tail) = .ok (port, tail) := by
  obtain ⟨htake, hdrop⟩ := cut_append h.1 fun c r heq => not_isDigit_of_ends (hopens c r heq)
  unfold readPort
  dsimp only
  rw [htake, hdrop, if_neg (Nat.not_lt.2 h.2)]
  cases tail with
  | nil => exact ⟨_, rfl⟩
  | cons c r => exact ⟨_, if_pos (hopens c r rfl)⟩

/-- And what is no such number is refused. -/
theorem readPort_refuses {cs tail : List Char} (scheme : String)
    (hcs : ∀ c ∈ cs, endsAuthority true c = false)
    (hopens : ∀ c r, tail = c :: r → endsAuthority true c = true) (h : ¬ IsPortNumber cs) :
    readPort scheme (cs ++ tail) = .error .badPort := by
  unfold readPort
  dsimp only
  cases hrest : cs.dropWhile Char.isDigit with
  | nil =>
    -- Nothing but digits: the number is too large.
    have hdigits := List.dropWhile_eq_nil_iff.1 hrest
    have hnumber : 65535 < (numberIn? 10 cs).getD 0 :=
      Nat.lt_of_not_le fun hle => h ⟨hdigits, hle⟩
    obtain ⟨htake, -⟩ := cut_append hdigits fun c r heq => not_isDigit_of_ends (hopens c r heq)
    rw [htake, if_pos hnumber]
  | cons c r =>
    have hc : endsAuthority true c = false :=
      hcs c ((List.dropWhile_sublist _).subset (hrest ▸ List.mem_cons_self))
    have hdrop : (cs ++ tail).dropWhile Char.isDigit = c :: (r ++ tail) := by
      rw [List.dropWhile_append, hrest]
      rfl
    rw [hdrop, List.head?_cons]
    split
    · rfl
    · exact if_neg (by rw [hc]; exact Bool.false_ne_true)

/-! ## Who and where -/

/-- The host in an authority, as the reader of a URL takes it. -/
def hostText (auth : List Char) : List Char :=
  (takeHost true false (hostPort auth)).1

/-- What follows the host in an authority. -/
def portText (auth : List Char) : List Char :=
  (takeHost true false (hostPort auth)).2

/-- What an authority needs so that it can be read: a host, and after it a port. -/
structure Readable [DomainRules] (auth : List Char) : Prop where
  host : ∃ host, Host.readDomain (hostText auth) = .ok host
  port : IsPort (portText auth)

/-- The text of user information is escaped. -/
structure Authority.Escaped (a : Authority) : Prop where
  username : ∃ user, a.username = escape keepInUserinfo user
  password : ∀ p, a.password = some p → ∃ password, p = escape keepInUserinfo password

/-- No character of an authority is one where the reader of a URL stops. -/
theorem not_endsAuthority {c : Char} (h : isAuthorityChar c = true) :
    endsAuthority true c = false :=
  ascii_forall (P := fun c => isAuthorityChar c = true → endsAuthority true c = false)
    (by decide +kernel) (Http.Uri.lt_of_authority h) h

/-- And where a web address ends its authority, the reader of a URL ends it as well. -/
theorem endsAuthority_of_isEnd {c : Char} (h : isEnd c = true) : endsAuthority true c = true := by
  have hcases : c = '/' ∨ c = '?' ∨ c = '#' := by simpa [isEnd, or_assoc] using h
  rcases hcases with rfl | rfl | rfl <;> rfl

/-- The octets of text of ASCII can be looked at from behind. -/
theorem encode_reverse {cs : List Char} (h : ∀ c ∈ cs, c.toNat < 0x80) :
    Text.Utf8.encode cs.reverse = (Text.Utf8.encode cs).reverse := by
  rw [Text.Utf8.encode_ascii h, Text.Utf8.encode_ascii fun c hc => h c (List.mem_reverse.1 hc),
    List.map_reverse]

/-- The host and the port are a part of the authority. -/
theorem mem_of_hostPort {auth : List Char} {c : Char} (h : c ∈ hostPort auth) : c ∈ auth :=
  List.mem_reverse.1 ((List.takeWhile_sublist _).subset (List.mem_reverse.1 h))

/-- A web address has a host exactly if something other than a port follows the last `@`. -/
theorem host_ne_nil_iff {auth : List Char} (h : ∀ c ∈ auth, c.toNat < 0x80) :
    Http.Uri.host (Text.Utf8.encode auth) ≠ [] ↔ ∃ c r, hostPort auth = c :: r ∧ c ≠ ':' := by
  have hlow : ∀ c ∈ hostPort auth, c.toNat < 0x80 := fun c hc => h c (mem_of_hostPort hc)
  -- The octets and the characters are cut at the same `@`.
  have hat : ((Text.Utf8.encode auth).reverse.takeWhile (· != 0x40)).reverse =
      Text.Utf8.encode (hostPort auth) := by
    have hmarks := Http.Uri.sameMarks_ne (m := '@') (by decide)
    rw [← encode_reverse h, hostPort, encode_reverse fun c hc => hlow c (List.mem_reverse.2 hc)]
    exact congrArg List.reverse (hmarks.takeWhile_encode auth.reverse)
  unfold Http.Uri.host
  dsimp only
  rw [hat]
  cases hhost : hostPort auth with
  | nil => simp [Text.Utf8.encode]
  | cons c r =>
    have hc : c.toNat < 0x80 := hlow c (hhost ▸ List.mem_cons_self)
    have hcolon : Text.Utf8.octet c ≠ 0x3A ↔ c ≠ ':' :=
      not_congr (Http.Uri.octet_eq_iff hc (m := ':') (by decide))
    have hiff : (∃ c' r', c :: r = c' :: r' ∧ c' ≠ ':') ↔ Text.Utf8.octet c ≠ 0x3A := by
      rw [hcolon]
      constructor
      · rintro ⟨c', r', heq, hne⟩
        rwa [(List.cons.inj heq).1]
      · exact fun hne => ⟨c, r, rfl, hne⟩
    rw [hiff, Text.Utf8.encode_cons, Text.Utf8.encodeChar_ascii hc, List.singleton_append]
    split
    · -- A host in brackets is never empty.
      rename_i hopen
      have hoctet : Text.Utf8.octet c = 0x5B := (List.cons.inj hopen).1
      rw [hoctet]
      simp
    · rw [List.takeWhile_cons]
      by_cases hoctet : Text.Utf8.octet c = 0x3A
      · simp [hoctet, show UInt8.ofNat c.toNat = 0x3A from hoctet]
      · simp [hoctet, show UInt8.ofNat c.toNat ≠ 0x3A from hoctet]

/-- A domain in ASCII never names an empty host. -/
theorem ofAscii_ne_empty {ascii : List Char} {host : Host} (h : Host.ofAscii ascii = .ok host) :
    host ≠ .name "" := by
  unfold Host.ofAscii at h
  repeat' split at h
  all_goals cases h
  · exact Host.noConfusion
  · rename_i hne _
    intro hempty
    have hnil : ascii = [] := String.ofList_injective (Host.name.inj hempty)
    exact hne (by rw [hnil]; rfl)

/-- The reader of a domain never answers with an empty name. -/
theorem readDomain_ne_empty [DomainRules] {cs : List Char} {host : Host}
    (h : Host.readDomain cs = .ok host) : host ≠ .name "" := by
  unfold Host.readDomain at h
  split at h
  · unfold Host.readBracketed at h
    repeat' split at h
    all_goals cases h
    exact Host.noConfusion
  · split at h
    · cases h
    · split at h
      · cases h
      · exact ofAscii_ne_empty h

/-- User information is escaped when it is read, whatever stands in it. -/
theorem readUserinfo_escaped (cs : List Char) (host : Host) (port : Option Nat) :
    Authority.Escaped
      { username := (readUserinfo cs).1, password := (readUserinfo cs).2, host, port } where
  username := ⟨_, rfl⟩
  password p hp := by
    unfold readUserinfo at hp
    dsimp only at hp
    split at hp
    · exact nomatch hp
    · exact ⟨_, (Option.some.inj hp).symm⟩

section

variable {scheme : String} {start auth tail : List Char}

/-- The reader of a URL does not stop in the authority of a web address. -/
theorem goesOn_of_parts (h : Parts start auth tail) :
    ∀ c ∈ auth, endsAuthority true c = false := fun c hc =>
  not_endsAuthority (Http.Uri.chars_of_authority h.authority c hc)

/-- It stops behind it. -/
theorem stops_of_parts (h : Parts start auth tail) :
    ∀ c r, tail = c :: r → endsAuthority true c = true := fun c r heq =>
  endsAuthority_of_isEnd (h.opens c r heq)

/-- Something other than a port follows the last `@` of a web address. -/
theorem hostPort_of_parts (h : Parts start auth tail) :
    ∃ c r, hostPort auth = c :: r ∧ c ≠ ':' :=
  (host_ne_nil_iff fun c hc =>
    Http.Uri.lt_of_authority (Http.Uri.chars_of_authority h.authority c hc)).1 h.host

/-- So the host of a web address is not empty. -/
theorem isEmpty_hostText (h : Parts start auth tail) : (hostText auth).isEmpty = false := by
  obtain ⟨first, more, hfirst, hcolon⟩ := hostPort_of_parts h
  have hends := goesOn_of_parts h first (mem_of_hostPort (hfirst ▸ List.mem_cons_self))
  rw [hostText, hfirst, takeHost, hends, beq_eq_false_iff_ne.2 hcolon]
  rfl

/-- Host and port are taken from the authority of a web address. -/
theorem taken_of_parts (h : Parts start auth tail) :
    (cutUserinfo true (auth ++ tail)).2 = hostPort auth ++ tail ∧
      takeHost true false (hostPort auth ++ tail) = (hostText auth, portText auth ++ tail) :=
  ⟨cutUserinfo_append (goesOn_of_parts h) (stops_of_parts h),
    takeHost_append (fun c hc => goesOn_of_parts h c (mem_of_hostPort hc)) (stops_of_parts h) false⟩

/-- What becomes of an authority, where what its host is read as is known. -/
theorem readAuthority_append [DomainRules] (hspecial : isSpecial scheme = true)
    (h : Parts start auth tail) :
    ∃ a : Authority, a.Escaped ∧
      (∀ fault, Host.readDomain (hostText auth) = .error fault →
        readAuthority scheme (auth ++ tail) = .error fault) ∧
      (∀ host, Host.readDomain (hostText auth) = .ok host → portText auth = [] →
        readAuthority scheme (auth ++ tail) = .ok ({ a with host, port := none }, tail)) ∧
      ∀ host cs, Host.readDomain (hostText auth) = .ok host → portText auth = ':' :: cs →
        readAuthority scheme (auth ++ tail) =
          (readPort scheme (cs ++ tail)).map fun (port, rest) => ({ a with host, port }, rest) := by
  obtain ⟨hrest, htake⟩ := taken_of_parts h
  obtain ⟨user, hcut⟩ : ∃ user, cutUserinfo true (auth ++ tail) = (user, hostPort auth ++ tail) :=
    ⟨_, Prod.ext rfl hrest⟩
  obtain ⟨first, more, hfirst, -⟩ := hostPort_of_parts h
  have hends := goesOn_of_parts h first (mem_of_hostPort (hfirst ▸ List.mem_cons_self))
  refine ⟨{ username := (readUserinfo (user.getD [])).1,
            password := (readUserinfo (user.getD [])).2, host := .name "" },
    readUserinfo_escaped _ _ _, ?_⟩
  -- The reader goes past the two checks for an empty host, and asks for the host and the port.
  unfold readAuthority
  dsimp only
  rw [hspecial, hcut]
  dsimp only
  rw [htake, hfirst, List.cons_append, List.head?_cons, Option.map_some, hends, Option.getD_some,
    Bool.and_false, if_neg Bool.false_ne_true]
  dsimp only [pure_bind]
  rw [isEmpty_hostText h, Bool.and_false, if_neg Bool.false_ne_true, if_pos rfl]
  dsimp only [bind, Except.bind, pure, Except.pure]
  refine ⟨fun fault hfault => ?_, fun host hhost hport => ?_, fun host cs hhost hport => ?_⟩
  · rw [hfault]
  · rw [hhost, hport, List.nil_append]
    dsimp only
    split
    · exact absurd (stops_of_parts h ':' _ rfl) (by decide)
    · rw [decide_eq_false (readDomain_ne_empty hhost), Bool.false_and, if_neg Bool.false_ne_true]
  · rw [hhost, hport]
    refine (if_neg (readDomain_ne_empty hhost)).trans ?_
    cases readPort scheme (cs ++ tail) <;> rfl

/-- What is left of an authority behind its host, if anything, is a colon and more. -/
theorem portText_cases (h : Parts start auth tail) :
    portText auth = [] ∨ ∃ cs, portText auth = ':' :: cs :=
  takeHost_left (fun c hc => goesOn_of_parts h c (mem_of_hostPort hc)) false

/-- An authority with a host and a port is read. -/
theorem readAuthority_of_readable [DomainRules] (hspecial : isSpecial scheme = true)
    (h : Parts start auth tail) (hread : Readable auth) :
    ∃ a, readAuthority scheme (auth ++ tail) = .ok (a, tail) ∧ a.Escaped ∧
      Host.readDomain (hostText auth) = .ok a.host := by
  obtain ⟨a, hescaped, -, hbare, hwith⟩ := readAuthority_append hspecial h
  obtain ⟨host, hhost⟩ := hread.host
  rcases hread.port with hport | ⟨digits, hport, hnumber⟩
  · exact ⟨_, hbare host hhost hport, ⟨hescaped.username, hescaped.password⟩, hhost⟩
  · obtain ⟨port, hok⟩ := readPort_append scheme (stops_of_parts h) hnumber
    have hread := hwith host digits hhost hport
    rw [hok] at hread
    exact ⟨_, hread, ⟨hescaped.username, hescaped.password⟩, hhost⟩

/-- And one without is not. -/
theorem readAuthority_of_not_readable [DomainRules] (hspecial : isSpecial scheme = true)
    (h : Parts start auth tail) (hread : ¬ Readable auth) :
    ∃ fault, readAuthority scheme (auth ++ tail) = .error fault := by
  obtain ⟨a, -, hfails, -, hwith⟩ := readAuthority_append hspecial h
  cases hhost : Host.readDomain (hostText auth) with
  | error fault => exact ⟨fault, hfails fault hhost⟩
  | ok host =>
    have hport : ¬ IsPort (portText auth) := fun hport => hread ⟨⟨host, hhost⟩, hport⟩
    rcases portText_cases h with hnone | ⟨cs, hcs⟩
    · exact absurd (Or.inl hnone) hport
    · -- What is left of the authority is no port, and it is all that stands before the next part.
      have hmore : ∀ c ∈ cs, endsAuthority true c = false := by
        intro c hc
        have hmem : c ∈ hostPort auth := by
          have hleft : (takeHost true false (hostPort auth)).2 = ':' :: cs := hcs
          rw [← takeHost_joined true false (hostPort auth), hleft]
          exact List.mem_append_right _ (List.mem_cons_of_mem _ hc)
        exact goesOn_of_parts h c (mem_of_hostPort hmem)
      have hrefused := readPort_refuses scheme hmore (stops_of_parts h) fun hnumber =>
        hport (Or.inr ⟨cs, hcs, hnumber⟩)
      have hread := hwith host cs hhost hcs
      rw [hrefused] at hread
      exact ⟨_, hread⟩

/-! ## The whole -/

/-- A URL of the web, with what its host was read from. -/
structure OfWeb [DomainRules] (host : List Char) (url : Url) : Prop where
  scheme : url.scheme = "http" ∨ url.scheme = "https"
  authority : ∃ a, url.authority = some a ∧ a.Escaped ∧ Host.readDomain host = .ok a.host
  path : ∃ segments, segments ≠ [] ∧ url.path = .rooted (tidySegments [] segments)
  query : ∀ q, url.query = some q → ∃ cs, q = escape (keepInQuery true) cs

/-- The path of a URL of the web is rooted and has a segment, even where none is written. -/
theorem readPath_rooted (cs : List Char) :
    ∃ segments, segments ≠ [] ∧ readPath true cs = .rooted (tidySegments [] segments) := by
  unfold readPath readSegments
  cases cs with
  | nil => exact ⟨_, splitAt_ne_nil _ _, rfl⟩
  | cons c rest =>
    dsimp only
    split
    · exact ⟨_, splitAt_ne_nil _ _, rfl⟩
    · rw [Bool.not_true, Bool.and_false, if_neg Bool.false_ne_true]
      exact ⟨_, splitAt_ne_nil _ _, rfl⟩

/-- Query and fragment come to the other parts. -/
theorem withRest_spec (u : Url) (cs : List Char) :
    (withRest u cs).scheme = u.scheme ∧ (withRest u cs).authority = u.authority ∧
      (withRest u cs).path = u.path ∧
      ∀ q, (withRest u cs).query = some q →
        ∃ qs, q = escape (keepInQuery (isSpecial u.scheme)) qs := by
  unfold withRest
  dsimp only
  split
  · exact ⟨rfl, rfl, rfl, fun q hq => ⟨_, (Option.some.inj hq).symm⟩⟩
  · exact ⟨rfl, rfl, rfl, fun q hq => nomatch hq⟩

/-- Behind a `#` an address may hold anything. -/
theorem parts_of_fragment {kept : List Char} (h : Parts start auth tail)
    (hkept : ∀ c r, kept = c :: r → c = '#') : Parts start auth (beforeFragment tail ++ kept) := by
  have hbefore : beforeFragment (beforeFragment tail ++ kept) = beforeFragment tail := by
    have hall : ∀ c ∈ beforeFragment tail, (c != '#') = true := fun _ hc =>
      List.mem_takeWhile_imp (p := (· != '#')) hc
    exact (cut_append hall fun c r heq => by rw [hkept c r heq]; rfl).1
  refine ⟨h.start, h.authority, h.host, fun c r heq => ?_, by rw [hbefore]; exact h.path,
    by rw [hbefore]; exact h.query⟩
  cases hfirst : beforeFragment tail with
  | nil =>
    rw [hfirst] at heq
    rw [hkept c r heq]
    rfl
  | cons d before =>
    rw [hfirst] at heq
    have hsplit : tail = beforeFragment tail ++ tail.dropWhile (· != '#') :=
      List.takeWhile_append_dropWhile.symm
    rw [hfirst] at hsplit
    exact (List.cons.inj heq).1 ▸ h.opens d _ hsplit

/-- The schemes of the web are special ones. -/
theorem isSpecial_of_web {scheme : String} (h : scheme = "http" ∨ scheme = "https") :
    isSpecial scheme = true := by
  rcases h with rfl | rfl <;> decide

/-- Behind its two slashes a URL of the web is who and where, and a path. -/
theorem readAbsolute_slashes [DomainRules] {scheme : String}
    (hscheme : scheme = "http" ∨ scheme = "https") {c : Char} (hc : isSlash true c = false)
    (cs : List Char) :
    readAbsolute none scheme ('/' :: '/' :: c :: cs) = readHierarchy scheme (c :: cs) := by
  have hfile : scheme ≠ "file" := by rcases hscheme with rfl | rfl <;> decide
  have hslashes : ('/' :: '/' :: c :: cs).takeWhile (isSlash true) = ['/', '/'] := by
    have hslash : isSlash true '/' = true := rfl
    simp only [List.takeWhile_cons, hslash, hc, if_true, Bool.false_eq_true, if_false]
  unfold readAbsolute
  rw [if_neg hfile, if_pos (isSpecial_of_web hscheme)]
  dsimp only [Option.filter]
  rw [hslashes]
  rfl

/-- **A web address is read from its authority on**, and what is lost of it stands behind a `#`. -/
theorem parse_parts [DomainRules] {text : String} (htext : text.toList = start ++ (auth ++ tail))
    (h : Parts start auth tail) :
    ∃ scheme kept, (scheme = "http" ∨ scheme = "https") ∧ Parts start auth kept ∧
      parse text = readHierarchy scheme (auth ++ kept) := by
  have hsplit : start ++ (auth ++ tail) =
      (start ++ (auth ++ beforeFragment tail)) ++ tail.dropWhile (· != '#') := by
    rw [List.append_assoc, List.append_assoc, beforeFragment, List.takeWhile_append_dropWhile]
  have hvisible : ∀ c ∈ start ++ (auth ++ beforeFragment tail), IsVisible c :=
    h.beforeFragment_eq ▸ h.visible
  obtain ⟨first, more, hfirst, -⟩ := hostPort_of_parts h
  have hauth : first ∈ auth := mem_of_hostPort (hfirst ▸ List.mem_cons_self)
  -- All that stands before a `#` can be seen, so nothing of it is dropped.
  have hmark : ∀ c r, tail.dropWhile (· != '#') = c :: r → c = '#' := fun c r heq => by
    simpa using head_of_dropWhile heq
  obtain ⟨kept, htidy, hkept⟩ := tidy_append hvisible
    (List.ne_nil_of_mem (List.mem_append_right _ (List.mem_append_left _ hauth))) hmark
  obtain ⟨scheme, hscheme, hread⟩ :=
    scheme?_of_start h.start (auth ++ (beforeFragment tail ++ kept))
  refine ⟨scheme, beforeFragment tail ++ kept, hscheme, parts_of_fragment h hkept, ?_⟩
  unfold parse parseWith
  dsimp only
  rw [htext, hsplit, htidy, List.append_assoc, List.append_assoc, hread]
  dsimp only
  cases hcs : auth with
  | nil =>
    rw [hcs] at hauth
    exact nomatch hauth
  | cons c cs =>
    have hends := goesOn_of_parts h c (hcs ▸ List.mem_cons_self)
    have hslash : isSlash true c = false := by
      unfold endsAuthority at hends
      rw [Bool.or_eq_false_iff, Bool.or_eq_false_iff] at hends
      exact hends.1.1
    exact readAbsolute_slashes hscheme hslash _

/-- The authority in an address: what stands between the two slashes and the next mark that ends
it. -/
def authorityText (text : String) : List Char :=
  ((text.toList.dropWhile (· != '/')).drop 2).takeWhile (!isEnd ·)

/-- In a web address the first two slashes are those behind the scheme. -/
theorem authorityText_eq {text : String} (htext : text.toList = start ++ (auth ++ tail))
    (h : Parts start auth tail) : authorityText text = auth := by
  obtain ⟨name, -, -, rfl, -, hletters⟩ := letters_of_start h.start
  have hname : ∀ c ∈ name ++ [':'], (c != '/') = true := by
    intro c hc
    refine bne_iff_ne.2 fun heq => ?_
    rcases List.mem_append.1 (heq ▸ hc) with hc | hc
    · exact absurd (hletters '/' hc) (by decide)
    · exact absurd (List.mem_singleton.1 hc) (by decide)
  have hsplit : name ++ [':', '/', '/'] ++ (auth ++ tail) =
      (name ++ [':']) ++ '/' :: '/' :: (auth ++ tail) := by
    rw [List.append_assoc, List.append_assoc]
    rfl
  unfold authorityText
  rw [htext, hsplit, List.dropWhile_append_of_pos hname]
  exact (Http.Uri.cut_authority h.authority h.opens).1

/-- **An address whose authority has a host and a port** is read as a URL of the web. -/
theorem parse_of_readable [DomainRules] {text : String}
    (htext : text.toList = start ++ (auth ++ tail)) (h : Parts start auth tail)
    (hread : Readable auth) :
    ∃ url, parse text = .ok url ∧ OfWeb (hostText auth) url := by
  obtain ⟨scheme, kept, hscheme, hparts, hparse⟩ := parse_parts htext h
  have hspecial := isSpecial_of_web hscheme
  obtain ⟨a, ha, hescaped, hhost⟩ := readAuthority_of_readable hspecial hparts hread
  obtain ⟨segments, hne, hpath⟩ := readPath_rooted kept
  unfold readHierarchy at hparse
  rw [ha] at hparse
  dsimp only [bind, Except.bind, pure, Except.pure] at hparse
  obtain ⟨hs, hauthority, hp, hquery⟩ := withRest_spec
    { scheme, authority := some a, path := readPath (isSpecial scheme) kept } kept
  rw [hspecial] at hp hquery hs hauthority hparse
  exact ⟨_, hparse, hs ▸ hscheme, ⟨a, hauthority, hescaped, hhost⟩,
    ⟨segments, hne, hp.trans hpath⟩, hquery⟩

/-- And any other address is not read at all. -/
theorem parse_of_not_readable [DomainRules] {text : String}
    (htext : text.toList = start ++ (auth ++ tail)) (h : Parts start auth tail)
    (hread : ¬ Readable auth) :
    ∃ fault, parse text = .error fault := by
  obtain ⟨scheme, kept, hscheme, hparts, hparse⟩ := parse_parts htext h
  obtain ⟨fault, hfault⟩ := readAuthority_of_not_readable (isSpecial_of_web hscheme) hparts hread
  unfold readHierarchy at hparse
  rw [hfault] at hparse
  exact ⟨fault, hparse⟩

end

end VideoProbe.Url
