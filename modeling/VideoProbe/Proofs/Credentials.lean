import VideoProbe.Proofs.Basic
import VideoProbe.Proofs.Marks
import VideoProbe.Settings.Database

/-!
# Credentials in the URL of the database

A user or a password may hold any character at all, also those that divide a URL into its parts.
What keeps the parts apart is that the encoded text holds none of them (`not_mem_encodeUserinfo`),
so that the first marks of the URL are those that were put between its parts; and what brings user
and password back is that the encoding is undone octet by octet (`decoded_encodeUserinfo`).

The settings can be read exactly where all parts are named (`ofEnvironment_ok_iff`), and then the
URL says what was named, whatever it is (`credentials_recovered`).  So the URLs of two environments
with different users or passwords differ.
-/

namespace VideoProbe

open Text

/-! ## What is encoded -/

/-- No character that stands for itself is a percent sign or beyond ASCII. -/
theorem sparing_isUnreserved : Percent.Sparing isUnreserved :=
  Utf8.octet_forall (P := fun b => isUnreserved b = true → b.toNat < 0x80 ∧ b ≠ 0x25)
    (by decide +kernel)

/-- The percent-encoded text, decoded, if the octets are text. -/
def percentDecoded (cs : List Char) : Option String :=
  Utf8.toString? (Percent.decode (Utf8.encode cs))

/-- Decoding what has been encoded gives it back. -/
theorem decoded_encodeUserinfo (s : String) :
    percentDecoded (encodeUserinfo s).toList = some s := by
  unfold percentDecoded encodeUserinfo
  rw [String.toList_ofList, Percent.decode_encode sparing_isUnreserved]
  exact Utf8.toString?_ofString s

/-- None of the marks of a URL is left in an encoded text. -/
theorem not_mem_encodeUserinfo (s : String) {c : Char} (hc : c ∈ [':', '@', '/', '?', '#']) :
    c ∉ (encodeUserinfo s).toList := by
  have hmarks : ∀ c ∈ [':', '@', '/', '?', '#'], isUnreserved (UInt8.ofNat c.toNat) = false ∧
      c ≠ '%' ∧ c.toNat < 0x80 ∧ ∀ n, n < 16 → c ≠ Percent.upperHexDigit n :=
    Utf8.forall_mem_of_all (by decide)
  obtain ⟨hfree, hpercent, hascii, hdigit⟩ := hmarks c hc
  intro hmem
  rw [encodeUserinfo, String.toList_ofList] at hmem
  rcases Percent.mem_encode hmem with ⟨b, hb, rfl⟩ | h | ⟨n, hn, h⟩
  · rw [Token.toNat_ofNat _ (sparing_isUnreserved b hb).1, UInt8.ofNat_toNat, hb] at hfree
    exact nomatch hfree
  · exact hpercent h
  · exact hdigit n hn h

/-! ## What is named -/

/-- The port that an environment names, or the usual one where it names none. -/
def NamesPort (env : Environment) (port : Nat) : Prop :=
  (env.nonempty? "VI_DB_PORT" = none ∧ port = DatabaseSettings.defaultPort) ∨
    ∃ raw, env.nonempty? "VI_DB_PORT" = some raw ∧ Decimal.word16? raw = some port

/-- The parts of the URL. -/
structure DatabaseParts where
  host : String
  port : Nat
  user : String
  password : String
  name : String

/-- An environment names the parts of the URL, and not the URL itself.  What is empty counts as not
named. -/
structure Environment.Names (env : Environment) (parts : DatabaseParts) : Prop where
  noUrl : env.nonempty? "DATABASE_URL" = none
  host : env.nonempty? "VI_DB_HOST" = some parts.host
  port : NamesPort env parts.port
  user : env.nonempty? "VI_DB_USER" = some parts.user
  password : env.nonempty? "VI_DB_PASSWORD" = some parts.password
  name : env.nonempty? "VI_DB_NAME" = some parts.name

/-- A setting that has to be there is read if it is there and not empty. -/
theorem Environment.require_ok_iff {env : Environment} {key v : String} :
    env.require key = .ok v ↔ env.nonempty? key = some v := by
  unfold Environment.require
  cases env.nonempty? key <;> simp

/-- The port is a number, or the usual one where nothing is set. -/
theorem Environment.port_ok_iff {env : Environment} {n : Nat} :
    env.port "VI_DB_PORT" DatabaseSettings.defaultPort = .ok n ↔ NamesPort env n := by
  unfold Environment.port NamesPort
  cases env.nonempty? "VI_DB_PORT" with
  | none => simp [eq_comm]
  | some raw =>
    dsimp only
    cases h : Decimal.word16? raw <;> simp [h]

/-- The URL that is put together from parts. -/
def DatabaseParts.url (parts : DatabaseParts) : String :=
  DatabaseSettings.assembleUrl parts.host parts.port parts.user parts.password parts.name

/-- **The URL is put together** exactly if all its parts are named. -/
theorem DatabaseSettings.readUrl_ok_iff {env : Environment}
    (h : env.nonempty? "DATABASE_URL" = none) {url : String} :
    readUrl env = .ok url ↔ ∃ parts, env.Names parts ∧ url = parts.url := by
  unfold readUrl
  rw [h]
  simp only [Except.bind_ok_iff, Environment.require_ok_iff, Environment.port_ok_iff, pure,
    Except.pure, Except.ok.injEq]
  constructor
  · rintro ⟨host, hhost, port, hport, user, huser, password, hpassword, name, hname, rfl⟩
    exact ⟨⟨host, port, user, password, name⟩, ⟨h, hhost, hport, huser, hpassword, hname⟩, rfl⟩
  · rintro ⟨parts, hnames, rfl⟩
    exact ⟨_, hnames.host, _, hnames.port, _, hnames.user, _, hnames.password, _, hnames.name, rfl⟩

/-- So are the settings, and they have this URL. -/
theorem DatabaseSettings.ofEnvironment_ok_iff {env : Environment}
    (h : env.nonempty? "DATABASE_URL" = none) {url : String} :
    (∃ settings, ofEnvironment env = .ok settings ∧ settings.url = url) ↔
      ∃ parts, env.Names parts ∧ url = parts.url := by
  rw [← readUrl_ok_iff h]
  unfold ofEnvironment
  simp only [Except.bind_ok_iff, pure, Except.pure, Except.ok.injEq]
  constructor
  · rintro ⟨settings, ⟨url, hurl, rfl⟩, rfl⟩
    exact hurl
  · exact fun hurl => ⟨_, ⟨url, hurl, rfl⟩, rfl⟩

/-! ## What is said -/

/-- The text of a URL behind its scheme, taken apart at its first marks, says these parts: up to the
first `@` come user and password, each encoded, with the one colon of this text between them, and
after it the address as it is. -/
structure DatabaseParts.SaidBy (parts : DatabaseParts) (text : List Char) : Prop where
  colon : (text.takeWhile (· != '@')).count ':' = 1
  user : percentDecoded ((text.takeWhile (· != '@')).takeWhile (· != ':')) = some parts.user
  password : percentDecoded (((text.takeWhile (· != '@')).dropWhile (· != ':')).drop 1) =
    some parts.password
  address : text.dropWhile (· != '@') =
    '@' :: (parts.host ++ ":" ++ Decimal.ofNat parts.port ++ "/" ++ parts.name).toList

/-- The scheme of the URL of a database, and what divides it from the rest. -/
def databaseScheme : String := "postgres://"

/-- A URL of a database says these parts. -/
def Says (url : String) (parts : DatabaseParts) : Prop :=
  ∃ text, url.toList = databaseScheme.toList ++ text ∧ parts.SaidBy text

/-- User and password, each encoded, and the colon between them. -/
def DatabaseParts.userinfo (parts : DatabaseParts) : List Char :=
  (encodeUserinfo parts.user).toList ++ ':' :: (encodeUserinfo parts.password).toList

/-- The address as it stands in the URL. -/
def DatabaseParts.address (parts : DatabaseParts) : List Char :=
  (parts.host ++ ":" ++ Decimal.ofNat parts.port ++ "/" ++ parts.name).toList

/-- The parts of the text, in order. -/
theorem DatabaseParts.toList_url (parts : DatabaseParts) :
    parts.url.toList = databaseScheme.toList ++ (parts.userinfo ++ '@' :: parts.address) := by
  have hcolon : ":".toList = [':'] := rfl
  have hat : "@".toList = ['@'] := rfl
  unfold DatabaseParts.url DatabaseSettings.assembleUrl databaseScheme DatabaseParts.userinfo
    DatabaseParts.address
  simp only [String.toList_append]
  -- Nothing here depends on what the scheme is.
  generalize "postgres://".toList = scheme
  simp only [hcolon, hat, List.append_assoc, List.cons_append, List.nil_append]

/-- **The URL says what it was put together from.** -/
theorem DatabaseParts.says_url (parts : DatabaseParts) : Says parts.url parts := by
  have hcolon : ∀ s, ':' ∉ (encodeUserinfo s).toList := fun s => not_mem_encodeUserinfo s (by simp)
  have hat : ∀ s, '@' ∉ (encodeUserinfo s).toList := fun s => not_mem_encodeUserinfo s (by simp)
  -- No `@` stands before the one that was put behind the password.
  have hmark : '@' ∉ parts.userinfo := by
    simp [DatabaseParts.userinfo, hat]
  obtain ⟨htake, hdrop⟩ := cut_at_mark hmark parts.address
  obtain ⟨huser, hpassword⟩ :=
    cut_at_mark (hcolon parts.user) (encodeUserinfo parts.password).toList
  refine ⟨_, parts.toList_url, ?_, ?_, ?_, hdrop⟩
  · rw [htake, DatabaseParts.userinfo, List.count_append, List.count_cons,
      List.count_eq_zero.2 (hcolon _), List.count_eq_zero.2 (hcolon _)]
    rfl
  · rw [htake, DatabaseParts.userinfo, huser]
    exact decoded_encodeUserinfo parts.user
  · rw [htake, DatabaseParts.userinfo, hpassword]
    exact decoded_encodeUserinfo parts.password

/-- A URL says one user and one password. -/
theorem Says.unique {url : String} {parts parts' : DatabaseParts} (h : Says url parts)
    (h' : Says url parts') : parts.user = parts'.user ∧ parts.password = parts'.password := by
  obtain ⟨text, htext, hsaid⟩ := h
  obtain ⟨text', htext', hsaid'⟩ := h'
  obtain rfl := List.append_cancel_left (htext.symm.trans htext')
  exact ⟨Option.some.inj (hsaid.user.symm.trans hsaid'.user),
    Option.some.inj (hsaid.password.symm.trans hsaid'.password)⟩

/-- An environment without the URL whose settings can be read names the parts, and they are said. -/
theorem Environment.says_of_settings {env : Environment} {settings : DatabaseSettings}
    (hnone : env.nonempty? "DATABASE_URL" = none)
    (h : DatabaseSettings.ofEnvironment env = .ok settings) :
    ∃ parts, env.Names parts ∧ Says settings.url parts := by
  obtain ⟨parts, hnames, hurl⟩ :=
    (DatabaseSettings.ofEnvironment_ok_iff hnone).1 ⟨settings, h, rfl⟩
  exact ⟨parts, hnames, hurl ▸ parts.says_url⟩

/-- **Credentials are recovered from the URL.**  Whatever an environment names, if it does not name
the URL itself and the settings can be read: the URL says the parts that were named, and no other
environment with the same URL names another user or another password. -/
theorem credentials_recovered (env : Environment) (settings : DatabaseSettings)
    (hnone : env.nonempty? "DATABASE_URL" = none)
    (h : DatabaseSettings.ofEnvironment env = .ok settings) :
    (∃ parts, env.Names parts ∧ Says settings.url parts) ∧
      ∀ env' settings', env'.nonempty? "DATABASE_URL" = none →
        DatabaseSettings.ofEnvironment env' = .ok settings' → settings'.url = settings.url →
        env'.nonempty? "VI_DB_USER" = env.nonempty? "VI_DB_USER" ∧
          env'.nonempty? "VI_DB_PASSWORD" = env.nonempty? "VI_DB_PASSWORD" := by
  obtain ⟨parts, hnames, hsays⟩ := Environment.says_of_settings hnone h
  refine ⟨⟨parts, hnames, hsays⟩, fun env' settings' hnone' h' heq => ?_⟩
  obtain ⟨parts', hnames', hsays'⟩ := Environment.says_of_settings hnone' h'
  obtain ⟨huser, hpassword⟩ := (heq ▸ hsays').unique hsays
  rw [hnames.user, hnames'.user, hnames.password, hnames'.password, huser, hpassword]
  exact ⟨rfl, rfl⟩

/-- An environment in which user and password hold the marks of a URL, and other text as well. -/
def namingMarks : Environment :=
  Environment.ofList [("VI_DB_HOST", "db"), ("VI_DB_USER", "us:er@é"),
    ("VI_DB_PASSWORD", "p@ss:w/r%d?#"), ("VI_DB_NAME", "vinfo")]

/-- No mark of the credentials is taken for a mark of the URL. -/
theorem marks_recovered :
    ∃ parts, namingMarks.Names parts ∧ parts.user = "us:er@é" ∧ parts.password = "p@ss:w/r%d?#" ∧
      parts.port = 5432 ∧
      Says "postgres://us%3Aer%40%C3%A9:p%40ss%3Aw%2Fr%25d%3F%23@db:5432/vinfo" parts := by
  have hnone : namingMarks.nonempty? "DATABASE_URL" = none := by decide
  have h : DatabaseSettings.ofEnvironment namingMarks =
      .ok ⟨"postgres://us%3Aer%40%C3%A9:p%40ss%3Aw%2Fr%25d%3F%23@db:5432/vinfo", 10⟩ := by
    rfl
  obtain ⟨⟨parts, hnames, hsays⟩, -⟩ := credentials_recovered _ _ hnone h
  refine ⟨parts, hnames, ?_, ?_, ?_, hsays⟩
  · exact Option.some.inj (hnames.user.symm.trans (by decide))
  · exact Option.some.inj (hnames.password.symm.trans (by decide))
  · rcases hnames.port with ⟨-, hport⟩ | ⟨raw, hraw, -⟩
    · exact hport
    · exact nomatch hraw.symm.trans (show namingMarks.nonempty? "VI_DB_PORT" = none by decide)

end VideoProbe
