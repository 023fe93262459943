import VideoProbe.Proofs.AddressParts
import VideoProbe.Proofs.Respelling

/-!
# Text that cannot be stored

A database stores no text with the character of number zero, and no JSON with it either; a request
may hold it, because JSON has an escape for it.  A UUID and a token are read from texts without it,
but the path of the video may be any text, and of the address of a webhook nobody looks at what
follows the `#` (`nul_in_address_iff`).  Nothing is done about it: the character is written into the
arguments of the job just as it was sent.

So the law says when it reaches the database (`nul_reaches_database`): the insertion of the job is
the only statement that can carry it, and carries it exactly if the request holds it.  A database
that refuses it makes the request fail as an internal error, after it was accepted.
-/

namespace VideoProbe

open VideoProbe.Database

/-! ## What is mentioned -/

/-- A character stands in a document: in a text, or in the name of a member. -/
inductive Json.Mentions (c : Char) : Json → Prop
  | text {s : String} (h : c ∈ s.toList) : Mentions c (.str s)
  | item {items : List Json} {v : Json} (hv : v ∈ items) (h : Mentions c v) :
      Mentions c (.array items)
  | name {members : List (String × Json)} {k : String} {v : Json} (hm : (k, v) ∈ members)
      (h : c ∈ k.toList) : Mentions c (.object members)
  | value {members : List (String × Json)} {k : String} {v : Json} (hm : (k, v) ∈ members)
      (h : Mentions c v) : Mentions c (.object members)

/-- A character stands in a parameter. -/
def Database.Parameter.Mentions (c : Char) : Parameter → Prop
  | .text s => c ∈ s.toList
  | .texts ss => ∃ s ∈ ss, c ∈ s.toList
  | .jsonb v => v.Mentions c
  | .null | .bool _ | .int _ | .uuid _ | .time _ => False

/-- A character stands in one of the parameters of a statement. -/
def Database.Statement.Mentions (c : Char) (st : Statement) : Prop :=
  ∃ p ∈ st.parameters, p.Mentions c

/-- A text mentions its characters. -/
theorem Json.mentions_str_iff {c : Char} {s : String} : (Json.str s).Mentions c ↔ c ∈ s.toList :=
  ⟨fun h => by cases h; assumption, .text⟩

/-- An object mentions what is in its names and in its values. -/
theorem Json.mentions_object_iff {c : Char} {members : List (String × Json)} :
    (Json.object members).Mentions c ↔
      ∃ m ∈ members, c ∈ m.1.toList ∨ m.2.Mentions c := by
  constructor
  · intro h
    cases h with
    | name hm h => exact ⟨_, hm, Or.inl h⟩
    | value hm h => exact ⟨_, hm, Or.inr h⟩
  · rintro ⟨⟨k, v⟩, hm, h | h⟩
    · exact .name hm h
    · exact .value hm h

/-! ## The character of number zero -/

/-- The character of number zero. -/
def nul : Char :=
  Char.ofNat 0

/-- A UUID does not hold the character of number zero. -/
theorem nul_not_mem_uuid (u : Uuid) : nul ∉ u.text.toList := by
  have hdigit : ∀ d : Fin 16, Text.Quoted.hexDigit d.val ≠ nul := by decide
  have hhex : ∀ cs : List Char, (∀ c ∈ cs, c ∈ Uuid.hexChars u.digits) → nul ∉ cs := by
    intro cs hcs hnul
    obtain ⟨d, -, hd⟩ := List.mem_map.1 (hcs nul hnul)
    exact hdigit d hd
  have hhyphen : nul ≠ '-' := by decide
  simp only [Uuid.text, Uuid.chars, String.toList_ofList, List.mem_append, List.mem_cons, not_or]
  refine ⟨hhex _ ?_, hhyphen, hhex _ ?_, hhyphen, hhex _ ?_, hhyphen, hhex _ ?_, hhyphen, hhex _ ?_⟩
  · exact fun c hc => List.mem_of_mem_take hc
  · exact fun c hc => List.mem_of_mem_drop (List.mem_of_mem_take hc)
  · exact fun c hc => List.mem_of_mem_drop (List.mem_of_mem_take hc)
  · exact fun c hc => List.mem_of_mem_drop (List.mem_of_mem_take hc)
  · exact fun c hc => List.mem_of_mem_drop hc

/-- A token does not either, since it is written in Base64. -/
theorem nul_not_mem_token (t : Token) : nul ∉ t.text.toList := by
  have hoctets : ∀ b ∈ Base64.encode t, b.toNat < 0x80 ∧ b.toNat ≠ 0 :=
    Base64.forall_mem_encode (by decide) (by decide) t
  intro hnul
  rw [Token.text, String.toList_ofList] at hnul
  obtain ⟨b, hb, heq⟩ := List.mem_map.1 hnul
  obtain ⟨hlow, hne⟩ := hoctets b hb
  have hn := congrArg Char.toNat heq
  rw [Token.toNat_ofNat _ hlow] at hn
  exact hne hn

/-- The stored arguments mention it exactly where the path or the address of the webhook does. -/
theorem nul_in_args_iff (args : InfoArgs) :
    (Admission.newJob args).args.Mentions nul ↔
      nul ∈ args.path.toList ∨ ∃ uri, args.webhookUri = some uri ∧ nul ∈ uri.toList := by
  have hnames : ∀ name ∈ ["path", "uuid", "webhook_token", "webhook_uri"], nul ∉ name.toList := by
    decide
  show args.toJson.sorted.Mentions nul ↔ _
  rw [InfoArgs.sorted_toJson, Json.mentions_object_iff]
  have hpath := hnames "path" (by simp)
  have huuid := hnames "uuid" (by simp)
  have htoken := hnames "webhook_token" (by simp)
  have huri := hnames "webhook_uri" (by simp)
  have hid := nul_not_mem_uuid args.uuid
  rcases args with ⟨uuid, path, _ | uri, _ | token⟩ <;>
    simp only [Json.optionalMember, Json.mentions_str_iff, Token.toJson, List.cons_append,
      List.nil_append, List.append_nil, List.exists_mem_cons_iff, List.not_mem_nil, false_and,
      exists_false, hpath, huuid, htoken, huri, hid, nul_not_mem_token, false_or, or_false,
      Option.some.injEq, reduceCtorEq, exists_eq_left']

/-- Of the statements of an admission only the insertion of the job can mention it. -/
theorem nul_in_statement_iff {args : InfoArgs} {st : Statement} (h : Admission.Sends args st) :
    st.Mentions nul ↔ (∃ id t, st = .insertJob id (Admission.newJob args) t) ∧
      (Admission.newJob args).args.Mentions nul := by
  have hkind : nul ∉ (Admission.newJob args).kind.word.toList := by
    show nul ∉ "info".toList
    decide
  unfold Statement.Mentions
  cases h <;> simp [Statement.parameters, Parameter.Mentions, hkind]

/-! ## Where a request holds it -/

/-- A request holds the character: in the path of its video, or behind the `#` in the address of its
webhook. -/
def InfoRequest.HoldsNul (q : InfoRequest) : Prop :=
  nul ∈ q.videoPath.toList ∨
    ∃ uri, q.webhookUri = some uri ∧ nul ∈ uri.toList.dropWhile (· != '#')

namespace Http

/-- In a web address it can only stand behind the `#`. -/
theorem nul_in_address_iff {uri : String} (h : IsWebAddress uri) :
    nul ∈ uri.toList ↔ nul ∈ uri.toList.dropWhile (· != '#') := by
  obtain ⟨-, start, auth, tail, htext, hparts⟩ := (Uri.isWebAddress_iff_parts uri).1 h
  have hbefore : nul ∉ Uri.beforeFragment uri.toList := by
    intro hnul
    rw [htext] at hnul
    exact absurd (hparts.visible nul hnul) (by decide : ¬ 0x20 < nul.toNat)
  constructor
  · intro hnul
    rw [← List.takeWhile_append_dropWhile (p := (· != '#')) (l := uri.toList),
      List.mem_append] at hnul
    exact hnul.resolve_left hbefore
  · exact fun hnul => (List.dropWhile_sublist _).subset hnul

/-- What is stored for a valid request mentions the character exactly if the request holds it. -/
theorem Valid.nul_in_args_iff {q : InfoRequest} (h : Valid q) :
    (Admission.newJob q.toArgs).args.Mentions nul ↔ q.HoldsNul := by
  rw [VideoProbe.nul_in_args_iff]
  refine or_congr Iff.rfl (exists_congr fun uri => and_congr_right fun huri => ?_)
  exact nul_in_address_iff (h.address uri huri)

end Http

/-! ## What becomes of it -/

namespace Admission

variable {args : InfoArgs} {r : Except Failure InfoView} {main rest : List Exchange}

/-- The UUID is looked up once. -/
theorem Lawful.lookup_unique (h : Lawful args r main rest) {x y : Exchange} (hx : x ∈ main)
    (hy : y ∈ main) (hx' : x.statement = .selectMapping args.uuid)
    (hy' : y.statement = .selectMapping args.uuid) : x = y := by
  obtain ⟨id, inserted, jobId, hb⟩ := h.bracket
  obtain ⟨left, hplan⟩ := hb.follows
  cases main with
  | nil => exact absurd hx List.not_mem_nil
  | cons a main =>
    cases main with
    | nil =>
      rw [List.mem_singleton] at hx hy
      rw [hx, hy]
    | cons b main =>
      simp only [plan, List.map_cons, List.cons_append, List.cons.injEq] at hplan
      obtain ⟨ha, -, hmore⟩ := hplan
      -- Only the second statement of the plan is a lookup.
      have hsecond : ∀ z ∈ a :: b :: main, z.statement = .selectMapping args.uuid → z = b := by
        intro z hz hlookup
        rcases List.mem_cons.1 hz with rfl | hz
        · cases ha.symm.trans hlookup
        · rcases List.mem_cons.1 hz with rfl | hz
          · rfl
          · have hmem : z.statement ∈ main.map Exchange.statement ++ left :=
              List.mem_append_left _ (List.mem_map_of_mem hz)
            rw [hmore, hlookup] at hmem
            simp at hmem
      rw [hsecond x hx hx', hsecond y hy hy']

/-- An admission whose insertion is refused fails with an error of the database. -/
theorem Lawful.of_refused (h : Lawful args r main rest)
    (hsent : ∃ x ∈ main, x.Inserts (newJob args))
    (hrefused : ∀ x ∈ main, x.Inserts (newJob args) → ∃ fault, x.fate = .refused fault) :
    (∃ e, r = .error (.error (.database e))) ∧ ∀ x ∈ main, x.statement ≠ .commit := by
  have hnorow : ∀ x ∈ main, x.Inserts (newJob args) → x.fate.row? = none ∧
      x.fate.isAnswered = false := by
    intro x hx hinserts
    obtain ⟨fault, hfate⟩ := hrefused x hx hinserts
    rw [hfate]
    exact ⟨rfl, rfl⟩
  have hcommit : ¬ ∃ x ∈ main, x.statement = .commit := by
    intro hcommit
    obtain ⟨⟨x, hx, hinserts, hanswered⟩, -⟩ := h.commits_only hcommit
    rw [(hnorow x hx hinserts).2] at hanswered
    exact nomatch hanswered
  -- Neither the look into the mapping nor an insertion into it can say that the UUID is taken: the
  -- first found nothing, and the second comes after the job.
  have htaken : ¬ Taken args.uuid main := by
    rintro (⟨x, hx, hlookup, row, id, hrow, -⟩ | ⟨x, hx, ⟨id, hmaps⟩ | hstatement, -⟩)
    · obtain ⟨y, hy, ⟨hlookup', -⟩, hnone⟩ := h.inserts_only hsent
      rw [h.lookup_unique hx hy hlookup hlookup', hnone] at hrow
      exact nomatch hrow
    · obtain ⟨y, hy, hinserts, row, j, hrow, -⟩ := h.mapped x hx _ id hmaps
      rw [(hnorow y hy hinserts).1] at hrow
      exact nomatch hrow
    · exact hcommit ⟨x, hx, hstatement⟩
  refine ⟨?_, fun x hx hstatement => hcommit ⟨x, hx, hstatement⟩⟩
  rcases h.otherwise with hok | hduplicate | hdatabase | hcrash
  · obtain ⟨x, hx, hstatement, -⟩ := h.ok_iff.1 hok
    exact absurd ⟨x, hx, hstatement⟩ hcommit
  · exact absurd (h.duplicate_iff.1 hduplicate) htaken
  · exact hdatabase
  · obtain ⟨x, hx, hinserts, row, hrow, -⟩ := h.crash_iff.1 hcrash
    rw [(hnorow x hx hinserts).1] at hrow
    exact nomatch hrow

end Admission

namespace Http

/-- A valid request is accepted in writing, whatever characters it holds. -/
theorem accepted_bodyAs {q : InfoRequest} (hvalid : Valid q)
    (hlength : (Text.Utf8.ofString (q.bodyAs q.uuid.text).text).length ≤ maxBodyLength) :
    acceptBody (Text.Utf8.ofString (q.bodyAs q.uuid.text).text) = .ok q :=
  (acceptBody_ok_iff _ _).2 ⟨hlength,
    (read_iff_respelled _ _).2 ⟨_, read_bodyAs q q.uuid.text, q.uuid.spelledBy_text⟩, hvalid⟩

/-- **The character reaches the database** exactly if the request holds it and its job is inserted,
and then in no other statement.  Where the database refuses what mentions it, the client is told of
an internal error, and nothing is committed. -/
theorem nul_reaches_database (r : Request) (q : InfoRequest) (s : Session)
    (hposted : Posted r r.body) (haccept : acceptBody r.body = .ok q) :
    ∃ xs, ((respond r).run s).2.log = s.log ++ xs ∧
      (∀ x ∈ xs, x.statement.Mentions nul ↔
        x.Inserts (Admission.newJob q.toArgs) ∧ q.HoldsNul) ∧
      ((∃ x ∈ xs, x.statement.Mentions nul) →
        (∀ x ∈ xs, x.statement.Mentions nul → ∃ fault, x.fate = .refused fault) →
        ((respond r).run s).1.status = 500 ∧ ∀ x ∈ xs, x.statement ≠ .commit) := by
  have hvalid := ((acceptBody_ok_iff _ _).1 haccept).2.2
  obtain ⟨result, main, rest, s', hrun, hlog, -, hlawful⟩ := Admission.submit_lawful q.toArgs s
  obtain ⟨xs, hlog', hsends⟩ := Admission.sends_submit q.toArgs s
  have hrespond := run_posted hposted s
  rw [run_create_of_ok haccept, hrun] at hrespond
  rw [hrun] at hlog'
  obtain rfl : main ++ rest = xs := List.append_cancel_left (hlog.symm.trans hlog')
  have hmentions : ∀ x ∈ main ++ rest, x.statement.Mentions nul ↔
      x.Inserts (Admission.newJob q.toArgs) ∧ q.HoldsNul := fun x hx => by
    rw [nul_in_statement_iff (hsends x hx), hvalid.nul_in_args_iff]
    rfl
  rw [hrespond]
  refine ⟨main ++ rest, hlog, hmentions, fun hsent hrefused => ?_⟩
  obtain ⟨x, hx, hnul⟩ := hsent
  obtain ⟨hinserts, hholds⟩ := (hmentions x hx).1 hnul
  have hrefused' : ∀ x ∈ main, x.Inserts (Admission.newJob q.toArgs) →
      ∃ fault, x.fate = .refused fault := fun x hx hinserts =>
    hrefused x (List.mem_append_left _ hx)
      ((hmentions x (List.mem_append_left _ hx)).2 ⟨hinserts, hholds⟩)
  have hlaw := hlawful fun x hx hinserts row hrow => by
    obtain ⟨fault, hfate⟩ := hrefused' x hx hinserts
    rw [hfate] at hrow
    exact nomatch hrow
  -- What comes after the bracket is a rollback.
  obtain ⟨id, inserted, jobId, hb⟩ := hlaw.bracket
  have hrest : ∀ x ∈ rest, x.statement = .rollback := by
    rcases hb.atMostOne with rfl | ⟨f, rfl⟩ <;> simp
  have hmain : x ∈ main := by
    refine (List.mem_append.1 hx).resolve_right fun hx' => ?_
    obtain ⟨id, t, hinsert⟩ := hinserts
    exact nomatch (hrest x hx').symm.trans hinsert
  obtain ⟨⟨e, rfl⟩, hcommit⟩ := hlaw.of_refused ⟨x, hmain, hinserts⟩ hrefused'
  refine ⟨rfl, fun y hy => ?_⟩
  rcases List.mem_append.1 hy with hy | hy
  · exact hcommit y hy
  · rw [hrest y hy]
    exact Statement.noConfusion

/-- A request whose path holds the character. -/
def unstorable : InfoRequest :=
  ⟨Uuid.ofCount 2, String.ofList ['/', nul], none, none⟩

/-- The same, sent. -/
def postingUnstorable : Request where
  method := .post
  target := "/info"
  body := Text.Utf8.ofString (unstorable.bodyAs unstorable.uuid.text).text

/-- How a database refuses the character. -/
def untranslatable : ServerFault where
  code := "22P05"
  message := "unsupported Unicode escape sequence"

/-- A database that refuses the insertion of the job. -/
def refusing : Session where
  link := .up
  script := [{ reply := .rows [] }, { reply := .error untranslatable }]
  now := ⟨0, 0⟩

/-- The checks let it pass. -/
theorem valid_unstorable : Valid unstorable := by
  refine ⟨⟨'/', ?_, by decide⟩, fun uri huri => nomatch huri⟩
  show '/' ∈ (String.ofList ['/', nul]).toList
  rw [String.toList_ofList]
  exact List.mem_cons_self

theorem length_unstorable :
    (Text.Utf8.ofString (unstorable.bodyAs unstorable.uuid.text).text).length ≤ maxBodyLength := by
  decide +kernel

theorem accept_postingUnstorable : acceptBody postingUnstorable.body = .ok unstorable := by
  have hbody : postingUnstorable.body =
      Text.Utf8.ofString (unstorable.bodyAs unstorable.uuid.text).text := by
    unfold postingUnstorable
    rfl
  rw [hbody]
  exact accepted_bodyAs valid_unstorable length_unstorable

theorem posted_postingUnstorable : Posted postingUnstorable postingUnstorable.body := by
  have hroute : Route.ofPath? (pathOf "/info") = some .info := by decide
  exact ⟨rfl, hroute, rfl⟩

/-- The insertion that it refuses. -/
def refusedInsertion : Exchange where
  statement := .insertJob (Uuid.ofCount 1) (Admission.newJob unstorable.toArgs) ⟨0, 0⟩
  fate := .refused untranslatable

/-- What is sent for the request. -/
theorem log_postingUnstorable :
    ((respond postingUnstorable).run refusing).2.log =
      [⟨.begin, .answered ⟨[], 0⟩⟩, ⟨.selectMapping unstorable.uuid, .answered ⟨[], 0⟩⟩,
        refusedInsertion, ⟨.rollback, .answered ⟨[], 0⟩⟩] := by
  rw [run_posted posted_postingUnstorable, run_create_of_ok accept_postingUnstorable]
  rfl

/-- It is there, between two letters. -/
theorem nul_mem_unstorable : nul ∈ unstorable.videoPath.toList := by
  show nul ∈ (String.ofList ['/', nul]).toList
  rw [String.toList_ofList]
  exact List.mem_cons_of_mem _ List.mem_cons_self

/-- It is accepted, and where the database refuses it, the client is told of an internal error. -/
theorem nul_reaches_database_refused :
    acceptBody postingUnstorable.body = .ok unstorable ∧
      ((respond postingUnstorable).run refusing).1.status = 500 ∧
      ∀ x ∈ ((respond postingUnstorable).run refusing).2.log, x.statement ≠ .commit := by
  obtain ⟨xs, hlog, hmentions, hrefused⟩ := nul_reaches_database postingUnstorable unstorable
    refusing posted_postingUnstorable accept_postingUnstorable
  have hempty : refusing.log = [] := rfl
  rw [hempty, List.nil_append] at hlog
  have hxs := hlog.symm.trans log_postingUnstorable
  have hinsert : refusedInsertion ∈ xs := by
    rw [hxs]
    simp
  have hsent := (hmentions _ hinsert).2 ⟨⟨_, _, rfl⟩, Or.inl nul_mem_unstorable⟩
  obtain ⟨hstatus, hcommit⟩ := hrefused ⟨_, hinsert, hsent⟩ fun x hx hnul => by
    obtain ⟨⟨id, t, hstatement⟩, -⟩ := (hmentions x hx).1 hnul
    -- The one insertion is the one that is refused.
    rw [hxs] at hx
    simp only [List.mem_cons, List.not_mem_nil, or_false] at hx
    rcases hx with rfl | rfl | rfl | rfl
    · exact nomatch hstatement
    · exact nomatch hstatement
    · exact ⟨_, rfl⟩
    · exact nomatch hstatement
  exact ⟨accept_postingUnstorable, hstatus, hlog ▸ hcommit⟩

/-- **What cannot be stored is accepted and sent.** -/
theorem unstorable_sent :
    acceptBody postingUnstorable.body = .ok unstorable ∧
      ∃ x ∈ ((respond postingUnstorable).run refusing).2.log, x.statement.Mentions nul := by
  have hargs := (nul_in_args_iff unstorable.toArgs).2 (Or.inl nul_mem_unstorable)
  refine ⟨accept_postingUnstorable, refusedInsertion, ?_, .jsonb _, ?_, hargs⟩
  · rw [log_postingUnstorable]
    simp
  · simp [refusedInsertion, Statement.parameters]

end Http

end VideoProbe
