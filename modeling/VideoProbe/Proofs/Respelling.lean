import VideoProbe.Proofs.Hindsight
import VideoProbe.Proofs.RoundTrips
import VideoProbe.Proofs.Sent
import VideoProbe.Proofs.TokenEcho
import VideoProbe.Proofs.UuidForms

/-!
# A UUID in another spelling

A UUID is admitted once, and it does not help to spell it otherwise the second time.  To speak of
the spelling, a body is read a second time by a reader that keeps the text of the UUID, whatever it
is (`SpelledRequest.ofUuid`).  What this one reads is read as a request exactly if the text spells a
UUID (`read_iff_respelled`): one direction because it takes more, the other one in hindsight,
because the text that it ends with is the text that it read.

From there on the spelling is forgotten: bodies that differ in nothing else are the same request, so
everything that is sent for them is the same, and it names the UUID in the one form that is written
(`respelling_sends_alike`).
-/

namespace VideoProbe

open VideoProbe.Database VideoProbe.Json

/-! ## A UUID as it was spelled -/

/-- The fields of a request, the UUID being any text. -/
def SpelledRequest.ofUuidShape :
    Shape (SpelledRequest.Draft String Token) (SpelledRequest String Token) :=
  shape .string Token.optionalDecoder

/-- Reads a request, and keeps the text that was sent for its UUID. -/
def SpelledRequest.ofUuid : Decoder (SpelledRequest String Token) :=
  decoder .string Token.optionalDecoder

/-- The request that is meant, if the text of the UUID spells this one. -/
def SpelledRequest.meaning (r : SpelledRequest String Token) (u : Uuid) : InfoRequest :=
  ⟨u, r.videoPath, r.webhookUri, r.webhookToken⟩

/-- A request that spells its UUID in a text. -/
def InfoRequest.spelledAs (q : InfoRequest) (spelling : String) : SpelledRequest String Token :=
  ⟨spelling, q.videoPath, q.webhookUri, q.webhookToken⟩

/-! ## The two readers -/

/-- What a text spells is read exactly where a text is read that spells it. -/
theorem Json.Decoder.spelled_read_iff {expected : String} {parse : String → Except String α}
    {nesting fuel : Nat} {s rest : Octets} {a : α} :
    (Decoder.spelled expected parse).read nesting fuel s = .ok (a, rest) ↔
      ∃ text, Decoder.string.read nesting fuel s = .ok (text, rest) ∧ parse text = .ok a := by
  -- A text is what spells itself, so both sides read the same string.
  unfold Decoder.string Decoder.spelled
  dsimp only
  rcases skipBlank s with _ | ⟨b, r⟩
  · simp [faultAt]
  · dsimp only
    by_cases hquote : b = quoteMark
    · rw [if_pos hquote, if_pos hquote]
      rcases readString fuel r with f | ⟨text, rest'⟩
      · simp
      · dsimp only
        cases hparse : parse text with
        | error reason => simp [faultAt, hparse]
        | ok a' =>
          dsimp only
          constructor
          · intro h
            cases h
            exact ⟨text, rfl, hparse⟩
          · rintro ⟨text', htext, ha⟩
            cases htext
            rw [hparse] at ha
            cases ha
            rfl
    · rw [if_neg hquote, if_neg hquote]
      constructor
      · exact fun h => absurd h (wrongType_ne_ok _ _ _ _)
      · rintro ⟨_, h, _⟩
        exact absurd h (wrongType_ne_ok _ _ _ _)

/-- A UUID is read exactly where a text is read that spells it. -/
theorem identifier_read_iff {nesting fuel : Nat} {s rest : Octets} {u : Uuid} :
    Decoder.identifier.read nesting fuel s = .ok (u, rest) ↔
      ∃ text, Decoder.string.read nesting fuel s = .ok (text, rest) ∧ u.SpelledBy text := by
  unfold Decoder.identifier
  rw [Decoder.spelled_read_iff]
  simp only [← Uuid.parse_ok_iff]
  refine exists_congr fun text => and_congr_right fun _ => ?_
  cases Uuid.parse text <;> simp

/-- As far as it has been read, the UUID is this one. -/
def SpelledRequest.Draft.Means (u : Uuid) (d : SpelledRequest.Draft String Token) : Prop :=
  ∀ text, d.uuid = some text → u.SpelledBy text

/-- The draft of a request that is meant by another one. -/
structure SpelledRequest.Draft.Meant (u : Uuid) (d : SpelledRequest.Draft String Token)
    (e : InfoRequest.Draft) : Prop where
  uuid : e.uuid = d.uuid.map fun _ => u
  videoPath : e.videoPath = d.videoPath
  webhookUri : e.webhookUri = d.webhookUri
  webhookToken : e.webhookToken = d.webhookToken

/-- Whoever reads requests reads those in which the text for the UUID turns out to spell one. -/
theorem later_respelled (u : Uuid) :
    SpelledRequest.ofUuidShape.Later (SpelledRequest.Draft.Means u) (SpelledRequest.Draft.Meant u)
      InfoRequest.shape where
  fields := by
    -- The first field is the one that differs; the other three are read by the same decoders.
    refine .cons ?_ (.cons ?_ (.cons ?_ (.cons ?_ .nil)))
    · refine Field.later_of (fun d e h => by rw [h.uuid, Option.isSome_map]) ?_ ?_
      · intro text d hnone _ text' h
        rw [hnone] at h
        exact nomatch h
      · intro nesting fuel s text rest d hread hmeans
        refine ⟨u, identifier_read_iff.2 ⟨text, hread, hmeans text rfl⟩, fun e h => ?_⟩
        exact ⟨rfl, h.videoPath, h.webhookUri, h.webhookToken⟩
    · refine Field.later_of (fun d e h => by rw [h.videoPath]) (fun _ _ _ h => h) ?_
      intro nesting fuel s a rest d hread _
      exact ⟨a, hread, fun e h => ⟨h.uuid, rfl, h.webhookUri, h.webhookToken⟩⟩
    · refine Field.later_of (fun d e h => by rw [h.webhookUri]) (fun _ _ _ h => h) ?_
      intro nesting fuel s a rest d hread _
      exact ⟨a, hread, fun e h => ⟨h.uuid, h.videoPath, rfl, h.webhookToken⟩⟩
    · refine Field.later_of (fun d e h => by rw [h.webhookToken]) (fun _ _ _ h => h) ?_
      intro nesting fuel s a rest d hread _
      exact ⟨a, hread, fun e h => ⟨h.uuid, h.videoPath, h.webhookUri, rfl⟩⟩
  apart := by
    simp only [SpelledRequest.ofUuidShape, SpelledRequest.shape, List.pairwise_cons,
      List.forall_mem_cons, List.not_mem_nil, false_imp_iff, implies_true, and_true,
      List.Pairwise.nil]
    refine ⟨⟨?_, ?_, ?_⟩, ⟨?_, ?_⟩, ?_⟩ <;> exact Field.apart_of fun _ _ => rfl
  unset := by
    simp only [SpelledRequest.ofUuidShape, SpelledRequest.shape, List.forall_mem_cons,
      List.not_mem_nil, false_imp_iff, implies_true, and_true]
    exact ⟨rfl, rfl, rfl, rfl⟩
  blank := ⟨rfl, rfl, rfl, rfl⟩

/-- In the end both readers have what they need, and the text has been read as what it spells. -/
theorem finishes_respelled {u : Uuid} {r : SpelledRequest String Token}
    (h : u.SpelledBy r.uuid) :
    Finishes (SpelledRequest.Draft.Means u) (SpelledRequest.Draft.Meant u) r (r.meaning u)
      SpelledRequest.ofUuidShape InfoRequest.shape := by
  rintro ⟨spelling, videoPath, uri, token⟩ hfinish
  cases spelling with
  | none => exact nomatch hfinish
  | some spelling =>
    cases videoPath with
    | none => exact nomatch hfinish
    | some videoPath =>
      cases hfinish
      refine ⟨?_, ?_⟩
      · rintro text ⟨⟩
        exact h
      · rintro ⟨uuid, videoPath', uri', token'⟩ ⟨huuid, hpath, huri, htoken⟩
        dsimp only at huuid hpath huri htoken
        subst huuid hpath huri htoken
        rfl

/-- **A body is read as a request** exactly if it is read as one that spells a UUID. -/
theorem read_iff_respelled (body : Octets) (q : InfoRequest) :
    InfoRequest.decoder.ofOctets body = .ok q ↔
      ∃ spelling, SpelledRequest.ofUuid.ofOctets body = .ok (q.spelledAs spelling) ∧
        q.uuid.SpelledBy spelling := by
  constructor
  · intro h
    obtain ⟨spelled, hread, hspelt⟩ : ∃ spelled,
        SpelledRequest.ofUuid.ofOctets body = .ok spelled ∧ q.Spelt Uuid.SpelledBy Eq spelled :=
      spelled_of_read (fun _ _ _ _ _ h => identifier_read_iff.1 h) (fun _ _ _ => laxer_refl _) rfl h
    obtain ⟨spelling, videoPath, uri, token⟩ := spelled
    obtain ⟨hspelled, rfl, rfl, rfl⟩ := hspelt
    exact ⟨spelling, hread, hspelled⟩
  · rintro ⟨spelling, hread, hspelled⟩
    exact (later_respelled q.uuid).ofOctets (finishes_respelled hspelled) hread

/-! ## Every spelling can be sent -/

/-- The body that spells the UUID of a request in a text. -/
def InfoRequest.bodyAs (q : InfoRequest) (spelling : String) : Json :=
  .object ([("uuid", .str spelling), ("video_path", .str q.videoPath)] ++
    optionalMember "webhook_uri" .str q.webhookUri ++
    optionalMember "webhook_token" Token.toJson q.webhookToken)

/-- A request that is written with a text for its UUID is read with this text. -/
theorem read_bodyAs (q : InfoRequest) (spelling : String) :
    SpelledRequest.ofUuid.ofOctets (Text.Utf8.ofString (q.bodyAs spelling).text) =
      .ok (q.spelledAs spelling) := by
  have hspelling : Fills SpelledRequest.ofUuidShape 0 [("uuid", .str spelling)]
      SpelledRequest.ofUuidShape.blank ⟨some spelling, none, none, none⟩ :=
    fills_field rfl rfl (readsBack_string 0 spelling) rfl
  have hpath : Fills SpelledRequest.ofUuidShape 0 [("video_path", .str q.videoPath)]
      ⟨some spelling, none, none, none⟩ ⟨some spelling, some q.videoPath, none, none⟩ :=
    fills_field rfl rfl (readsBack_string 0 q.videoPath) rfl
  have huri : Fills SpelledRequest.ofUuidShape 0 (optionalMember "webhook_uri" .str q.webhookUri)
      ⟨some spelling, some q.videoPath, none, none⟩
      ⟨some spelling, some q.videoPath, q.webhookUri.map some, none⟩ :=
    fills_optional (fun h => by rw [h]; rfl) fun uri h => by
      rw [h]
      exact fills_field rfl rfl (readsBack_optionalString 0 uri) rfl
  have htoken : Fills SpelledRequest.ofUuidShape 0
      (optionalMember "webhook_token" Token.toJson q.webhookToken)
      ⟨some spelling, some q.videoPath, q.webhookUri.map some, none⟩
      ⟨some spelling, some q.videoPath, q.webhookUri.map some, q.webhookToken.map some⟩ :=
    fills_optional (fun h => by rw [h]; rfl) fun token h => by
      rw [h]
      exact fills_field rfl rfl (readsBack_token 0 token) rfl
  have hreads :
      SpelledRequest.ofUuid.ReadsBack 1 (q.bodyAs spelling) (q.spelledAs spelling) := by
    refine Shape.readsBack (((hspelling.append hpath).append huri).append htoken) ?_
    rcases q with ⟨uuid, path, _ | uri, _ | token⟩ <;> rfl
  rw [ofString_text]
  exact hreads.ofOctets (by decide)

namespace Http

/-! ## What is sent for it -/

/-- A request to admit a job, in which a UUID is spelled. -/
structure Spells (u : Uuid) (spelled : SpelledRequest String Token) (r : Request) : Prop where
  posted : Posted r r.body
  length : r.body.length ≤ maxBodyLength
  read : SpelledRequest.ofUuid.ofOctets r.body = .ok spelled
  spelling : u.SpelledBy spelled.uuid

/-- A segment of a path spells a UUID if what it encodes does. -/
def SegmentSpells (u : Uuid) (segment : String) : Prop :=
  ∃ text, Text.Utf8.toString? (Text.Percent.decode (Text.Utf8.ofString segment)) = some text ∧
    u.SpelledBy text

/-- A segment of a path is read as the UUID that it spells. -/
theorem uuidOfSegment_ok_iff (segment : String) (u : Uuid) :
    uuidOfSegment segment = .ok u ↔ SegmentSpells u segment := by
  unfold uuidOfSegment SegmentSpells Text.Utf8.toString?
  simp only [← Uuid.parse_ok_iff]
  cases Text.Utf8.decode? (Text.Percent.decode (Text.Utf8.ofString segment)) with
  | none => simp
  | some cs =>
    dsimp only
    cases h : Uuid.parse (String.ofList cs) <;> simp [h]

/-- A statement that says anything of the UUID of a client says this one, in the form that is
written. -/
structure Names (u : Uuid) (st : Statement) : Prop where
  lookup : ∀ v, st = .selectMapping v → v = u
  mapping : ∀ v id, st = .insertMapping v id → v = u
  stored : ∀ id new t, st = .insertJob id new t → new.args.get? "uuid" = some (.str u.text)

/-- Every statement of an admission names the UUID as it is written, or not at all. -/
theorem names_of_sends {args : InfoArgs} {st : Statement} (h : Admission.Sends args st) :
    Names args.uuid st := by
  have hstored : (Admission.newJob args).args.get? "uuid" = some (.str args.uuid.text) := by
    show args.toJson.sorted.get? "uuid" = _
    rw [InfoArgs.sorted_toJson]
    rfl
  cases h <;> constructor <;> simp [hstored]

/-- A body that spells a UUID is read as the request that is meant. -/
theorem Spells.readBody {u : Uuid} {spelled : SpelledRequest String Token} {r : Request}
    (h : Spells u spelled r) : Http.readBody r.body = .ok (spelled.meaning u) :=
  (readBody_ok_iff _ _).2
    ⟨h.length, (read_iff_respelled _ _).2 ⟨spelled.uuid, h.read, h.spelling⟩⟩

/-- What is sent for it names the UUID. -/
theorem Spells.names {u : Uuid} {spelled : SpelledRequest String Token} {r : Request}
    (h : Spells u spelled r) (s : Session) :
    ∃ xs, ((respond r).run s).2.log = s.log ++ xs ∧ ∀ x ∈ xs, Names u x.statement := by
  cases haccept : acceptBody r.body with
  | error e =>
    refine ⟨[], ?_, fun x hx => nomatch hx⟩
    rw [run_posted h.posted, run_create_of_error haccept, List.append_nil]
  | ok q =>
    obtain ⟨xs, hlog, hsends⟩ := sent_of_posted h.posted haccept s
    -- What is accepted is what was read.
    obtain ⟨hlength, hread, -⟩ := (acceptBody_ok_iff _ _).1 haccept
    have hq := (readBody_ok_iff _ _).2 ⟨hlength, hread⟩
    rw [h.readBody] at hq
    cases hq
    exact ⟨xs, hlog, fun x hx => names_of_sends (hsends x hx)⟩

/-- What is accepted spells its UUID. -/
theorem spells_of_accepted {r : Request} {q : InfoRequest} (hposted : Posted r r.body)
    (haccept : acceptBody r.body = .ok q) :
    ∃ spelled, Spells q.uuid spelled r ∧ spelled.meaning q.uuid = q := by
  obtain ⟨hlength, hread, -⟩ := (acceptBody_ok_iff _ _).1 haccept
  obtain ⟨spelling, hspelled, hspells⟩ := (read_iff_respelled _ _).1 hread
  exact ⟨_, ⟨hposted, hlength, hspelled, hspells⟩, rfl⟩

/-- **Another spelling makes no difference.**  Every request that is accepted spells its UUID.
Whatever the UUID is, and whatever the database answers: requests that differ in how they spell it
get the same response and have the same sent for them, questions for it as well, and what is sent
names it in the one form that is written.  Of another UUID this form is another one. -/
theorem respelling_sends_alike (u : Uuid) :
    (∀ r q, Posted r r.body → acceptBody r.body = .ok q → q.uuid = u →
      ∃ spelled, Spells u spelled r ∧ spelled.meaning u = q) ∧
    (∀ r r' spelled spelled', Spells u spelled r → Spells u spelled' r' →
      spelled'.meaning u = spelled.meaning u → ∀ s, (respond r').run s = (respond r).run s ∧
        ∃ xs, ((respond r).run s).2.log = s.log ++ xs ∧ ∀ x ∈ xs, Names u x.statement) ∧
    (∀ r r' segment segment', Asked r segment → Asked r' segment' → r'.method = r.method →
      SegmentSpells u segment → SegmentSpells u segment' →
      ∀ s, (respond r').run s = (respond r).run s ∧
        ∃ f xs, ((respond r).run s).2.log = s.log ++ ⟨.selectMapping u, f⟩ :: xs ∧
          ∀ x ∈ xs, ∃ id, x.statement = .selectJob id) ∧
    Uuid.IsWritten u.text ∧ ∀ v, v ≠ u → v.text ≠ u.text := by
  -- Both requests come down to the same call, with nothing left of the spelling.
  refine ⟨?_, ?_, ?_, u.isWritten_text, fun v hne h => hne (Uuid.text_injective h)⟩
  · rintro r q hposted haccept rfl
    exact spells_of_accepted hposted haccept
  · intro r r' spelled spelled' h h' hsame s
    refine ⟨?_, h.names s⟩
    have haccept : acceptBody r'.body = acceptBody r.body := by
      unfold acceptBody
      rw [h'.readBody, h.readBody, hsame]
    rw [run_posted h'.posted, run_posted h.posted]
    unfold create
    rw [haccept]
  · intro r r' segment segment' h h' hmethod hspells hspells' s
    have hu := (uuidOfSegment_ok_iff segment u).2 hspells
    have hu' := (uuidOfSegment_ok_iff segment' u).2 hspells'
    refine ⟨?_, sent_of_asked h hu s⟩
    have hstatus : (Route.infoStatus segment').handle r' = (Route.infoStatus segment).handle r := by
      show status segment' = status segment
      unfold status
      rw [hu', hu]
    rw [run_respond h'.route h'.method, run_respond h.route h.method, hstatus, hmethod]

/-- A UUID of nothing but letters. -/
def lettered : Uuid :=
  ⟨List.replicate 32 ⟨10, by decide⟩, rfl⟩

/-- The request to admit a job under it, in this spelling. -/
def spelling (text : String) : Request where
  method := .post
  target := "/info"
  body := Text.Utf8.ofString (InfoRequest.bodyAs ⟨lettered, "/a.mp4", none, none⟩ text).text

/-- A short spelling of it is a request that names it. -/
theorem spells_spelling {text : String} (htext : lettered.SpelledBy text)
    (hlength : (spelling text).body.length ≤ maxBodyLength) :
    Spells lettered ⟨text, "/a.mp4", none, none⟩ (spelling text) := by
  have hroute : Route.ofPath? (pathOf "/info") = some .info := by decide
  have hbody : (spelling text).body =
      Text.Utf8.ofString (InfoRequest.bodyAs ⟨lettered, "/a.mp4", none, none⟩ text).text := by
    simp only [spelling]
  refine ⟨⟨rfl, hroute, rfl⟩, hlength, ?_, htext⟩
  rw [hbody]
  exact read_bodyAs ⟨lettered, "/a.mp4", none, none⟩ text

theorem spells_plain : Spells lettered ⟨"aaaaaaaaaaaaaaaaaaaaaaaaaaaaaaaa", "/a.mp4", none, none⟩
    (spelling "aaaaaaaaaaaaaaaaaaaaaaaaaaaaaaaa") :=
  spells_spelling (by decide) (by decide +kernel)

theorem spells_named :
    Spells lettered ⟨"URN:UUID:AAAAAAAA-AAAA-AAAA-AAAA-AAAAAAAAAAAA", "/a.mp4", none, none⟩
      (spelling "URN:UUID:AAAAAAAA-AAAA-AAAA-AAAA-AAAAAAAAAAAA") :=
  spells_spelling (by decide) (by decide +kernel)

/-- A resource name in upper case and plain digits in lower case are the same to a database that
stores what it is given. -/
theorem respelling_sends_alike_lettered :
    lettered.text = "aaaaaaaa-aaaa-aaaa-aaaa-aaaaaaaaaaaa" ∧
      (respond (spelling "URN:UUID:AAAAAAAA-AAAA-AAAA-AAAA-AAAAAAAAAAAA")).run
          (Admission.granting ⟨lettered, "/a.mp4", none, none⟩) =
        (respond (spelling "aaaaaaaaaaaaaaaaaaaaaaaaaaaaaaaa")).run
          (Admission.granting ⟨lettered, "/a.mp4", none, none⟩) := by
  obtain ⟨-, halike, -⟩ := respelling_sends_alike lettered
  exact ⟨by decide, (halike _ _ _ _ spells_plain spells_named rfl _).1⟩

end Http

end VideoProbe
