import VideoProbe.Proofs.Canonical
import VideoProbe.Proofs.FirstView
import VideoProbe.Proofs.Gate
import VideoProbe.Proofs.Redirects
import VideoProbe.Proofs.SecondReading
import VideoProbe.Proofs.Views

/-!
# The token comes back as it was sent

A client sends its token as text, and what it gets back with the outcome is text again.  In between
the text is gone: the token is kept as bytes, stored with the extraction job, taken over into the
delivery job, stored again, and written anew into the body that is posted.

So that the text which was sent can be spoken of at all, the same body is read a second time by a
reader that keeps the text of the token (`SpelledRequest.ofToken`).  The crux is that a text that is
read as a token is the text that is written for it (`Token.text_of_parse`): from there on it is
enough that the bytes are handed on (`readArgs_of_admitted`, `readArgs_of_executed`), and the whole
way is `token_echoed`.
-/

namespace VideoProbe

open VideoProbe.Database VideoProbe.Json

/-! ## A token as it was spelled -/

/-- Reads a request, and keeps the text that was sent for its token. -/
def SpelledRequest.ofToken : Decoder (SpelledRequest Uuid String) :=
  decoder .identifier (.optional .string)

/-- A text spells a token, or there is neither. -/
def Token.Spelt (t : Option Token) (text : Option String) : Prop :=
  Option.Rel (fun t s => Token.parse s = .ok t) t text

/-- A token is read from any text that spells one. -/
theorem laxer_optionalDecoder (nesting fuel : Nat) (s : Octets) :
    Json.Laxer Token.Spelt (Token.optionalDecoder.read nesting fuel s)
      ((Decoder.optional .string).read nesting fuel s) := by
  intro t rest h
  unfold Token.optionalDecoder Decoder.refine at h
  dsimp only at h
  split at h
  · exact nomatch h
  · rename_i text rest' hread
    refine ⟨text, ?_, ?_⟩
    · split at h
      · cases h
        exact hread
      · exact nomatch h
    · -- Null spells no token, and any text that is parsed spells the one it is parsed as.
      cases text with
      | none =>
        cases h
        exact .none
      | some text =>
        dsimp only at h
        cases hparse : Token.parse text with
        | error reason =>
          rw [hparse] at h
          exact nomatch h
        | ok t' =>
          rw [hparse] at h
          cases h
          exact .some hparse

/-! ## What is posted -/

/-- How a body begins that tells a token, or none. -/
def opening : Option String → String
  | some text => "\x7b\"token\":\"" ++ text ++ "\",\"uuid\":\""
  | none => "\x7b\"uuid\":\""

/-- A posted body tells a token in these very characters, or it tells none: it is the text of an
object with this member, or without one, and it begins with it. -/
structure Echoes (token : Option String) (body : String) : Prop where
  member : ∃ members, body = (Json.object members).text ∧
    members.lookup "token" = token.map Json.str
  begins : ∃ rest, body = opening token ++ rest

theorem stringChars_token : stringChars "token" = "\"token\"".toList := by
  decide

theorem stringChars_uuid : stringChars "uuid" = "\"uuid\"".toList := by
  decide

/-- An object that begins with a UUID. -/
theorem begins_uuid (u : String) (members : List (String × Json)) :
    ∃ rest, (Json.object (("uuid", .str u) :: members)).text = opening none ++ rest := by
  refine ⟨String.ofList (u.toList.flatMap escapeChar ++
    ('"' :: (membersChars members ++ ['\x7d']))), String.toList_inj.1 ?_⟩
  have hvalue : stringChars u = '"' :: (u.toList.flatMap escapeChar ++ ['"']) := rfl
  simp [Json.text, Json.chars, stringChars_uuid, hvalue, opening]

/-- An object that begins with a token and a UUID. -/
theorem begins_token (t : Token) (u : String) (members : List (String × Json)) :
    ∃ rest, (Json.object (("token", .str t.text) :: ("uuid", .str u) :: members)).text =
      opening (some t.text) ++ rest := by
  refine ⟨String.ofList (u.toList.flatMap escapeChar ++
    ('"' :: (membersChars members ++ ['\x7d']))), String.toList_inj.1 ?_⟩
  have hvalue : stringChars u = '"' :: (u.toList.flatMap escapeChar ++ ['"']) := rfl
  simp [Json.text, Json.chars, membersChars, stringChars_token, stringChars_uuid,
    Token.stringChars_text, hvalue, opening]

/-- The body of a delivery tells the text of its token. -/
theorem echoes_payload (args : WebhookArgs) {text : Option String}
    (h : Token.Spelt args.token text) : Echoes text (Delivery.payload args) := by
  obtain ⟨uri, token, uuid, outcome⟩ := args
  cases h with
  | none =>
    refine ⟨⟨_, rfl, ?_⟩, begins_uuid _ _⟩
    cases outcome <;> rfl
  | @some t text hparse =>
    -- The text that was read is the text that is written.
    obtain rfl : t.text = text := Token.text_of_parse hparse
    exact ⟨⟨_, rfl, rfl⟩, begins_token _ _ _⟩

/-! ## The way of a request -/

/-- A job that one of some statements has stored, whatever has happened to it since. -/
def StoredBy (xs : List Exchange) (j : Job) : Prop :=
  ∃ x ∈ xs, ∃ id new t, x.statement = .insertJob id new t ∧ j.kind = new.kind ∧ j.args = new.args

/-- A request leads to a delivery: the job that was stored when the request was admitted was
executed, and the delivery was stored then. -/
def LeadsTo (q : InfoRequest) (probe : String → Except ProbeError VideoInfo) (delivery : Job) :
    Prop :=
  ∃ s xs info t ys, ((Admission.submit q.toArgs).run s).2.log = s.log ++ xs ∧ StoredBy xs info ∧
    ((Extraction.execute probe info).run t).2.log = t.log ++ ys ∧ StoredBy ys delivery

/-- The job that is stored for a request has the arguments that the request says. -/
theorem readArgs_of_admitted {args : InfoArgs} {s : Session} {xs : List Exchange} {info : Job}
    (hlog : ((Admission.submit args).run s).2.log = s.log ++ xs) (hinfo : StoredBy xs info) :
    info.readArgs InfoArgs.arguments = .ok args := by
  obtain ⟨r, ys, s', hrun, hsent, hinserts, -⟩ := Admission.run_submit args s
  rw [hrun, hsent] at hlog
  obtain rfl : ys = xs := List.append_cancel_left hlog
  obtain ⟨x, hx, id, new, t, hst, hkind, hargs⟩ := hinfo
  obtain rfl := hinserts x hx id new t hst
  exact InfoArgs.readArgs_of_stored hkind hargs

/-- The delivery that is stored for a job has the token of the job. -/
theorem readArgs_of_executed {probe : String → Except ProbeError VideoInfo} {info : Job}
    {args : InfoArgs} {uri : String} {t : Session} {ys : List Exchange} {delivery : Job}
    (hargs : info.readArgs InfoArgs.arguments = .ok args) (huri : args.webhookUri = some uri)
    (hfinite : ∀ v, probe args.path = .ok v → v.IsFinite)
    (hlog : ((Extraction.execute probe info).run t).2.log = t.log ++ ys)
    (hdelivery : StoredBy ys delivery) :
    ∃ outcome, delivery.readArgs WebhookArgs.arguments =
      .ok ⟨uri, args.webhookToken, args.uuid, outcome⟩ := by
  obtain ⟨x, hx, id, new, t', hst, hkind, hstored⟩ := hdelivery
  cases hout : Extraction.outcome? (probe args.path) with
  | none =>
    -- A cancelled probe stores nothing.
    simp only [Extraction.execute, hargs, hout, run_pure] at hlog
    obtain rfl : ys = [] := by simpa using hlog
    exact absurd hx List.not_mem_nil
  | some outcome =>
    obtain ⟨r, main, rest, s', hrun, hsent, -, hfan⟩ :=
      Extraction.run_execute_told hargs hout huri t
    rw [hrun, hsent] at hlog
    obtain rfl : main ++ rest = ys := List.append_cancel_left hlog
    obtain rfl := (hfan.statements x hx).2 id new t' hst
    have hrestores := Extraction.restores_outcome hout hfinite
    exact ⟨outcome, WebhookArgs.readArgs_of_stored hrestores hkind hstored⟩

/-- **The token comes back as it was sent.**  Whatever request is read, with whatever spelling of a
token or none, and whatever is found: the delivery that it leads to posts a body that tells the
token in the very characters in which it was sent, or tells none where none was sent.  And no two
texts are the same token. -/
theorem token_echoed [Url.DomainRules] :
    (∀ body q uri probe delivery, InfoRequest.decoder.ofOctets body = .ok q →
      q.webhookUri = some uri → (∀ v, probe q.videoPath = .ok v → v.IsFinite) →
      LeadsTo q probe delivery →
      ∃ spelled args, SpelledRequest.ofToken.ofOctets body = .ok spelled ∧
        q.Spelt Eq Token.Spelt spelled ∧
        delivery.readArgs WebhookArgs.arguments = .ok args ∧ args.uri = uri ∧
        Echoes spelled.webhookToken (Delivery.payload args) ∧
        ∀ cancelled p, ∃ hops, Delivery.Hears p hops (Delivery.execute delivery cancelled p).2 ∧
          (∀ first, hops.head? = some first →
            first.request.body = some (Delivery.payload args)) ∧
          ∀ hop ∈ hops, ∀ text, hop.request.body = some text → text = Delivery.payload args) ∧
    ∀ text text' t, Token.parse text = .ok t → Token.parse text' = .ok t → text = text' := by
  refine ⟨?_, fun text text' t h h' => Token.parse_injective h h'⟩
  intro body q uri probe delivery hread huri hfinite hway
  obtain ⟨s, xs, info, t, ys, hadmitted, hinfo, hexecuted, hdelivery⟩ := hway
  obtain ⟨spelled, hspelled, hspelt⟩ : ∃ spelled,
      SpelledRequest.ofToken.ofOctets body = .ok spelled ∧ q.Spelt Eq Token.Spelt spelled :=
    spelled_of_read (fun _ _ _ => laxer_refl _) laxer_optionalDecoder .none hread
  -- The token goes into the arguments of the first job, from there into those of the second, and is
  -- written again in the payload.
  have hargs := readArgs_of_admitted hadmitted hinfo
  obtain ⟨outcome, hdelivered⟩ := readArgs_of_executed hargs huri hfinite hexecuted hdelivery
  exact ⟨spelled, _, hspelled, hspelt, hdelivered, rfl, echoes_payload _ hspelt.webhookToken,
    fun cancelled p => Delivery.execute_posts hdelivered cancelled p⟩

/-! ## One way in full -/

/-- The job that is stored for a client that asks to be told, while it is executed. -/
def askingJob : Job :=
  { Admission.waiting (Uuid.ofCount 1) (Admission.newJob Http.asking.toArgs) ⟨0, 0⟩ ⟨0, 0⟩ with
    state := .running
    attempt := 1 }

/-- The program that examines videos is not there. -/
def noProgram (_ : String) : Except ProbeError VideoInfo :=
  .error (.spawn "not found")

/-- What the client is to be told. -/
def askedOutcome : Outcome :=
  .error (ProbeError.spawn "not found").message

/-- The job that tells it. -/
def askedDelivery : NewJob :=
  Extraction.webhookJob "http://b/hook" Http.asking.toArgs askedOutcome

/-- The job that delivers the outcome, while it is executed. -/
def deliveryJob : Job :=
  { Admission.waiting (Uuid.ofCount 1) askedDelivery ⟨0, 0⟩ ⟨0, 0⟩ with
    state := .running
    attempt := 1 }

/-- A token of two bytes was sent in four characters, and comes back in these characters. -/
theorem token_echoed_twoBytes :
    ∃ args, deliveryJob.readArgs WebhookArgs.arguments = .ok args ∧
      Echoes (some "aGk=") (Delivery.payload args) := by
  have hway : LeadsTo Http.asking noProgram deliveryJob := by
    have hargs : askingJob.readArgs InfoArgs.arguments = .ok Http.asking.toArgs :=
      InfoArgs.readArgs_of_stored rfl rfl
    refine ⟨Admission.granting Http.asking.toArgs, _, askingJob, Extraction.storing askedDelivery,
      _, Http.log_submit_asking, ?_, Extraction.log_execute_storing hargs rfl rfl, ?_⟩
    · exact ⟨_, List.mem_cons_of_mem _ (List.mem_cons_of_mem _ List.mem_cons_self), _, _, _, rfl,
        rfl, rfl⟩
    · exact ⟨_, List.mem_cons_of_mem _ List.mem_cons_self, _, _, _, rfl, rfl, rfl⟩
  have hspelled : SpelledRequest.ofToken.ofOctets (Http.posting Http.asking).body =
      .ok ⟨Uuid.ofCount 2, "/a.mp4", some "http://b/hook", some "aGk="⟩ :=
    Except.ok_of_toOption (by decide +kernel)
  have hfinite : ∀ v, noProgram Http.asking.videoPath = .ok v → v.IsFinite := by
    simp [noProgram]
  obtain ⟨spelled, args, hread, -, hargs, -, hechoes, -⟩ := token_echoed.1 _ _ _ _ _
    Http.decode_asking rfl hfinite hway
  rw [hspelled] at hread
  cases hread
  exact ⟨args, hargs, hechoes⟩

end VideoProbe
