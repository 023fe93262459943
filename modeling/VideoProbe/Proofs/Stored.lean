import VideoProbe.Proofs.Basic
import VideoProbe.Proofs.Spelling
import VideoProbe.WebhookJob

/-!
# What is stored is read back

The arguments and the output of a job are stored as free values, with the members of every object
sorted by name, and the body of a delivery may be read as one by whoever gets it.  What the decoders
make of such a value is what was written; of a number this holds only if it is finite, because the
others have no form in JSON.
-/

namespace VideoProbe

open Json

/-- The arguments of a job are read if the job is of their kind and they can be decoded. -/
theorem Job.readArgs_ok_iff {expected : Job.Arguments α} {j : Job} {a : α} :
    j.readArgs expected = .ok a ↔
      j.kind = expected.kind ∧ expected.decoder.ofValue j.args = .ok a := by
  unfold Job.readArgs
  split
  · rename_i hkind
    simp [hkind]
  · rename_i hkind
    rw [and_iff_right (Decidable.not_not.1 hkind)]
    cases expected.decoder.ofValue j.args <;> simp

/-- Otherwise one of the two is wrong. -/
theorem Job.readArgs_error_iff {expected : Job.Arguments α} {j : Job} :
    (∃ e, j.readArgs expected = .error e) ↔
      j.kind ≠ expected.kind ∨ ∃ refusal, expected.decoder.ofValue j.args = .error refusal := by
  unfold Job.readArgs
  split
  · rename_i hkind
    simp [hkind]
  · rename_i hkind
    rw [or_iff_right hkind]
    cases expected.decoder.ofValue j.args <;> simp

namespace Json.Decoder

/-- The decoder reads back what is stored for a value. -/
def Restores (d : Decoder α) (toJson : α → Json) (a : α) : Prop :=
  d.ofJson (toJson a).sorted = .ok a

/-- What is restored is restored from where it is stored. -/
theorem Restores.ofValue {d : Decoder α} {f : α → Json} {a : α} (h : d.Restores f a) :
    d.ofValue (f a).sorted = .ok a := by
  unfold Decoder.ofValue
  rw [h]

/-- A UUID is restored. -/
theorem restores_identifier (u : Uuid) : identifier.Restores Uuid.toJson u := by
  simp [Restores, identifier, spelled, Uuid.toJson, Json.sorted, Uuid.parse_text]

/-- A finite number is restored. -/
theorem restores_real {x : Float} (h : x.isFinite = true) : real.Restores .ofFloat x := by
  simp [Restores, ofFloat, h, Json.sorted, real, numeric]

/-- A list is read back if its items are. -/
theorem restores_list {d : Decoder α} {f : α → Json} {as : List α} (h : ∀ a ∈ as, d.Restores f a) :
    d.list.Restores (fun as => .array (as.map f)) as := by
  have hitems : ofItems d.ofJson (sortedItems (as.map f)) = .ok as := by
    induction as with
    | nil => rfl
    | cons a as ih =>
      have ha : d.ofJson (f a).sorted = .ok a := h a List.mem_cons_self
      simp only [List.map_cons, sortedItems, ofItems, ha,
        ih fun x hx => h x (List.mem_cons_of_mem _ hx)]
  simpa only [Restores, list, Json.sorted] using hitems

end Json.Decoder

open Json.Decoder

theorem Token.optionalDecoder_text (t : Token) :
    Token.optionalDecoder.ofJson (.str t.text) = .ok (some t) := by
  simp [Token.optionalDecoder, refine, Decoder.optional, string, spelled, Token.parse_text]

/-- The arguments of an extraction, with their members sorted. -/
theorem InfoArgs.sorted_toJson (a : InfoArgs) :
    a.toJson.sorted = .object ([("path", .str a.path), ("uuid", .str a.uuid.text)] ++
      optionalMember "webhook_token" Token.toJson a.webhookToken ++
      optionalMember "webhook_uri" .str a.webhookUri) := by
  rcases a with ⟨uuid, path, _ | uri, _ | token⟩ <;>
    simp only [InfoArgs.toJson, optionalMember, Json.sorted, sortedMembers, sortMembers,
      insertMember, Uuid.toJson, Token.toJson, List.foldl_cons, List.foldl_nil, List.cons_append,
      List.nil_append, List.append_nil, String.reduceEq, String.reduceLT, reduceIte]

/-- **The arguments of an extraction are read back.** -/
theorem InfoArgs.restores (a : InfoArgs) : InfoArgs.decoder.Restores InfoArgs.toJson a := by
  have hid := restores_identifier a.uuid
  simp only [Restores, Uuid.toJson, Json.sorted] at hid
  unfold Restores
  rw [InfoArgs.sorted_toJson]
  -- Which members the object has depends on the optional ones.
  rcases a with ⟨uuid, path, _ | uri, _ | token⟩ <;>
    simp [InfoArgs.decoder, InfoArgs.shape, optionalMember, Shape.decoder, Shape.storeMembers,
      Shape.field?, Field.of, hid, Token.toJson, Token.optionalDecoder_text, string, spelled,
      Decoder.optional] <;>
    rfl

/-- The arguments of a job of the right kind are read from what was stored for it. -/
theorem InfoArgs.readArgs_of_stored {j : Job} {args : InfoArgs} (hkind : j.kind = .info)
    (hargs : j.args = args.toJson.sorted) : j.readArgs InfoArgs.arguments = .ok args :=
  Job.readArgs_ok_iff.2 ⟨hkind, hargs ▸ (InfoArgs.restores args).ofValue⟩

/-- Metadata is stored with its members in the order of their names. -/
theorem VideoInfo.sorted_toJson (v : VideoInfo) :
    v.toJson.sorted = .object
      [("chapter_durations_seconds", (Json.array (v.chapters.map .ofFloat)).sorted),
        ("duration_seconds", (ofFloat v.duration).sorted)] := by
  simp only [VideoInfo.toJson, Json.sorted, sortedMembers, sortMembers, insertMember,
    List.foldl_cons, List.foldl_nil, String.reduceEq, String.reduceLT, reduceIte]

/-- **Metadata are read back** if all numbers are finite. -/
theorem VideoInfo.restores {v : VideoInfo} (h : v.IsFinite) :
    VideoInfo.decoder.Restores VideoInfo.toJson v := by
  obtain ⟨hduration, hchapters⟩ := h
  have hd : real.ofJson (ofFloat v.duration).sorted = .ok v.duration := restores_real hduration
  have hc : real.list.ofJson (Json.array (v.chapters.map .ofFloat)).sorted = .ok v.chapters :=
    restores_list (d := real) (f := .ofFloat)
      fun x hx => restores_real (hchapters x hx)
  unfold Restores
  rw [VideoInfo.sorted_toJson]
  simp [VideoInfo.decoder, VideoInfo.shape, Shape.decoder, Shape.storeMembers, Shape.field?,
    Field.of, hc, hd]
  rfl

/-- An outcome is stored as an object with one member, and never as null. -/
theorem Outcome.sorted_toJson (o : Outcome) :
    o.toJson.sorted = match o with
      | .result v => .object [("result", v.toJson.sorted)]
      | .error m => .object [("error", .str m)] := by
  cases o <;> rfl

/-- **An outcome is read back** if all numbers of its result are finite. -/
theorem Outcome.restores {o : Outcome} (h : ∀ v, o = .result v → v.IsFinite) :
    Outcome.decoder.Restores Outcome.toJson o := by
  unfold Restores
  rw [Outcome.sorted_toJson]
  cases o with
  | result v =>
    have hp : Outcome.choice.payload "result" =
        .ok (.carrying (VideoInfo.decoder.map Outcome.result)) := rfl
    have hv : VideoInfo.decoder.ofJson v.toJson.sorted = .ok v := VideoInfo.restores (h v rfl)
    simp [Outcome.decoder, Choice.decoder, hp, Payload.decoder, Decoder.map, hv]
  | error m =>
    have hp : Outcome.choice.payload "error" =
        .ok (.carrying (Decoder.string.map Outcome.error)) := rfl
    simp [Outcome.decoder, Choice.decoder, hp, Payload.decoder, Decoder.map, string, spelled]

/-- The arguments of a delivery, with their members sorted. -/
theorem WebhookArgs.sorted_toJson (a : WebhookArgs) :
    a.toJson.sorted = .object ([("outcome", a.outcome.toJson.sorted)] ++
      optionalMember "token" Token.toJson a.token ++
      [("uri", .str a.uri), ("uuid", .str a.uuid.text)]) := by
  rcases a with ⟨uri, _ | token, uuid, outcome⟩ <;>
    simp only [WebhookArgs.toJson, optionalMember, Json.sorted, sortedMembers, sortMembers,
      insertMember, Uuid.toJson, Token.toJson, List.foldl_cons, List.foldl_nil, List.cons_append,
      List.nil_append, List.append_nil, String.reduceEq, String.reduceLT, reduceIte]

/-- **The arguments of a delivery are read back** if their outcome is. -/
theorem WebhookArgs.restores {a : WebhookArgs}
    (h : Outcome.decoder.Restores Outcome.toJson a.outcome) :
    WebhookArgs.decoder.Restores WebhookArgs.toJson a := by
  have hid := restores_identifier a.uuid
  simp only [Restores, Uuid.toJson, Json.sorted] at hid
  unfold Restores at h ⊢
  rw [WebhookArgs.sorted_toJson]
  rcases a with ⟨uri, _ | token, uuid, outcome⟩ <;>
    simp [WebhookArgs.decoder, WebhookArgs.shape, optionalMember, Shape.decoder,
      Shape.storeMembers, Shape.field?, Field.of, hid, h, Token.toJson,
      Token.optionalDecoder_text, string, spelled] <;>
    rfl

/-- The arguments of a delivery are read from what was stored for it. -/
theorem WebhookArgs.readArgs_of_stored {j : Job} {args : WebhookArgs}
    (h : Outcome.decoder.Restores Outcome.toJson args.outcome) (hkind : j.kind = .webhook)
    (hargs : j.args = args.toJson.sorted) : j.readArgs WebhookArgs.arguments = .ok args :=
  Job.readArgs_ok_iff.2 ⟨hkind, hargs ▸ (WebhookArgs.restores h).ofValue⟩

/-- The body of a delivery, with its members sorted. -/
theorem WebhookPayload.sorted_toJson (p : WebhookPayload) :
    p.toJson.sorted = .object (optionalMember "error" .str p.error ++
      optionalMember "result" (fun v => v.toJson.sorted) p.result ++
      optionalMember "token" Token.toJson p.token ++ [("uuid", .str p.uuid.text)]) := by
  rcases p with ⟨_ | token, uuid, _ | v, _ | error⟩ <;>
    simp only [WebhookPayload.toJson, optionalMember, Json.sorted, sortedMembers, sortMembers,
      insertMember, Uuid.toJson, Token.toJson, List.foldl_cons, List.foldl_nil, List.cons_append,
      List.nil_append, List.append_nil, String.reduceEq, String.reduceLT, reduceIte]

/-- **The body of a delivery is read back** if all numbers of its result are finite. -/
theorem WebhookPayload.restores {p : WebhookPayload} (h : ∀ v, p.result = some v → v.IsFinite) :
    WebhookPayload.decoder.Restores WebhookPayload.toJson p := by
  have hid := restores_identifier p.uuid
  simp only [Restores, Uuid.toJson, Json.sorted] at hid
  have hresult : ∀ v, p.result = some v →
      VideoInfo.decoder.optional.ofJson v.toJson.sorted = .ok (some v) := by
    intro v hv
    have hread : VideoInfo.decoder.ofJson v.toJson.sorted = .ok v := VideoInfo.restores (h v hv)
    rw [VideoInfo.sorted_toJson] at hread ⊢
    simp [Decoder.optional, hread]
  have herror (s : String) : string.optional.ofJson (.str s) = .ok (some s) := rfl
  unfold Restores
  rw [WebhookPayload.sorted_toJson]
  rcases p with ⟨_ | token, uuid, _ | v, _ | error⟩ <;>
    simp [WebhookPayload.decoder, WebhookPayload.shape, optionalMember, Shape.decoder,
      Shape.storeMembers, Shape.field?, Field.of, hid, hresult, herror, Token.toJson,
      Token.optionalDecoder_text] <;>
    rfl

end VideoProbe
