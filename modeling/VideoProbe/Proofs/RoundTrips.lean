import VideoProbe.Proofs.Parsed
import VideoProbe.Proofs.Stored

/-!
# What is stored and sent is read back

The arguments of both kinds of jobs, the outcome that is recorded and the body that is delivered are
written as JSON and read by someone else: from the text itself, or from the free value that the text
is read as first.  Both ways lead back to what was written (`written_roundTrips`), whatever its
texts, its token and its UUID are.  Of a number it has to be known that it survives being written
and read by itself (`Survives`); a double whose text is read as one of its neighbours does not.

The two ways are put together in the same way for all four (`RoundTrips.of_readsBack`): the text is
read member by member (`Fills`), the free value is the tree with its members sorted (`Legible`), and
what the decoder makes of that was settled where values are stored (`Restores`).
-/

namespace VideoProbe

namespace Json

/-! ## Numbers -/

/-- The number survives being written and read: its text is a number of JSON, and it is the number
that is read from its text. -/
def Survives (x : Float) : Prop :=
  x.isFinite = true ∧ readNumeral (Json.real x).octets = .ok (.real x, [])

/-- Not every number does: of seventeen digits the last may be lost. -/
example : ¬ Survives 123456789.12345679 := fun h =>
  absurd (congrArg Except.toOption h.2) (by decide +kernel)

/-- A number that survives is written as a number. -/
theorem ofFloat_eq {x : Float} (h : Survives x) : ofFloat x = .real x :=
  if_pos h.1

/-- It is legible on any level. -/
theorem legible_ofFloat (levels : Nat) {x : Float} (h : Survives x) :
    Legible levels (.ofFloat x) := by
  rw [ofFloat_eq h]
  exact .real levels h.2

/-- And it is read back. -/
theorem Decoder.readsBack_real {x : Float} (h : Survives x) :
    Decoder.real.ReadsBack 0 (.ofFloat x) x := by
  intro nesting fuel rest _ _ hends
  rw [ofFloat_eq h]
  have hread := extends_readNumeral _ _ rest h.2 hends
  have hskip := skipBlank_of_opens (opens_of_readNumeral h.2) rest
  obtain ⟨b, r, hv, hb⟩ := octets_of_readNumeral h.2
  unfold Decoder.real Decoder.numeric
  dsimp only
  rw [hskip]
  rw [hv, List.cons_append] at hread ⊢
  dsimp only
  rw [if_pos hb, hread]

/-! ## Both ways -/

/-- What is written for a value is read back as the value: from the octets of its text, and from the
tree that these are read as. -/
structure Decoder.RoundTrips (d : Decoder α) (toJson : α → Json) (a : α) : Prop where
  direct : d.ofOctets (Text.Utf8.ofString (toJson a).text) = .ok a
  parsed : ∃ v, Decoder.value.ofOctets (Text.Utf8.ofString (toJson a).text) = .ok v ∧
    d.ofValue v = .ok a

/-- What is read back from its text and from its tree makes the round trip on both ways. -/
theorem Decoder.RoundTrips.of_readsBack {d : Decoder α} {toJson : α → Json} {a : α} {levels : Nat}
    (hread : d.ReadsBack levels (toJson a) a) (hlegible : Legible levels (toJson a))
    (hlevels : levels ≤ nestingLimit) (hrestores : d.Restores toJson a) :
    d.RoundTrips toJson a where
  direct := by
    rw [ofString_text]
    exact hread.ofOctets hlevels
  parsed := by
    rw [ofString_text]
    exact ⟨_, hlegible.readsBack.ofOctets hlevels, hrestores.ofValue⟩

/-! ## Fields -/

/-- A member that may be left out fills its field, or leaves the draft as it is. -/
theorem fills_optional {shape : Shape δ α} {levels : Nat} {name : String} {toJson : β → Json}
    {o : Option β} {d d' : δ} (hnone : o = none → d' = d)
    (hsome : ∀ b, o = some b → Fills shape levels [(name, toJson b)] d d') :
    Fills shape levels (optionalMember name toJson o) d d' := by
  cases o with
  | none =>
    rw [hnone rfl]
    exact .nothing d
  | some b => exact hsome b rfl

/-- A text is read back. -/
theorem readsBack_string (levels : Nat) (s : String) :
    Decoder.string.ReadsBack levels (.str s) s :=
  (Decoder.readsBack_spelled _ rfl).mono (Nat.zero_le levels)

/-- A UUID is read back from its one form. -/
theorem readsBack_identifier (levels : Nat) (u : Uuid) :
    Decoder.identifier.ReadsBack levels u.toJson u :=
  (Decoder.readsBack_spelled _ (by rw [Uuid.parse_text])).mono (Nat.zero_le levels)

/-- A text is not null. -/
theorem head_octets_str (s : String) : (Json.str s).octets.head? ≠ some 0x6E := by
  rw [octets_str, List.head?_cons]
  decide

/-- A text is not null, so it is read back where it may be left out. -/
theorem readsBack_optionalString (levels : Nat) (s : String) :
    Decoder.string.optional.ReadsBack levels (.str s) (some s) :=
  Decoder.readsBack_optional (opens_str s) (head_octets_str s) (readsBack_string levels s)

/-- Neither is a token. -/
theorem readsBack_token (levels : Nat) (t : Token) :
    Token.optionalDecoder.ReadsBack levels t.toJson (some t) :=
  Decoder.readsBack_refine (by simp only [Token.parse_text])
    (readsBack_optionalString levels t.text)

end Json

open Json Json.Decoder

/-! ## The arguments of an extraction -/

namespace InfoArgs

theorem readsBack (a : InfoArgs) : InfoArgs.decoder.ReadsBack 1 a.toJson a := by
  have huuid : Fills shape 0 [("uuid", a.uuid.toJson)] shape.blank
      ⟨some a.uuid, none, none, none⟩ :=
    fills_field rfl rfl (readsBack_identifier 0 a.uuid) rfl
  have hpath : Fills shape 0 [("path", .str a.path)] ⟨some a.uuid, none, none, none⟩
      ⟨some a.uuid, some a.path, none, none⟩ :=
    fills_field rfl rfl (readsBack_string 0 a.path) rfl
  -- A field that may be left out is filled with its value, or not at all: `map some` is both.
  have huri : Fills shape 0 (optionalMember "webhook_uri" .str a.webhookUri)
      ⟨some a.uuid, some a.path, none, none⟩
      ⟨some a.uuid, some a.path, a.webhookUri.map some, none⟩ :=
    fills_optional (fun h => by rw [h]; rfl) fun uri h => by
      rw [h]
      exact fills_field rfl rfl (readsBack_optionalString 0 uri) rfl
  have htoken : Fills shape 0 (optionalMember "webhook_token" Token.toJson a.webhookToken)
      ⟨some a.uuid, some a.path, a.webhookUri.map some, none⟩
      ⟨some a.uuid, some a.path, a.webhookUri.map some, a.webhookToken.map some⟩ :=
    fills_optional (fun h => by rw [h]; rfl) fun token h => by
      rw [h]
      exact fills_field rfl rfl (readsBack_token 0 token) rfl
  refine Shape.readsBack (((huuid.append hpath).append huri).append htoken) ?_
  rcases a with ⟨uuid, path, _ | uri, _ | token⟩ <;> rfl

theorem legible (a : InfoArgs) : Legible 1 a.toJson := by
  refine .object ?_
  rcases a with ⟨uuid, path, _ | uri, _ | token⟩ <;>
    simp [optionalMember, Uuid.toJson, Token.toJson, Legible.str]

theorem roundTrips (a : InfoArgs) : InfoArgs.decoder.RoundTrips InfoArgs.toJson a :=
  .of_readsBack a.readsBack a.legible (by decide) a.restores

end InfoArgs

/-! ## Metadata and outcomes -/

namespace VideoInfo

/-- Every number of the metadata survives being written and read. -/
def Survives (v : VideoInfo) : Prop :=
  Json.Survives v.duration ∧ ∀ x ∈ v.chapters, Json.Survives x

/-- Numbers that survive are finite. -/
theorem Survives.isFinite {v : VideoInfo} (h : v.Survives) : v.IsFinite :=
  ⟨h.1.1, fun x hx => (h.2 x hx).1⟩

theorem readsBack {v : VideoInfo} (h : v.Survives) : VideoInfo.decoder.ReadsBack 2 v.toJson v := by
  have hduration : Fills shape 1 [("duration_seconds", .ofFloat v.duration)] shape.blank
      ⟨some v.duration, none⟩ :=
    fills_field rfl rfl ((readsBack_real h.1).mono (Nat.zero_le 1)) rfl
  have hlist : Decoder.real.list.ReadsBack 1 (.array (v.chapters.map .ofFloat)) v.chapters :=
    readsBack_list fun x hx =>
      ⟨(legible_ofFloat 0 (h.2 x hx)).opens, readsBack_real (h.2 x hx)⟩
  have hchapters : Fills shape 1
      [("chapter_durations_seconds", .array (v.chapters.map .ofFloat))] ⟨some v.duration, none⟩
      ⟨some v.duration, some v.chapters⟩ :=
    fills_field rfl rfl hlist rfl
  exact Shape.readsBack (hduration.append hchapters) rfl

theorem legible {v : VideoInfo} (h : v.Survives) : Legible 2 v.toJson := by
  have hchapters : Legible 1 (.array (v.chapters.map .ofFloat)) := by
    refine .array fun item hitem => ?_
    obtain ⟨x, hx, rfl⟩ := List.mem_map.1 hitem
    exact legible_ofFloat 0 (h.2 x hx)
  refine .object ?_
  simp [legible_ofFloat 1 h.1, hchapters]

end VideoInfo

namespace Outcome

/-- Every number of the result survives being written and read, if there is one. -/
def Survives (o : Outcome) : Prop :=
  ∀ v, o = .result v → v.Survives

theorem readsBack {o : Outcome} (h : o.Survives) : Outcome.decoder.ReadsBack 3 o.toJson o := by
  cases o with
  | result v =>
    exact Choice.readsBack (p := .carrying (VideoInfo.decoder.map result)) rfl
      (readsBack_map result (VideoInfo.readsBack (h v rfl)))
  | error m =>
    exact Choice.readsBack (p := .carrying (Decoder.string.map error)) rfl
      (readsBack_map error (readsBack_string 2 m))

theorem legible {o : Outcome} (h : o.Survives) : Legible 3 o.toJson := by
  cases o with
  | result v => exact .object (by simpa using VideoInfo.legible (h v rfl))
  | error m => exact .object (by simp [Legible.str])

/-- So an outcome with such numbers is restored from its tree. -/
theorem restores_of_survives {o : Outcome} (h : o.Survives) :
    Outcome.decoder.Restores Outcome.toJson o :=
  Outcome.restores fun v hv => (h v hv).isFinite

theorem roundTrips {o : Outcome} (h : o.Survives) :
    Outcome.decoder.RoundTrips Outcome.toJson o :=
  .of_readsBack (readsBack h) (legible h) (by decide) (restores_of_survives h)

end Outcome

/-! ## The arguments and the body of a delivery -/

namespace WebhookArgs

theorem readsBack {a : WebhookArgs} (h : a.outcome.Survives) :
    WebhookArgs.decoder.ReadsBack 4 a.toJson a := by
  have huri : Fills shape 3 [("uri", .str a.uri)] shape.blank ⟨some a.uri, none, none, none⟩ :=
    fills_field rfl rfl (readsBack_string 3 a.uri) rfl
  have htoken : Fills shape 3 (optionalMember "token" Token.toJson a.token)
      ⟨some a.uri, none, none, none⟩ ⟨some a.uri, a.token.map some, none, none⟩ :=
    fills_optional (fun h => by rw [h]; rfl) fun token h => by
      rw [h]
      exact fills_field rfl rfl (readsBack_token 3 token) rfl
  have huuid : Fills shape 3 [("uuid", a.uuid.toJson)]
      ⟨some a.uri, a.token.map some, none, none⟩
      ⟨some a.uri, a.token.map some, some a.uuid, none⟩ :=
    fills_field rfl rfl (readsBack_identifier 3 a.uuid) rfl
  have houtcome : Fills shape 3 [("outcome", a.outcome.toJson)]
      ⟨some a.uri, a.token.map some, some a.uuid, none⟩
      ⟨some a.uri, a.token.map some, some a.uuid, some a.outcome⟩ :=
    fills_field rfl rfl (Outcome.readsBack h) rfl
  refine Shape.readsBack ((huri.append htoken).append (huuid.append houtcome)) ?_
  rcases a with ⟨uri, _ | token, uuid, outcome⟩ <;> rfl

theorem legible {a : WebhookArgs} (h : a.outcome.Survives) : Legible 4 a.toJson := by
  have houtcome := Outcome.legible h
  refine .object ?_
  rcases a with ⟨uri, _ | token, uuid, outcome⟩ <;>
    simp [optionalMember, Uuid.toJson, Token.toJson, Legible.str, houtcome]

theorem roundTrips {a : WebhookArgs} (h : a.outcome.Survives) :
    WebhookArgs.decoder.RoundTrips WebhookArgs.toJson a :=
  .of_readsBack (readsBack h) (legible h) (by decide)
    (WebhookArgs.restores (Outcome.restores_of_survives h))

end WebhookArgs

namespace WebhookPayload

/-- Every number of the result survives being written and read, if there is one. -/
def Survives (p : WebhookPayload) : Prop :=
  ∀ v, p.result = some v → v.Survives

/-- Metadata are not null. -/
theorem readsBack_optionalInfo {v : VideoInfo} (h : v.Survives) :
    VideoInfo.decoder.optional.ReadsBack 2 v.toJson (some v) := by
  refine readsBack_optional (opens_object _) ?_ (VideoInfo.readsBack h)
  rw [VideoInfo.toJson, octets_object_cons, List.head?_cons]
  decide

theorem readsBack {p : WebhookPayload} (h : p.Survives) :
    WebhookPayload.decoder.ReadsBack 3 p.toJson p := by
  have htoken : Fills shape 2 (optionalMember "token" Token.toJson p.token) shape.blank
      ⟨p.token.map some, none, none, none⟩ :=
    fills_optional (fun h => by rw [h]; rfl) fun token h => by
      rw [h]
      exact fills_field rfl rfl (readsBack_token 2 token) rfl
  have huuid : Fills shape 2 [("uuid", p.uuid.toJson)] ⟨p.token.map some, none, none, none⟩
      ⟨p.token.map some, some p.uuid, none, none⟩ :=
    fills_field rfl rfl (readsBack_identifier 2 p.uuid) rfl
  have hresult : Fills shape 2 (optionalMember "result" VideoInfo.toJson p.result)
      ⟨p.token.map some, some p.uuid, none, none⟩
      ⟨p.token.map some, some p.uuid, p.result.map some, none⟩ :=
    fills_optional (fun h => by rw [h]; rfl) fun v hv => by
      have hread := readsBack_optionalInfo (h v hv)
      rw [hv]
      exact fills_field rfl rfl hread rfl
  have herror : Fills shape 2 (optionalMember "error" .str p.error)
      ⟨p.token.map some, some p.uuid, p.result.map some, none⟩
      ⟨p.token.map some, some p.uuid, p.result.map some, p.error.map some⟩ :=
    fills_optional (fun h => by rw [h]; rfl) fun m h => by
      rw [h]
      exact fills_field rfl rfl (readsBack_optionalString 2 m) rfl
  refine Shape.readsBack (((htoken.append huuid).append hresult).append herror) ?_
  rcases p with ⟨_ | token, uuid, _ | v, _ | error⟩ <;> rfl

theorem legible {p : WebhookPayload} (h : p.Survives) : Legible 3 p.toJson := by
  have hresult : ∀ v, p.result = some v → Legible 2 v.toJson :=
    fun v hv => VideoInfo.legible (h v hv)
  refine .object ?_
  rcases p with ⟨_ | token, uuid, _ | v, _ | error⟩ <;>
    simp [optionalMember, Uuid.toJson, Token.toJson, Legible.str, hresult]

theorem roundTrips {p : WebhookPayload} (h : p.Survives) :
    WebhookPayload.decoder.RoundTrips WebhookPayload.toJson p :=
  .of_readsBack (readsBack h) (legible h) (by decide)
    (WebhookPayload.restores fun v hv => (h v hv).isFinite)

end WebhookPayload

/-- **What is stored and sent is read back**: the arguments of both kinds of jobs, the outcome that
is recorded, and the body that is delivered, if every number of theirs survives. -/
theorem written_roundTrips :
    (∀ a : InfoArgs, InfoArgs.decoder.RoundTrips InfoArgs.toJson a) ∧
    (∀ a : WebhookArgs, a.outcome.Survives →
      WebhookArgs.decoder.RoundTrips WebhookArgs.toJson a) ∧
    (∀ o : Outcome, o.Survives → Outcome.decoder.RoundTrips Outcome.toJson o) ∧
    (∀ p : WebhookPayload, p.Survives →
      WebhookPayload.decoder.RoundTrips WebhookPayload.toJson p) :=
  ⟨InfoArgs.roundTrips, fun _ => WebhookArgs.roundTrips, fun _ => Outcome.roundTrips,
    fun _ => WebhookPayload.roundTrips⟩

/-- A delivery for a video of two chapters, with a token that is no text. -/
def twoChapterDelivery : WebhookArgs :=
  ⟨"https://a.example/\"b\"\n", some [0, 34, 255], Uuid.ofCount 1, .result ⟨125.43, [60, 65.43]⟩⟩

/-- Two chapters, a token that is no text, and quotes in the address. -/
theorem written_roundTrips_twoChapters :
    twoChapterDelivery.outcome.Survives ∧ (WebhookPayload.ofArgs twoChapterDelivery).Survives ∧
      WebhookArgs.decoder.RoundTrips WebhookArgs.toJson twoChapterDelivery ∧
      Outcome.decoder.RoundTrips Outcome.toJson twoChapterDelivery.outcome ∧
      WebhookPayload.decoder.RoundTrips WebhookPayload.toJson
        (WebhookPayload.ofArgs twoChapterDelivery) := by
  have hlength : Json.Survives 125.43 :=
    ⟨by decide +kernel, Except.ok_of_toOption (by decide +kernel)⟩
  have hfirst : Json.Survives 60 :=
    ⟨by decide +kernel, Except.ok_of_toOption (by decide +kernel)⟩
  have hsecond : Json.Survives 65.43 :=
    ⟨by decide +kernel, Except.ok_of_toOption (by decide +kernel)⟩
  have hinfo : VideoInfo.Survives ⟨125.43, [60, 65.43]⟩ := ⟨hlength, by simp [hfirst, hsecond]⟩
  have houtcome : twoChapterDelivery.outcome.Survives := by
    intro v hv
    cases hv
    exact hinfo
  have hpayload : (WebhookPayload.ofArgs twoChapterDelivery).Survives := by
    intro v hv
    cases hv
    exact hinfo
  obtain ⟨-, hargs, hrecorded, hsent⟩ := written_roundTrips
  exact ⟨houtcome, hpayload, hargs _ houtcome, hrecorded _ houtcome, hsent _ hpayload⟩

end VideoProbe
