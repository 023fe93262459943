import VideoProbe.Extraction
import VideoProbe.Proofs.Stored

/-!
# Reading back what a probe found

A probe prints its times as texts, and each of them is checked to be finite when it is read.  What
is recorded of a chapter is the difference of two such times, and nobody checks the difference: of
two finite doubles it may be infinite.  A number that is not finite has no form in JSON and is
written as null, and null is no number for the decoder.

So the duration of the video can always be read back, and the whole of the metadata can be read back
if and only if no difference overflows (`readBack_iff_finite`).  Where one does, the recorded
outcome and the arguments of the delivery are both lost to their decoders (`lost_of_overflow`).
-/

namespace VideoProbe

/-- A document occurs in another one: it is the whole of it, or it occurs in an item or in the value
of a member. -/
inductive Json.Occurs (part : Json) : Json → Prop
  | whole : Occurs part part
  | item {v : Json} {items : List Json} (hv : v ∈ items) (h : Occurs part v) :
      Occurs part (.array items)
  | member {name : String} {v : Json} {members : List (String × Json)} (hv : (name, v) ∈ members)
      (h : Occurs part v) : Occurs part (.object members)

open Json

/-! ## Null in recorded metadata -/

theorem sortedItems_ofFloat (xs : List Float) :
    sortedItems (xs.map .ofFloat) = xs.map .ofFloat := by
  induction xs with
  | nil => rfl
  | cons x xs ih =>
    have hx : (ofFloat x).sorted = ofFloat x := by
      unfold ofFloat
      split <;> simp [Json.sorted]
    rw [List.map_cons, sortedItems, hx, ih]

/-- A number is written as null exactly where it is not finite. -/
theorem occurs_null_ofFloat (x : Float) : Occurs .null (ofFloat x) ↔ x.isFinite = false := by
  unfold ofFloat
  constructor
  · intro h
    by_cases hx : x.isFinite = true
    · rw [if_pos hx] at h
      cases h
    · exact eq_false_of_ne_true hx
  · intro hx
    rw [if_neg (by simp [hx])]
    exact .whole

/-- Of some numbers all are finite, or there is one that is not. -/
theorem finite_or (xs : List Float) :
    (∀ x ∈ xs, x.isFinite = true) ∨ ∃ x ∈ xs, x.isFinite = false := by
  induction xs with
  | nil => exact Or.inl (by simp)
  | cons x xs ih =>
    cases hx : x.isFinite with
    | false => exact Or.inr ⟨x, List.mem_cons_self, hx⟩
    | true =>
      rcases ih with hall | ⟨y, hy, hinf⟩
      · exact Or.inl (List.forall_mem_cons.2 ⟨hx, hall⟩)
      · exact Or.inr ⟨y, List.mem_cons_of_mem _ hy, hinf⟩

/-- How metadata is recorded: with its two members in the order of their names. -/
theorem VideoInfo.recorded_eq (v : VideoInfo) :
    v.toJson.sorted = .object [("chapter_durations_seconds", .array (v.chapters.map .ofFloat)),
      ("duration_seconds", ofFloat v.duration)] := by
  have hduration : (ofFloat v.duration).sorted = ofFloat v.duration := by
    have h := sortedItems_ofFloat [v.duration]
    simpa [sortedItems] using h
  rw [VideoInfo.sorted_toJson, hduration, Json.sorted, sortedItems_ofFloat]

/-- Null occurs in recorded metadata exactly where a number is not finite. -/
theorem VideoInfo.occurs_null (v : VideoInfo) : Occurs .null v.toJson.sorted ↔ ¬ v.IsFinite := by
  rw [VideoInfo.recorded_eq]
  constructor
  · rintro h ⟨hduration, hchapters⟩
    cases h with
    | member hv h =>
      simp only [List.mem_cons, Prod.mk.injEq, List.not_mem_nil, or_false] at hv
      rcases hv with ⟨-, rfl⟩ | ⟨-, rfl⟩
      · cases h with
        | item hv h =>
          obtain ⟨x, hx, rfl⟩ := List.mem_map.1 hv
          have hinf := (occurs_null_ofFloat x).1 h
          rw [hchapters x hx] at hinf
          exact absurd hinf (by decide)
      · have hinf := (occurs_null_ofFloat v.duration).1 h
        rw [hduration] at hinf
        exact absurd hinf (by decide)
  · intro h
    by_cases hduration : v.duration.isFinite = true
    · -- The duration is finite, so it is one of the chapters that is not.
      rcases finite_or v.chapters with hchapters | ⟨x, hx, hinf⟩
      · exact absurd ⟨hduration, hchapters⟩ h
      · refine .member (v := .array (v.chapters.map .ofFloat)) List.mem_cons_self ?_
        exact .item (List.mem_map_of_mem hx) ((occurs_null_ofFloat x).2 hinf)
    · refine .member (v := ofFloat v.duration) (List.mem_cons_of_mem _ List.mem_cons_self) ?_
      exact (occurs_null_ofFloat v.duration).2 (eq_false_of_ne_true hduration)

/-- The member of an outcome adds no null. -/
theorem Outcome.occurs_null (v : VideoInfo) :
    Occurs .null (Outcome.result v).toJson.sorted ↔ Occurs .null v.toJson.sorted := by
  rw [Outcome.sorted_toJson]
  constructor
  · intro h
    cases h with
    | member hv h =>
      simp only [List.mem_singleton, Prod.mk.injEq] at hv
      rw [hv.2] at h
      exact h
  · intro h
    exact .member List.mem_cons_self h

/-! ## Decoders and null -/

namespace Json.Decoder

/-- The decoder cannot read what is stored for a value. -/
def Loses (d : Decoder α) (toJson : α → Json) (a : α) : Prop :=
  ∃ c, d.ofJson (toJson a).sorted = .error c

/-- What is lost in one form is lost where it is stored. -/
theorem Loses.ofValue {d : Decoder α} {f : α → Json} {a : α} (h : d.Loses f a) :
    ∃ r, d.ofValue (f a).sorted = .error r := by
  obtain ⟨c, hc⟩ := h
  refine ⟨⟨c, none⟩, ?_⟩
  unfold Decoder.ofValue
  rw [hc]

/-- A number that is not finite is written as null, and null is no number. -/
theorem loses_real {x : Float} (h : x.isFinite = false) : real.Loses .ofFloat x := by
  refine ⟨.invalidType (found .null) "f64", ?_⟩
  simp [ofFloat, h, Json.sorted, real, numeric]

/-- A list is lost with the first of its items that is. -/
theorem ofItems_loses {d : Decoder α} {f : α → Json} {as : List α} {a : α} (ha : a ∈ as)
    (h : d.Loses f a) : ∃ c, ofItems d.ofJson (sortedItems (as.map f)) = .error c := by
  induction as with
  | nil => exact absurd ha List.not_mem_nil
  | cons b as ih =>
    rw [List.map_cons, sortedItems, ofItems]
    cases hb : d.ofJson (f b).sorted with
    | error c => exact ⟨c, rfl⟩
    | ok b' =>
      -- This item can be read, so the one that cannot comes later.
      have hlater : a ∈ as := by
        rcases List.mem_cons.1 ha with rfl | hlater
        · obtain ⟨c, hc⟩ := h
          rw [hc] at hb
          exact absurd hb (by simp)
        · exact hlater
      obtain ⟨c, hc⟩ := ih hlater
      exact ⟨c, by simp only [hc]⟩

end Json.Decoder

open Json.Decoder

/-- **Metadata are lost** with the number of a chapter that is not finite. -/
theorem VideoInfo.loses {v : VideoInfo} {x : Float} (hx : x ∈ v.chapters)
    (hinf : x.isFinite = false) : VideoInfo.decoder.Loses VideoInfo.toJson v := by
  obtain ⟨c, hc⟩ := ofItems_loses (d := real) hx (loses_real hinf)
  refine ⟨c, ?_⟩
  have hlist : real.list.ofJson (Json.array (v.chapters.map .ofFloat)).sorted = .error c := by
    simpa only [list, Json.sorted] using hc
  rw [VideoInfo.sorted_toJson]
  simp [VideoInfo.decoder, VideoInfo.shape, Shape.decoder, Shape.storeMembers, Shape.field?,
    Field.of, hlist]

/-- An outcome is lost with its metadata. -/
theorem Outcome.loses {v : VideoInfo} (h : VideoInfo.decoder.Loses VideoInfo.toJson v) :
    Outcome.decoder.Loses Outcome.toJson (.result v) := by
  obtain ⟨c, hc⟩ := h
  have hp : Outcome.choice.payload "result" =
      .ok (.carrying (VideoInfo.decoder.map Outcome.result)) := rfl
  refine ⟨c, ?_⟩
  rw [Outcome.sorted_toJson]
  simp [Outcome.decoder, Choice.decoder, hp, Payload.decoder, Decoder.map, hc]

/-- The arguments of a delivery are lost with their outcome. -/
theorem WebhookArgs.loses {a : WebhookArgs}
    (h : Outcome.decoder.Loses Outcome.toJson a.outcome) :
    WebhookArgs.decoder.Loses WebhookArgs.toJson a := by
  obtain ⟨c, hc⟩ := h
  refine ⟨c, ?_⟩
  rw [WebhookArgs.sorted_toJson]
  simp [WebhookArgs.decoder, WebhookArgs.shape, Shape.decoder, Shape.storeMembers, Shape.field?,
    Field.of, hc]

/-! ## What becomes of a result -/

namespace Extraction

/-- The output that is recorded for a result. -/
def recorded (info : VideoInfo) : Json :=
  (Outcome.result info).toJson.sorted

/-- A job with the output of a result. -/
def withResult (job : Job) (info : VideoInfo) : Job :=
  { job with output := some (recorded info) }

/-- A result can be read back: nothing of it became null, the job shows it, and so does the
delivery. -/
structure ReadBack (info : VideoInfo) : Prop where
  noNull : ¬ Occurs .null (recorded info)
  shown : ∀ job, (withResult job info).outcome = .ok (some (.result info))
  delivered : ∀ uri (args : InfoArgs),
    WebhookArgs.decoder.ofValue (webhookJob uri args (.result info)).args =
      .ok ⟨uri, args.webhookToken, args.uuid, .result info⟩

/-- A result is lost: part of it became null, whoever asks for the job is told of an error of the
service, and the delivery is discarded. -/
structure Lost (info : VideoInfo) : Prop where
  null : Occurs .null (recorded info)
  unshown : ∀ job, ∃ reason, (withResult job info).outcome = .error (.serialization reason)
  undelivered : ∀ uri (args : InfoArgs),
    ∃ r, WebhookArgs.decoder.ofValue (webhookJob uri args (.result info)).args = .error r

/-- Finite metadata is read back. -/
theorem readBack_of_finite {info : VideoInfo} (h : info.IsFinite) : ReadBack info where
  noNull := by
    intro hnull
    exact (VideoInfo.occurs_null info).1 ((Outcome.occurs_null info).1 hnull) h
  shown := by
    intro job
    have hstored : Outcome.decoder.Restores Outcome.toJson (.result info) :=
      Outcome.restores fun v hv => by cases hv; exact h
    have hdec := hstored.ofValue
    unfold Job.outcome withResult recorded
    rw [Outcome.sorted_toJson] at hdec ⊢
    simp only [hdec]
  delivered := by
    intro uri args
    exact (WebhookArgs.restores (a := ⟨uri, args.webhookToken, args.uuid, .result info⟩)
      (Outcome.restores fun v hv => by cases hv; exact h)).ofValue

/-- With one number that is not finite all of it is lost. -/
theorem lost_of_infinite {info : VideoInfo} {x : Float} (hx : x ∈ info.chapters)
    (hinf : x.isFinite = false) : Lost info where
  null := by
    refine (Outcome.occurs_null info).2 ((VideoInfo.occurs_null info).2 ?_)
    rintro ⟨-, hchapters⟩
    rw [hchapters x hx] at hinf
    exact absurd hinf (by decide)
  unshown := by
    intro job
    obtain ⟨r, hr⟩ := (Outcome.loses (VideoInfo.loses hx hinf)).ofValue
    refine ⟨r.message, ?_⟩
    unfold Job.outcome withResult recorded
    rw [Outcome.sorted_toJson] at hr ⊢
    simp only [hr]
    rfl
  undelivered := by
    intro uri args
    exact (WebhookArgs.loses (a := ⟨uri, args.webhookToken, args.uuid, .result info⟩)
      (Outcome.loses (VideoInfo.loses hx hinf))).ofValue

/-- What is lost is not read back. -/
theorem Lost.not_readBack {info : VideoInfo} (h : Lost info) : ¬ ReadBack info :=
  fun hread => hread.noNull h.null

end Extraction

/-! ## What a probe prints -/

namespace Probe

open Extraction

/-- A time that was read is finite. -/
theorem isFinite_of_seconds {field raw : String} {x : Float} (h : seconds field raw = .ok x) :
    x.isFinite = true := by
  unfold seconds at h
  split at h
  · split at h
    · rename_i hfinite
      cases h
      exact hfinite
    · simp at h
  · simp at h

/-- The duration of the video is finite in all metadata that a probe prints. -/
theorem isFinite_duration {stdout : List UInt8} {info : VideoInfo}
    (h : parseOutput stdout = .ok info) : info.duration.isFinite = true := by
  unfold parseOutput at h
  split at h
  · simp at h
  · unfold Document.info at h
    split at h
    · simp at h
    · rename_i d hd duration hduration
      split at h
      · simp at h
      · cases h
        exact isFinite_of_seconds hduration

/-- **Whatever a probe prints can be read back, if and only if no chapter's duration overflows**;
and where one does, it can be read by nobody. -/
theorem readBack_iff_finite (stdout : List UInt8) (info : VideoInfo)
    (h : parseOutput stdout = .ok info) :
    info.duration.isFinite = true ∧
      (ReadBack info ↔ ∀ x ∈ info.chapters, x.isFinite = true) ∧
      (Lost info ↔ ∃ x ∈ info.chapters, x.isFinite = false) := by
  have hduration := isFinite_duration h
  have hread : (∀ x ∈ info.chapters, x.isFinite = true) → ReadBack info := by
    intro hchapters
    exact readBack_of_finite ⟨hduration, hchapters⟩
  have hlost : (∃ x ∈ info.chapters, x.isFinite = false) → Lost info := by
    rintro ⟨x, hx, hinf⟩
    exact lost_of_infinite hx hinf
  refine ⟨hduration, ⟨fun hback => ?_, hread⟩, ⟨fun hl => ?_, hlost⟩⟩
  · rcases finite_or info.chapters with hall | hinf
    · exact hall
    · exact absurd hback (hlost hinf).not_readBack
  · rcases finite_or info.chapters with hall | hinf
    · exact absurd (hread hall) hl.not_readBack
    · exact hinf

/-- A video of two chapters. -/
def twoChapters : List UInt8 :=
  Text.Utf8.ofString ("\x7b\"format\": \x7b\"duration\": \"125.43\"\x7d, \"chapters\": [" ++
    "\x7b\"start_time\": \"0.0\", \"end_time\": \"60.0\"\x7d, " ++
    "\x7b\"start_time\": \"60.0\", \"end_time\": \"125.43\"\x7d]\x7d")

theorem readBack_twoChapters :
    parseOutput twoChapters = .ok ⟨125.43, [60, 125.43 - 60]⟩ ∧
      ReadBack ⟨125.43, [60, 125.43 - 60]⟩ := by
  have h : parseOutput twoChapters = .ok ⟨125.43, [60, 125.43 - 60]⟩ :=
    Except.ok_of_toOption (by decide +kernel)
  exact ⟨h, (readBack_iff_finite _ _ h).2.1.2 (by decide +kernel)⟩

/-- A chapter whose times are finite, and whose duration is not. -/
def overflowing : List UInt8 :=
  Text.Utf8.ofString ("\x7b\"format\":\x7b\"duration\":\"1\"\x7d,\"chapters\":[" ++
    "\x7b\"start_time\":\"-1e308\",\"end_time\":\"1e308\"\x7d]\x7d")

/-- **A duration may overflow**, and then what the probe accepted can be read by nobody. -/
theorem lost_of_overflow : ∃ info, parseOutput overflowing = .ok info ∧ Lost info := by
  have h : parseOutput overflowing = .ok ⟨1, [1e308 - -1e308]⟩ :=
    Except.ok_of_toOption (by decide +kernel)
  have hinf : (1e308 - -1e308 : Float).isFinite = false := by decide +kernel
  exact ⟨_, h, lost_of_infinite List.mem_cons_self hinf⟩

end Probe

end VideoProbe
