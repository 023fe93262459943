import Mathlib.Data.List.Forall2
import VideoProbe.Proofs.Basic
import VideoProbe.Proofs.Members
import VideoProbe.Proofs.Stored

/-!
# What a recorded output is read as

Whatever JSON stands in the row of a job as its output, it is read as nothing, as an error, as a
result, or not at all.  Which of the four it is depends on the shape of the value alone: `ReadAs`
says for each of them exactly when, and `outcome_readAs` that it is so for every value.

The shape of a result is declared and not computed (`Describes`): metadata are an object with a
number under one name and a list of numbers under another, or the list of these two.  The decoder
of metadata accepts what is described and nothing else (`VideoInfo.ofJson_ok_iff`).  For a list the
fields are stored one after the other.  For an object a draft tells at any time what stands under
the two names among the members that were stored (`VideoInfo.Draft.Follows`); the members of a free
value have names of their own, so nothing that was stored is stored over.
-/

namespace VideoProbe

open Json

/-! ## Shapes -/

/-- A number, and the double that it is read as. -/
inductive Number : Json → Float → Prop
  | whole (n : Int) : Number (.int n) (Float.ofInt n)
  | real (x : Float) : Number (.real x) x

/-- A list of numbers, and the doubles that they are read as: one for each, in the same order. -/
def Numbers (v : Json) (xs : List Float) : Prop :=
  ∃ items, v = .array items ∧ List.Forall₂ Number items xs

/-- A value describes metadata, by the names of the fields or by their places. -/
inductive Describes : Json → VideoInfo → Prop
  | named {members : List (String × Json)} {duration chapters : Json} {x : Float} {xs : List Float}
      (hd : members.lookup "duration_seconds" = some duration)
      (hc : members.lookup "chapter_durations_seconds" = some chapters)
      (hx : Number duration x) (hxs : Numbers chapters xs) : Describes (.object members) ⟨x, xs⟩
  | placed {duration chapters : Json} {x : Float} {xs : List Float}
      (hx : Number duration x) (hxs : Numbers chapters xs) :
      Describes (.array [duration, chapters]) ⟨x, xs⟩

/-- The members of an object do not say which of the two it is: both names stand in it, or neither,
or another one. -/
inductive Unclear (members : List (String × Json)) : Prop
  | both (hresult : (members.lookup "result").isSome = true)
      (herror : (members.lookup "error").isSome = true)
  | neither (hresult : members.lookup "result" = none) (herror : members.lookup "error" = none)
  | another {m : String × Json} (hm : m ∈ members) (hresult : m.1 ≠ "result")
      (herror : m.1 ≠ "error")

/-- How an output is read: each answer comes from outputs of one shape, and from all of them. -/
structure ReadAs (output : Option Json) (r : Except ServiceError (Option Outcome)) : Prop where
  none_iff : r = .ok none ↔ output = none ∨ output = some .null
  error_iff : ∀ message, r = .ok (some (.error message)) ↔
    output = some (.object [("error", .str message)])
  result_iff : ∀ info, r = .ok (some (.result info)) ↔
    ∃ v, output = some (.object [("result", v)]) ∧ Describes v info
  /-- What has none of the shapes is refused. -/
  refused_iff : (∃ reason, r = .error (.serialization reason)) ↔
    output ≠ none ∧ output ≠ some .null ∧
      (∀ message, output ≠ some (.object [("error", .str message)])) ∧
      ∀ v info, output = some (.object [("result", v)]) → ¬ Describes v info
  refused_of_unclear : ∀ members, output = some (.object members) → Unclear members →
    ∃ reason, r = .error (.serialization reason)

/-- A job with something recorded as its output: a free value, as everything that is stored. -/
def Job.recording (j : Job) (stored : Option Json) : Job :=
  { j with output := stored.map Json.sorted }

/-! ## Numbers and lists -/

/-- A number is decoded from what stands for one. -/
theorem real_ofJson_ok_iff {v : Json} {x : Float} :
    Decoder.real.ofJson v = .ok x ↔ Number v x := by
  constructor
  · intro h
    cases v with
    | int n =>
      cases h
      exact Number.whole n
    | real y =>
      cases h
      exact Number.real x
    | null | bool _ | str _ | array _ | object _ => exact nomatch h
  · rintro (n | x)
    · rfl
    · rfl

/-- A number is read as one double. -/
theorem Number.unique {v : Json} {x y : Float} (hx : Number v x) (hy : Number v y) : x = y :=
  Except.ok.inj ((real_ofJson_ok_iff.2 hx).symm.trans (real_ofJson_ok_iff.2 hy))

/-- Items are decoded one by one: none is left out, and none moves. -/
theorem Json.Decoder.ofItems_ok_iff {f : Json → Except Cause α} {items : List Json} {as : List α} :
    Decoder.ofItems f items = .ok as ↔ List.Forall₂ (fun v a => f v = .ok a) items as := by
  induction items generalizing as with
  | nil =>
    rw [List.forall₂_nil_left_iff]
    exact ⟨fun h => (Except.ok.inj h).symm, fun h => h ▸ rfl⟩
  | cons v items ih =>
    rw [List.forall₂_cons_left_iff]
    unfold Decoder.ofItems
    -- A fault in one item is a fault of the whole, so with one there is no list that fits.
    cases hv : f v with
    | error c => simp
    | ok a =>
      cases hitems : Decoder.ofItems f items with
      | error c =>
        have hnone : ∀ as, ¬ List.Forall₂ (fun v a => f v = .ok a) items as := by
          intro as has
          have hread := ih.2 has
          rw [hitems] at hread
          cases hread
        simp [hnone]
      | ok rest =>
        have hrest : ∀ as, List.Forall₂ (fun v a => f v = .ok a) items as ↔ rest = as := by
          intro as
          rw [← ih, hitems, Except.ok.injEq]
        simp [hrest, eq_comm]

/-- A list of numbers, item by item. -/
theorem numbers_ofJson_ok_iff {v : Json} {xs : List Float} :
    Decoder.real.list.ofJson v = .ok xs ↔ Numbers v xs := by
  have hitems : ∀ items, Decoder.ofItems Decoder.real.ofJson items = .ok xs ↔
      List.Forall₂ Number items xs := by
    intro items
    rw [Decoder.ofItems_ok_iff]
    constructor
    · exact fun h => h.imp fun _ _ => real_ofJson_ok_iff.1
    · exact fun h => h.imp fun _ _ => real_ofJson_ok_iff.2
  constructor
  · intro h
    cases v with
    | array items => exact ⟨items, rfl, (hitems items).1 h⟩
    | null | bool _ | int _ | real _ | str _ | object _ => exact nomatch h
  · rintro ⟨items, rfl, h⟩
    exact (hitems items).2 h

/-- A list of numbers is read as one list of doubles. -/
theorem Numbers.unique {v : Json} {xs ys : List Float} (hx : Numbers v xs) (hy : Numbers v ys) :
    xs = ys :=
  Except.ok.inj ((numbers_ofJson_ok_iff.2 hx).symm.trans (numbers_ofJson_ok_iff.2 hy))

/-! ## Metadata -/

namespace VideoInfo

/-- A draft tells what stands under the names of the two fields. -/
def Draft.Follows (look : String → Option Json) (draft : Draft) : Prop :=
  Option.Rel Number (look "duration_seconds") draft.duration ∧
    Option.Rel Numbers (look "chapter_durations_seconds") draft.chapters

/-- Storing a value in the field of a name. -/
theorem store_ok_iff {name : String} {f : Json.Field Draft} (hf : shape.field? name = some f)
    (v : Json) (draft draft' : Draft) :
    f.store v draft = .ok draft' ↔
      (name = "duration_seconds" ∧
        ∃ x, Number v x ∧ draft' = { draft with duration := some x }) ∨
      (name = "chapter_durations_seconds" ∧
        ∃ xs, Numbers v xs ∧ draft' = { draft with chapters := some xs }) := by
  obtain ⟨hmem, hname⟩ := Shape.mem_of_field? hf
  subst hname
  simp only [shape, List.mem_cons, List.not_mem_nil, or_false] at hmem
  rcases hmem with rfl | rfl
  · rw [Field.of_store_ok_iff]
    simp only [Field.of, real_ofJson_ok_iff, String.reduceEq, true_and, false_and, or_false]
  · rw [Field.of_store_ok_iff]
    simp only [Field.of, numbers_ofJson_ok_iff, String.reduceEq, true_and, false_and, false_or]

/-- The fields have two names. -/
theorem name_of_field? {name : String} {f : Json.Field Draft} (hf : shape.field? name = some f) :
    name = "duration_seconds" ∨ name = "chapter_durations_seconds" := by
  obtain ⟨hmem, rfl⟩ := Shape.mem_of_field? hf
  simp only [shape, List.mem_cons, List.not_mem_nil, or_false] at hmem
  rcases hmem with rfl | rfl
  · exact Or.inl rfl
  · exact Or.inr rfl

/-- The fields of a record are made of the members of its object. -/
theorem Draft.follows_of_storeMembers {members : List (String × Json)} {draft : Draft}
    (hordered : Ordered members) (h : shape.storeMembers members shape.blank = .ok draft) :
    Draft.Follows (members.lookup ·) draft := by
  have hstart : Draft.Follows (fun _ => none) shape.blank := ⟨Option.Rel.none, Option.Rel.none⟩
  -- A member of either field sets this field of the draft and leaves the other one as it is.
  have hkeeps := Shape.storeMembers_keeps ?hknown ?hunknown hordered (fun _ _ => rfl) hstart h
  case hknown =>
    intro name f look d v d' hf ⟨hduration, hchapters⟩ hstore
    rcases (store_ok_iff hf v d d').1 hstore with ⟨rfl, x, hx, rfl⟩ | ⟨rfl, xs, hxs, rfl⟩
    · refine ⟨?_, ?_⟩
      · rw [putUnder_self]
        exact Option.Rel.some hx
      · rw [putUnder_of_ne (by decide)]
        exact hchapters
    · refine ⟨?_, ?_⟩
      · rw [putUnder_of_ne (by decide)]
        exact hduration
      · rw [putUnder_self]
        exact Option.Rel.some hxs
  case hunknown =>
    intro name look d v hf hR
    have hduration : "duration_seconds" ≠ name :=
      Shape.ne_of_field?_none hf List.mem_cons_self
    have hchapters : "chapter_durations_seconds" ≠ name :=
      Shape.ne_of_field?_none hf (List.mem_cons_of_mem _ List.mem_cons_self)
    unfold Draft.Follows
    rw [putUnder_of_ne hduration, putUnder_of_ne hchapters]
    exact hR
  simpa only [Option.or_none] using hkeeps

/-- Metadata is finished when both fields are there. -/
theorem finish_ok_iff {draft : Draft} {info : VideoInfo} :
    shape.finish draft = .ok info ↔
      draft.duration = some info.duration ∧ draft.chapters = some info.chapters := by
  obtain ⟨x, xs⟩ := info
  rcases draft with ⟨_ | x', _ | xs'⟩ <;> simp [shape, require, bind, Except.bind, pure, Except.pure]

/-- Metadata from the members of an object. -/
theorem ofJson_object_ok_iff {members : List (String × Json)} (hordered : Ordered members)
    {info : VideoInfo} :
    decoder.ofJson (.object members) = .ok info ↔ Describes (.object members) info := by
  refine Shape.ofJson_object_ok_iff.trans ⟨?_, ?_⟩
  · rintro ⟨draft, hstore, hfinish⟩
    obtain ⟨hduration, hchapters⟩ := Draft.follows_of_storeMembers hordered hstore
    obtain ⟨hd, hc⟩ := finish_ok_iff.1 hfinish
    rw [hd] at hduration
    rw [hc] at hchapters
    obtain ⟨duration, hd, hx⟩ := Option.exists_of_rel_some_right hduration
    obtain ⟨chapters, hc, hxs⟩ := Option.exists_of_rel_some_right hchapters
    exact Describes.named hd hc hx hxs
  · rintro (⟨hd, hc, hx, hxs⟩ | _)
    -- A member with the name of a field is the one that is described, so it can be stored.
    have hstored : ∀ m ∈ members, ∀ f, shape.field? m.1 = some f → ∀ draft,
        ∃ draft', f.store m.2 draft = .ok draft' := by
      intro m hm f hf draft
      obtain ⟨name, v⟩ := m
      have hlookup := hordered.lookup_of_mem hm
      rcases name_of_field? hf with rfl | rfl
      · cases hd.symm.trans hlookup
        exact ⟨_, (store_ok_iff hf v draft _).2 (Or.inl ⟨rfl, _, hx, rfl⟩)⟩
      · cases hc.symm.trans hlookup
        exact ⟨_, (store_ok_iff hf v draft _).2 (Or.inr ⟨rfl, _, hxs, rfl⟩)⟩
    obtain ⟨draft, hstore⟩ := Shape.storeMembers_ok hstored shape.blank
    obtain ⟨hduration, hchapters⟩ := Draft.follows_of_storeMembers hordered hstore
    dsimp only at hduration hchapters
    rw [hd] at hduration
    rw [hc] at hchapters
    obtain ⟨x', hd', hx'⟩ := Option.exists_of_rel_some_left hduration
    obtain ⟨xs', hc', hxs'⟩ := Option.exists_of_rel_some_left hchapters
    refine ⟨draft, hstore, finish_ok_iff.2 ⟨?_, ?_⟩⟩
    · rw [hd', hx'.unique hx]
    · rw [hc', hxs'.unique hxs]

/-- Metadata from the items of a list. -/
theorem ofJson_array_ok_iff {items : List Json} {info : VideoInfo} :
    decoder.ofJson (.array items) = .ok info ↔ Describes (.array items) info := by
  -- Neither field may be left out, so there are two items and no more.
  have hstore : ∀ draft, Shape.storeItems shape.describeList shape.fields 0 items shape.blank =
      .ok (draft, []) ↔ ∃ duration chapters x xs, items = [duration, chapters] ∧
        Number duration x ∧ Numbers chapters xs ∧ draft = ⟨some x, some xs⟩ := by
    intro draft
    unfold shape
    simp only [Shape.storeItems_cons_ok_iff (f := Field.of _ _ _ _ false) rfl,
      Field.of_store_ok_iff, real_ofJson_ok_iff, numbers_ofJson_ok_iff, Shape.storeItems]
    constructor
    · rintro ⟨duration, rest, _, rfl, ⟨x, hx, rfl⟩, chapters, left, _, rfl, ⟨xs, hxs, rfl⟩, hleft⟩
      cases hleft
      exact ⟨duration, chapters, x, xs, rfl, hx, hxs, rfl⟩
    · rintro ⟨duration, chapters, x, xs, rfl, hx, hxs, rfl⟩
      exact ⟨duration, _, _, rfl, ⟨x, hx, rfl⟩, chapters, _, _, rfl, ⟨xs, hxs, rfl⟩, rfl⟩
  refine Shape.ofJson_array_ok_iff.trans ⟨?_, ?_⟩
  · rintro ⟨draft, hdraft, hfinish⟩
    obtain ⟨duration, chapters, x, xs, rfl, hx, hxs, rfl⟩ := (hstore draft).1 hdraft
    cases hfinish
    exact Describes.placed hx hxs
  · rintro (_ | ⟨hx, hxs⟩)
    exact ⟨_, (hstore _).2 ⟨_, _, _, _, rfl, hx, hxs, rfl⟩, rfl⟩

/-- **Metadata are accepted where they are described**, and read as what is described. -/
theorem ofJson_ok_iff {v : Json} {info : VideoInfo} :
    decoder.ofJson v.sorted = .ok info ↔ Describes v.sorted info := by
  cases hv : v.sorted with
  | object members => exact ofJson_object_ok_iff (ordered_of_sorted hv).1
  | array items => exact ofJson_array_ok_iff
  | null | bool _ | int _ | real _ | str _ =>
    constructor
    · intro h
      exact nomatch h
    · intro h
      exact nomatch h

end VideoInfo

/-! ## Outcomes -/

/-- There are two alternatives. -/
theorem Outcome.payload_ok_iff {name : String} {p : Payload Outcome} :
    Outcome.choice.payload name = .ok p ↔
      (name = "result" ∧ p = .carrying (VideoInfo.decoder.map .result)) ∨
        (name = "error" ∧ p = .carrying (Decoder.string.map .error)) := by
  by_cases hresult : name = "result"
  · subst hresult
    have hpayload : Outcome.choice.payload "result" =
      .ok (.carrying (VideoInfo.decoder.map .result)) := rfl
    simp [hpayload, eq_comm]
  · by_cases herror : name = "error"
    · subst herror
      have hpayload : Outcome.choice.payload "error" =
        .ok (.carrying (Decoder.string.map .error)) := rfl
      simp [hpayload, eq_comm]
    · have hlookup : Outcome.choice.alternatives.lookup name = none := by
        rw [List.lookup_eq_none_iff]
        simp [Outcome.choice, hresult, herror]
      simp [Choice.payload, hlookup, hresult, herror]

/-- An outcome is read from the one member of an object. -/
theorem Outcome.ofJson_ok_iff {v : Json} {o : Outcome} :
    Outcome.decoder.ofJson v = .ok o ↔
      (∃ message, v = .object [("error", .str message)] ∧ o = .error message) ∨
        ∃ w info, v = .object [("result", w)] ∧ VideoInfo.decoder.ofJson w = .ok info ∧
          o = .result info := by
  constructor
  · intro h
    unfold Outcome.decoder Choice.decoder at h
    dsimp only at h
    split at h
    · -- The bare name of an alternative is not enough: both carry a value.
      rename_i name
      cases hpayload : Outcome.choice.payload name with
      | error c =>
        rw [hpayload] at h
        exact nomatch h
      | ok p =>
        rw [hpayload] at h
        rcases Outcome.payload_ok_iff.1 hpayload with ⟨-, rfl⟩ | ⟨-, rfl⟩ <;> exact nomatch h
    · rename_i name content
      cases hpayload : Outcome.choice.payload name with
      | error c =>
        rw [hpayload] at h
        exact nomatch h
      | ok p =>
        rw [hpayload] at h
        rcases Outcome.payload_ok_iff.1 hpayload with ⟨rfl, rfl⟩ | ⟨rfl, rfl⟩
        · dsimp only [Payload.decoder, Decoder.map] at h
          cases hinfo : VideoInfo.decoder.ofJson content with
          | error c =>
            rw [hinfo] at h
            exact nomatch h
          | ok info =>
            rw [hinfo] at h
            cases h
            exact Or.inr ⟨content, info, rfl, hinfo, rfl⟩
        · cases content with
          | str message =>
            cases h
            exact Or.inl ⟨message, rfl, rfl⟩
          | null | bool _ | int _ | real _ | array _ | object _ => exact nomatch h
    · exact nomatch h
    · exact nomatch h
  · rintro (⟨message, rfl, rfl⟩ | ⟨w, info, rfl, hinfo, rfl⟩)
    · rfl
    · have hpayload := Outcome.payload_ok_iff.2 (Or.inl ⟨rfl, rfl⟩)
      simp only [Outcome.decoder, Choice.decoder, hpayload, Payload.decoder, Decoder.map, hinfo]

/-- An output that is not null is read as an outcome, or it is refused. -/
theorem Job.outcome_cases (j : Job) :
    ((j.output = none ∨ j.output = some .null) ∧ j.outcome = .ok none) ∨
      ∃ v, j.output = some v ∧ v ≠ .null ∧
        ((∃ o, Outcome.decoder.ofJson v = .ok o ∧ j.outcome = .ok (some o)) ∨
          ∃ c, Outcome.decoder.ofJson v = .error c ∧
            j.outcome = .error (.serialization c.message)) := by
  unfold Job.outcome
  split
  · rename_i houtput
    exact Or.inl ⟨Or.inl houtput, rfl⟩
  · rename_i houtput
    exact Or.inl ⟨Or.inr houtput, rfl⟩
  · rename_i v hnull houtput
    refine Or.inr ⟨v, houtput, hnull, ?_⟩
    unfold Decoder.ofValue
    cases hdecode : Outcome.decoder.ofJson v with
    | ok o => exact Or.inl ⟨o, rfl, rfl⟩
    | error c => exact Or.inr ⟨c, rfl, rfl⟩

/-- A job has no outcome if nothing is stored, or null. -/
theorem Job.outcome_eq_none_iff {j : Job} :
    j.outcome = .ok none ↔ j.output = none ∨ j.output = some .null := by
  rcases j.outcome_cases with ⟨habsent, hr⟩ | ⟨v, houtput, hv, ⟨o, -, hr⟩ | ⟨c, -, hr⟩⟩
  · simp [hr, habsent]
  · simp [hr, houtput, hv]
  · simp [hr, houtput, hv]

/-- It has one if what is stored is read as one. -/
theorem Job.outcome_eq_some_iff {j : Job} {o : Outcome} :
    j.outcome = .ok (some o) ↔ ∃ v, j.output = some v ∧ Outcome.decoder.ofJson v = .ok o := by
  rcases j.outcome_cases with ⟨habsent, hr⟩ | ⟨v, houtput, hv, ⟨o, hdecode, hr⟩ | ⟨c, hdecode, hr⟩⟩
  · rw [hr]
    constructor
    · intro h
      exact nomatch h
    · rintro ⟨v, houtput, hdecode⟩
      rcases habsent with h | h
      · exact nomatch h.symm.trans houtput
      · cases h.symm.trans houtput
        exact nomatch hdecode
  · simp [hr, houtput, hdecode]
  · simp [hr, houtput, hdecode]

/-- There is no other error. -/
theorem Job.outcome_refused_iff {j : Job} :
    (∃ reason, j.outcome = .error (.serialization reason)) ↔
      j.outcome ≠ .ok none ∧ ∀ o, j.outcome ≠ .ok (some o) := by
  rcases j.outcome_cases with ⟨-, hr⟩ | ⟨v, -, -, ⟨o, -, hr⟩ | ⟨c, -, hr⟩⟩
  · simp [hr]
  · simp [hr]
  · simp [hr]

/-- One member of one of the two names is clear. -/
theorem not_unclear_result {v : Json} : ¬ Unclear [("result", v)] := by
  rintro (⟨-, herror⟩ | ⟨hresult, -⟩ | ⟨hm, hresult, -⟩)
  · simp [lookup_cons_member] at herror
  · simp at hresult
  · exact hresult (List.mem_singleton.1 hm ▸ rfl)

/-- A member that tells an error is clear. -/
theorem not_unclear_error {v : Json} : ¬ Unclear [("error", v)] := by
  rintro (⟨hresult, -⟩ | ⟨-, herror⟩ | ⟨hm, -, herror⟩)
  · simp [lookup_cons_member] at hresult
  · simp at herror
  · exact herror (List.mem_singleton.1 hm ▸ rfl)

section Recorded

variable (j : Job) (stored : Option Json)

theorem Job.outcome_error_iff (message : String) :
    (j.recording stored).outcome = .ok (some (.error message)) ↔
      (j.recording stored).output = some (.object [("error", .str message)]) := by
  simp [Job.outcome_eq_some_iff, Outcome.ofJson_ok_iff]

/-- The value beside the name is a free value again. -/
theorem Job.outcome_result_iff (info : VideoInfo) :
    (j.recording stored).outcome = .ok (some (.result info)) ↔
      ∃ v, (j.recording stored).output = some (.object [("result", v)]) ∧ Describes v info := by
  rw [Job.outcome_eq_some_iff]
  have hfree : ∀ v, (j.recording stored).output = some (.object [("result", v)]) →
      (VideoInfo.decoder.ofJson v = .ok info ↔ Describes v info) := by
    intro v houtput
    obtain ⟨w, -, hw⟩ := Option.map_eq_some_iff.1 houtput
    obtain ⟨v', rfl⟩ := (ordered_of_sorted hw).2 _ List.mem_cons_self
    exact VideoInfo.ofJson_ok_iff
  constructor
  · rintro ⟨v, houtput, hdecode⟩
    rcases Outcome.ofJson_ok_iff.1 hdecode with ⟨message, -, ho⟩ | ⟨w, info', rfl, hinfo, ho⟩
    · exact nomatch ho
    · cases ho
      exact ⟨w, houtput, (hfree w houtput).1 hinfo⟩
  · rintro ⟨v, houtput, hdescribes⟩
    have hinfo := (hfree v houtput).2 hdescribes
    exact ⟨_, houtput, Outcome.ofJson_ok_iff.2 (Or.inr ⟨v, info, rfl, hinfo, rfl⟩)⟩

/-- No outcome is read if and only if no shape fits. -/
theorem Job.outcome_ne_some_iff :
    (∀ o, (j.recording stored).outcome ≠ .ok (some o)) ↔
      (∀ message, (j.recording stored).output ≠ some (.object [("error", .str message)])) ∧
        ∀ v info, (j.recording stored).output = some (.object [("result", v)]) →
          ¬ Describes v info := by
  constructor
  · intro h
    refine ⟨fun message houtput => ?_, fun v info houtput hdescribes => ?_⟩
    · exact h _ ((j.outcome_error_iff stored message).2 houtput)
    · exact h _ ((j.outcome_result_iff stored info).2 ⟨v, houtput, hdescribes⟩)
  · rintro ⟨herror, hresult⟩ o ho
    cases o with
    | error message => exact herror message ((j.outcome_error_iff stored message).1 ho)
    | result info =>
      obtain ⟨v, houtput, hdescribes⟩ := (j.outcome_result_iff stored info).1 ho
      exact hresult v info houtput hdescribes

/-- **What a recorded output is read as**, whatever is recorded. -/
theorem outcome_readAs : ReadAs (j.recording stored).output (j.recording stored).outcome := by
  have hrefused : (∃ reason, (j.recording stored).outcome = .error (.serialization reason)) ↔
      (j.recording stored).output ≠ none ∧ (j.recording stored).output ≠ some .null ∧
        (∀ message, (j.recording stored).output ≠ some (.object [("error", .str message)])) ∧
        ∀ v info, (j.recording stored).output = some (.object [("result", v)]) →
          ¬ Describes v info := by
    rw [Job.outcome_refused_iff, ne_eq, Job.outcome_eq_none_iff, not_or, and_assoc,
      Job.outcome_ne_some_iff]
  refine ⟨Job.outcome_eq_none_iff, j.outcome_error_iff stored, j.outcome_result_iff stored,
    hrefused, ?_⟩
  intro members houtput hunclear
  refine hrefused.2 ?_
  rw [houtput]
  refine ⟨nofun, nofun, fun message hmembers => ?_, fun v info hmembers _ => ?_⟩
  · cases hmembers
    exact not_unclear_error hunclear
  · cases hmembers
    exact not_unclear_result hunclear

end Recorded

end VideoProbe
