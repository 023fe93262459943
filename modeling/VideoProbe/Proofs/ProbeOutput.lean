import VideoProbe.Proofs.Depicted
import VideoProbe.Proofs.RoundTrips

/-!
# How the output of a probe is parsed

A probe may leave out anything of a document: the part about the whole video or the duration in it,
the chapters, and each of their times.  Such a printout is a document all the same, with an empty
text for every time and no chapters where they are missing (`Printout.readsBack`).

What comes of an output is then settled (`parseOutput_parsed`).  What is no document is refused in
the words of the reader; of a document all times are read in order, and the first that is no number
is reported.
-/

namespace VideoProbe

namespace Probe

open Json

/-! ## Printouts -/

/-- A chapter as it is printed: a draft lacks the times that the chapter does. -/
def ChapterTimes.Draft.toJson (c : ChapterTimes.Draft) : Json :=
  .object (optionalMember "start_time" .str c.start ++ optionalMember "end_time" .str c.stop)

/-- The times of a chapter that is printed, empty where they are missing. -/
def ChapterTimes.Draft.times (c : ChapterTimes.Draft) : ChapterTimes :=
  ⟨c.start.getD "", c.stop.getD ""⟩

/-- What a probe prints. -/
structure Printout where
  /-- The part about the whole video, and the duration in it. -/
  format : Option (Option String)
  chapters : Option (List ChapterTimes.Draft)

namespace Printout

/-- The part about the whole video as it is printed. -/
def formatJson (duration : Option String) : Json :=
  .object (optionalMember "duration" .str duration)

/-- The chapters as they are printed. -/
def chaptersJson (cs : List ChapterTimes.Draft) : Json :=
  .array (cs.map ChapterTimes.Draft.toJson)

/-- The whole as it is printed. -/
def toJson (p : Printout) : Json :=
  .object (optionalMember "format" formatJson p.format ++
    optionalMember "chapters" chaptersJson p.chapters)

/-- The document that is printed. -/
def document (p : Printout) : Document :=
  ⟨(p.format.map fun duration => duration.getD "").getD "",
    (p.chapters.map fun cs => cs.map ChapterTimes.Draft.times).getD []⟩

end Printout

/-- A chapter is read back, whichever of its times are left out. -/
theorem ChapterTimes.Draft.readsBack (c : ChapterTimes.Draft) :
    ChapterTimes.shape.decoder.ReadsBack 1 c.toJson c.times := by
  have hstart : Fills ChapterTimes.shape 0 (optionalMember "start_time" .str c.start)
      ChapterTimes.shape.blank ⟨c.start, none⟩ :=
    fills_optional (fun h => by rw [h]; rfl) fun t h => by
      rw [h]
      exact fills_field rfl rfl (readsBack_string 0 t) rfl
  have hstop : Fills ChapterTimes.shape 0 (optionalMember "end_time" .str c.stop)
      ⟨c.start, none⟩ ⟨c.start, c.stop⟩ :=
    fills_optional (fun h => by rw [h]) fun t h => by
      rw [h]
      exact fills_field rfl rfl (readsBack_string 0 t) rfl
  exact Shape.readsBack (hstart.append hstop) rfl

namespace Printout

/-- So is the part about the whole video. -/
theorem readsBack_format (duration : Option String) :
    formatShape.decoder.ReadsBack 1 (formatJson duration) (duration.getD "") := by
  have hduration : Fills formatShape 0 (optionalMember "duration" .str duration)
      formatShape.blank duration :=
    fills_optional (fun h => by rw [h]; rfl) fun t h => by
      rw [h]
      exact fills_field rfl rfl (readsBack_string 0 t) rfl
  exact Shape.readsBack hduration rfl

/-- And so is the list of chapters. -/
theorem readsBack_chapters (cs : List ChapterTimes.Draft) :
    ChapterTimes.shape.decoder.list.ReadsBack 2 (chaptersJson cs)
      (cs.map ChapterTimes.Draft.times) := by
  apply Decoder.readsBack_items
  rw [List.forall₂_map_left_iff, List.forall₂_map_right_iff, List.forall₂_same]
  exact fun c _ => ⟨opens_object _, c.readsBack⟩

/-- **A printout is a document**, whatever it leaves out. -/
theorem readsBack (p : Printout) : Document.decoder.ReadsBack 3 p.toJson p.document := by
  have hformat : Fills Document.shape 2 (optionalMember "format" formatJson p.format)
      Document.shape.blank ⟨p.format.map fun duration => duration.getD "", none⟩ :=
    fills_optional (fun h => by rw [h]; rfl) fun duration h => by
      rw [h]
      exact fills_field rfl rfl ((readsBack_format duration).mono (by decide)) rfl
  have hchapters : Fills Document.shape 2 (optionalMember "chapters" chaptersJson p.chapters)
      ⟨p.format.map fun duration => duration.getD "", none⟩
      ⟨p.format.map fun duration => duration.getD "",
        p.chapters.map fun cs => cs.map ChapterTimes.Draft.times⟩ :=
    fills_optional (fun h => by rw [h]; rfl) fun cs h => by
      rw [h]
      exact fills_field rfl rfl (readsBack_chapters cs) rfl
  exact Shape.readsBack (hformat.append hchapters) rfl

end Printout

/-! ## Outputs -/

/-- What is made of the output of a probe. -/
structure Parsed (stdout : Octets) (r : Except ProbeError VideoInfo) : Prop where
  /-- What is no document is refused as such, in the words of the reader, and nothing else is. -/
  refused : ∀ message, r = .error (.parse message) ↔
    ∃ refusal, Document.decoder.ofOctets stdout = .error refusal ∧ message = refusal.message
  /-- Of a document it is the duration and, in order, how long each chapter is, if all the times are
  numbers; and if not, a report of the first that is none. -/
  judged : ∀ d, Document.decoder.ofOctets stdout = .ok d →
    Judges d.times (fun info => IsTime d.duration info.duration ∧
      List.Forall₂ Lasts d.chapters info.chapters) r
  /-- The document is the one that the output depicts, if it can be read as a tree. -/
  depicted : ∀ d v, Document.decoder.ofOctets stdout = .ok d →
    Decoder.value.ofOctets stdout = .ok v → Depicts v d

/-- Whatever has been printed: it is no document, or it is one and its times are judged. -/
theorem parsed_of_output (stdout : Octets) : Parsed stdout (parseOutput stdout) := by
  refine ⟨?refused, ?judged, fun d v hd hv => Document.tracks.sees.ofOctets hv hd⟩
  case refused =>
    intro message
    unfold parseOutput
    rcases Document.decoder.ofOctets stdout with refusal | d
    · simp [eq_comm]
    · dsimp only
      constructor
      · intro h
        exact nomatch (judges_info d).of_error _ h
      · rintro ⟨refusal, hrefusal, -⟩
        exact nomatch hrefusal
  case judged =>
    intro d hd
    have hparse : parseOutput stdout = d.info := by
      unfold parseOutput
      rw [hd]
    rw [hparse]
    exact judges_info d

/-- **How the output of a probe is parsed**: what comes of every output, and that a printout is a
document, with empty texts for what it leaves out. -/
theorem parseOutput_parsed :
    (∀ stdout, Parsed stdout (parseOutput stdout)) ∧
      ∀ p : Printout, Document.decoder.ofOctets p.toJson.octets = .ok p.document := by
  refine ⟨parsed_of_output, fun p => ?_⟩
  have hlevels : 3 ≤ nestingLimit := by decide
  exact p.readsBack.ofOctets hlevels

-- A record without fields lacks everything, and an empty text is no duration.
example : parseOutput "[]".toUTF8.toList = .error (.invalidNumber "duration" "") := by
  decide +kernel

end Probe

end VideoProbe
