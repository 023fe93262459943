import VideoProbe.Proofs.Outcomes
import VideoProbe.Proofs.Projection
import VideoProbe.Proofs.Views

/-!
# A failed process is a failed job with a reason

What a process has printed does not count if it did not end well: a document that it printed before
is not read, and the job is not tried again.  The attempt succeeds with an error for its outcome,
and the client sees a job that has failed, and why.

There is always something to see.  The reason is what the process printed as errors, whatever octets
these are, or, where this is nothing but white space, how the process ended; and the words for this
are never empty and have no white space at their ends (`Ending.trimmed_describe`).
-/

namespace VideoProbe

open Database

/-! ## The words for an ending -/

namespace Text

theorem isBlank_of_isDigit {c : Char} (h : Decimal.isDigit c = true) : isBlank c = false := by
  simp only [Decimal.isDigit, Bool.and_eq_true, decide_eq_true_eq, Char.le_def,
    UInt32.le_iff_toNat_le] at h
  simp only [isBlank, ← Bool.not_eq_true, Bool.or_eq_true, Bool.and_eq_true, decide_eq_true_eq,
    beq_iff_eq, UInt32.le_iff_toNat_le, ← UInt32.toNat_inj]
  simp only [UInt32.reduceToNat, Char.reduceVal] at *
  omega

/-- There is a last character, and it is not white space. -/
def EndsFirm (s : String) : Prop :=
  ∃ c, s.toList.getLast? = some c ∧ isBlank c = false

/-- Only the end of a text counts. -/
theorem EndsFirm.append {b : String} (h : EndsFirm b) (a : String) : EndsFirm (a ++ b) := by
  obtain ⟨c, hlast, hc⟩ := h
  refine ⟨c, ?_, hc⟩
  rw [String.toList_append, List.getLast?_append, hlast, Option.some_or]

/-- A number ends in a digit. -/
theorem endsFirm_ofNat (n : Nat) : EndsFirm (Decimal.ofNat n) := by
  unfold EndsFirm Decimal.ofNat
  rw [String.toList_ofList]
  cases hlast : (Decimal.digits n).getLast? with
  | none => exact absurd (List.getLast?_eq_none_iff.1 hlast) (Decimal.digits_ne_nil n)
  | some c =>
    have hdigit := List.all_eq_true.1 (Decimal.all_isDigit_digits n) c
      (List.mem_of_getLast? hlast)
    exact ⟨c, rfl, isBlank_of_isDigit hdigit⟩

end Text

namespace Probe

open Text

theorem endsFirm_signal (signal : Nat) :
    EndsFirm ("signal: " ++ Decimal.ofNat signal ++ signalName signal) := by
  unfold signalName
  split
  · rename_i name _
    have hbracket : EndsFirm ")" := ⟨')', rfl, by decide⟩
    exact (hbracket.append _).append _
  · rw [String.append_empty]
    exact (endsFirm_ofNat signal).append _

/-- Every ending is described by a text that ends firmly, so trimming leaves it as it is. -/
theorem Ending.endsFirm_describe (e : Ending) : EndsFirm e.describe := by
  cases e with
  | exited code => exact (endsFirm_ofNat code).append _
  | killed signal => exact endsFirm_signal signal
  | dumped signal =>
    have hdumped : EndsFirm " (core dumped)" := ⟨')', rfl, by decide⟩
    exact hdumped.append _

theorem Ending.describe_ne_empty (e : Ending) : e.describe ≠ "" := by
  intro hempty
  obtain ⟨c, hlast, -⟩ := e.endsFirm_describe
  rw [hempty] at hlast
  exact nomatch hlast

/-- The words for an ending begin with a letter and end with a digit or a bracket. -/
theorem Ending.trimmed_describe (e : Ending) : Trimmed e.describe := by
  constructor
  · intro c hc
    have hletter : c = 'e' ∨ c = 's' := by
      cases e <;> simp [Ending.describe, String.toList_append] at hc <;> simp [← hc]
    rcases hletter with rfl | rfl <;> decide
  · intro c hc
    obtain ⟨d, hlast, hd⟩ := e.endsFirm_describe
    cases hlast.symm.trans hc
    exact hd

/-- The reason for the failure of a process. -/
structure Explains (f : Finished) (detail : String) : Prop where
  not_empty : detail ≠ ""
  trimmed : Text.Trimmed detail
  /-- What was printed as errors, if it is more than white space. -/
  printed : Text.trim (Text.Utf8.decodeLossy f.stderr) ≠ "" →
    detail = Text.trim (Text.Utf8.decodeLossy f.stderr)
  /-- It is what was meant, if this was a text. -/
  readable : ∀ text, Text.Utf8.toString? f.stderr = some text → Text.trim text ≠ "" →
    detail = Text.trim text
  /-- Otherwise, how the process ended. -/
  silent : Text.trim (Text.Utf8.decodeLossy f.stderr) = "" → detail = f.ending.describe

/-- The detail explains how the process has ended. -/
theorem Finished.explains_detail (f : Finished) : Explains f f.detail := by
  unfold Finished.detail
  dsimp only
  by_cases hsilent : trim (Utf8.decodeLossy f.stderr) = ""
  · rw [if_pos hsilent]
    refine ⟨f.ending.describe_ne_empty, f.ending.trimmed_describe, fun h => absurd hsilent h,
      fun text htext hne => ?_, fun _ => rfl⟩
    rw [Utf8.decodeLossy_of_toString? htext] at hsilent
    exact absurd hsilent hne
  · rw [if_neg hsilent]
    refine ⟨hsilent, trimmed_trim _, fun _ => rfl, fun text htext _ => ?_,
      fun h => absurd h hsilent⟩
    rw [Utf8.decodeLossy_of_toString? htext]

/-- What a probe says whose program comes to such an end, and which nobody cancels. -/
def leaving (settings : ProbeSettings) (f : Finished) (path : String) :
    Except ProbeError VideoInfo :=
  (attempt settings path (.finishes f) .never).result

/-- After a bad end nothing that was printed is read. -/
theorem leaving_of_failed {f : Finished} (hfailed : f.ending ≠ .exited 0) {path : String}
    (hpath : hasNul path = false) (settings : ProbeSettings) :
    leaving settings f path = .error (.failed f.detail) := by
  have hattempt : leaving settings f path = f.info := by
    unfold leaving attempt
    rw [if_neg (by decide), if_neg (by simp [hpath])]
  rw [hattempt]
  exact if_neg hfailed

end Probe

namespace Extraction

/-- The view of a completed job for which an error was recorded. -/
theorem view_of_error {done : Job} {args : InfoArgs} {message : String} (uuid : Uuid)
    (hargs : done.readArgs InfoArgs.arguments = .ok args) (hstate : done.state = .completed)
    (houtput : done.output = some (Outcome.error message).toJson.sorted) :
    ∃ view, InfoView.ofJob uuid done = .ok view ∧ view.status = .failed ∧ view.result = none ∧
      view.error = some message := by
  have houtcome : done.outcome = .ok (some (.error message)) :=
    Job.outcome_eq_some_iff.2 ⟨_, houtput, Outcome.ofJson_ok_iff.2 (Or.inl ⟨message, rfl, rfl⟩)⟩
  obtain ⟨view, hview, hprojects⟩ := ofJob_error uuid hargs houtcome hstate
  have hfailed : view.status = .failed :=
    hprojects.failed_iff.2 (Or.inr (Or.inr ⟨message, rfl⟩))
  exact ⟨view, hview, hfailed, hprojects.failed_tells hfailed, hprojects.recorded message rfl⟩

/-- **A failed process is a failed job with a reason**: the extraction is not repeated, and whoever
asks for the completed job is told why there is no result. -/
theorem failed_process_told (settings : ProbeSettings) (f : Probe.Finished) (job : Job)
    (args : InfoArgs) (hargs : job.readArgs InfoArgs.arguments = .ok args)
    (huri : args.webhookUri = none) (hpath : Probe.hasNul args.path = false)
    (hfailed : f.ending ≠ .exited 0) (s : Session) :
    ∃ output detail,
      (execute (Probe.leaving settings f) job).run s = (.ok (.success (some output)), s) ∧
      Probe.Explains f detail ∧
      ∀ (uuid : Uuid) (done : Job), done.kind = job.kind → done.args = job.args →
        done.state = .completed → done.output = some output →
        ∃ view, InfoView.ofJob uuid done = .ok view ∧ view.status = .failed ∧
          view.result = none ∧ view.error = some ("ffprobe failed: " ++ detail) := by
  have hprobe : outcome? (Probe.leaving settings f args.path) =
      some (.error ("ffprobe failed: " ++ f.detail)) := by
    rw [Probe.leaving_of_failed hfailed hpath settings]
    rfl
  refine ⟨_, f.detail, run_execute_untold hargs hprobe huri s, f.explains_detail, ?_⟩
  intro uuid done hkind hsame hstate houtput
  have hdone : done.readArgs InfoArgs.arguments = .ok args := by
    obtain ⟨hk, hdecode⟩ := Job.readArgs_ok_iff.1 hargs
    exact Job.readArgs_ok_iff.2 ⟨hkind.trans hk, hsame ▸ hdecode⟩
  exact view_of_error uuid hdone hstate houtput

/-- A process that printed a document, and then a word that is not UTF-8 as an error. -/
def broken : Probe.Finished where
  stdout := Text.Utf8.ofString "\x7b\x7d"
  stderr := [0x20, 0x6D, 0xFF, 0x76, 0x0A]
  ending := .exited 1

/-- The client is told what can be read of it. -/
theorem failed_process_told_broken :
    ∃ output,
      (execute (Probe.leaving {} broken) (claimed talk)).run
        { link := .up, script := [], now := ⟨0, 0⟩ } =
        (.ok (.success (some output)), { link := .up, script := [], now := ⟨0, 0⟩ }) ∧
      ∀ (uuid : Uuid) (done : Job), done.kind = .info → done.args = talk.toJson.sorted →
        done.state = .completed → done.output = some output →
        ∃ view, InfoView.ofJob uuid done = .ok view ∧ view.status = .failed ∧
          view.result = none ∧ view.error = some "ffprobe failed: m\uFFFDv" := by
  obtain ⟨output, detail, hrun, hdetail, hviews⟩ := failed_process_told {} broken (claimed talk)
    talk (InfoArgs.readArgs_of_stored rfl rfl) rfl (by decide) (by decide) _
  have hprinted : Text.trim (Text.Utf8.decodeLossy broken.stderr) = "m\uFFFDv" := by
    decide +kernel
  have hword : detail = "m\uFFFDv" :=
    (hdetail.printed (by rw [hprinted]; decide)).trans hprinted
  subst hword
  exact ⟨output, hrun, hviews⟩

/-- A process that prints nothing but white space is told by its end. -/
example : Probe.Finished.detail ⟨[], [0x20, 0x0A], .killed 9⟩ = "signal: 9 (SIGKILL)" := by
  decide +kernel

end Extraction

end VideoProbe
