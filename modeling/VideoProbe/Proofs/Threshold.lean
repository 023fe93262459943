import VideoProbe.Proofs.Batches

/-!
# The threshold for stuck jobs

A worker takes jobs back that have been running for longer than a threshold, and any number of
seconds of sixty-four bits may be set for it.  The point in time that lies so far back is found in
two steps, and each has a limit of its own: a threshold that is no span of milliseconds is an error,
which the worker passes over; one that is, and goes back beyond the first day of the calendar, is a
crash of the loop.  The second limit is the smaller one, so between the two lie the thresholds that
kill a worker (`OffCalendar`).
-/

namespace VideoProbe

/-! ## Points in time as numbers -/

namespace Instant

/-- The nanoseconds since the start of 1970. -/
def total (t : Instant) : Int :=
  t.seconds * 1000000000 + t.nanos

/-- The calendar has a day for a number of nanoseconds since the start of 1970. -/
def InCalendar (n : Int) : Prop :=
  firstSecond * 1000000000 ≤ n ∧ n < (lastSecond + 1) * 1000000000

/-- Adding to a time adds to its nanoseconds, and there are never too many of them beside the
seconds. -/
theorem total_addNanos (t : Instant) (n : Int) :
    (t.addNanos n).total = t.total + n ∧ (t.addNanos n).nanos < 1000000000 := by
  unfold addNanos total
  dsimp only
  rw [Int.fdiv_eq_ediv_of_nonneg _ (by decide), Int.fmod_eq_emod_of_nonneg _ (by decide)]
  omega

theorem total_addSeconds (t : Instant) (n : Int) :
    (t.addSeconds n).total = t.total + n * 1000000000 := by
  unfold addSeconds total
  dsimp only
  omega

/-- The calendar covers the times between two ends. -/
theorem isCovered_iff {t : Instant} (h : t.nanos < 1000000000) :
    t.isCovered = true ↔ InCalendar t.total := by
  unfold isCovered InCalendar total
  rw [Bool.and_eq_true, decide_eq_true_eq, decide_eq_true_eq]
  generalize firstSecond = first, lastSecond = last
  omega

end Instant

/-! ## Looking for stuck jobs -/

namespace Queue

open Database

/-- A point in time of the calendar that lies exactly so many milliseconds before another one. -/
structure LiesBack (start : Instant) (span : Nat) (before : Instant) : Prop where
  total : before.total = start.total - (span * 1000000 : Nat)
  regular : before.nanos < 1000000000
  inCalendar : Instant.InCalendar before.total

/-- A time that is a span of milliseconds goes back beyond the calendar. -/
def OffCalendar (start : Instant) (span : Nat) : Prop :=
  span ≤ longestSpan ∧ ¬ Instant.InCalendar (start.total - (span * 1000000 : Nat))

/-- What a threshold comes to: a point in time, or an error, or a crash. -/
theorem cutoff_cases (start : Instant) (span : Nat) :
    (span ≤ longestSpan ∧ ∃ before, LiesBack start span before ∧ cutoff start span = .ok before) ∨
      (longestSpan < span ∧ cutoff start span = .error (.error (.internal
        "Source duration value is out of range for the target type"))) ∨
      (OffCalendar start span ∧ cutoff start span = .error .crash) := by
  unfold cutoff
  by_cases hlong : longestSpan < span
  · rw [if_pos hlong]
    exact Or.inr (Or.inl ⟨hlong, rfl⟩)
  · rw [if_neg hlong]
    have hspan : span ≤ longestSpan := Nat.le_of_not_lt hlong
    obtain ⟨htotal, hnanos⟩ := start.total_addNanos (-(span * 1000000 : Nat))
    have hcovered := Instant.isCovered_iff hnanos
    generalize start.addNanos (-(span * 1000000 : Nat)) = before at htotal hnanos hcovered
    dsimp only
    by_cases hin : before.isCovered = true
    · rw [if_pos hin]
      exact Or.inl ⟨hspan, before, ⟨htotal, hnanos, hcovered.1 hin⟩, rfl⟩
    · rw [if_neg hin]
      rw [hcovered, htotal] at hin
      exact Or.inr (Or.inr ⟨⟨hspan, hin⟩, rfl⟩)

/-- **Looking back crashes** exactly where the threshold is off the calendar. -/
theorem cutoff_eq_crash_iff {start : Instant} {span : Nat} :
    cutoff start span = .error .crash ↔ OffCalendar start span := by
  rcases cutoff_cases start span with ⟨-, before, hback, h⟩ | ⟨hlong, h⟩ | ⟨hoff, h⟩
  · have hin : ¬ OffCalendar start span := fun hoff => hoff.2 (hback.total ▸ hback.inCalendar)
    simp [h, hin]
  · have hin : ¬ OffCalendar start span := fun hoff => absurd hoff.1 (Nat.not_le.2 hlong)
    simp [h, hin]
  · simp [h, hoff]

/-- What comes of looking for stuck jobs, and what is handed over for it. -/
inductive Rescues (span : Nat) (s : Session) : Except Failure Nat → List Exchange → Prop
  /-- One statement is sent, and its cutoff is the point in time that lies so far back. -/
  | sent (f : Fate) {before : Instant} (hspan : span ≤ longestSpan)
      (hback : LiesBack s.now span before) :
      Rescues span s (f.result.map Answer.affected) [⟨.rescueJobs s.now before, f⟩]
  /-- The threshold is no span of milliseconds: nothing is sent. -/
  | refused (hlong : longestSpan < span) :
      Rescues span s (.error (.error (.internal
        "Source duration value is out of range for the target type"))) []
  | crashed (hoff : OffCalendar s.now span) : Rescues span s (.error .crash) []

/-- **Looking for stuck jobs**, under any threshold. -/
theorem run_rescue (s : Session) (span : Nat) :
    ∃ r xs s', (rescue span).run s = (r, s') ∧ s'.log = s.log ++ xs ∧ Rescues span s r xs := by
  rcases cutoff_cases s.now span with ⟨hspan, before, hback, h⟩ | ⟨hlong, h⟩ | ⟨hoff, h⟩
  · have hnow : now.run s = (.ok s.now, s) := rfl
    obtain ⟨f, s', ht, -⟩ := talks_execute s (.rescueJobs s.now before)
    have hsent : Rescues span s (f.result.map Answer.affected) [⟨.rescueJobs s.now before, f⟩] :=
      .sent f hspan hback
    simp only [rescue, run_bind, hnow, h, run_pure, ht.run]
    cases hr : f.result.map Answer.affected with
    | error e => exact ⟨_, _, s', rfl, ht.log, hr ▸ hsent⟩
    | ok count =>
      rw [hr] at hsent
      dsimp only
      by_cases hpositive : 0 < count
      · rw [if_pos hpositive]
        exact ⟨_, _, { s' with woke := true }, rfl, ht.log, hsent⟩
      · rw [if_neg hpositive]
        exact ⟨_, _, s', rfl, ht.log, hsent⟩
  · exact ⟨_, [], s, run_rescue_of_error h, (List.append_nil _).symm, .refused hlong⟩
  · exact ⟨_, [], s, run_rescue_of_error h, (List.append_nil _).symm, .crashed hoff⟩

/-- In seconds, and for the time since 1970 in nanoseconds: these thresholds are spans of time and
go back beyond the calendar. -/
theorem offCalendar_seconds_iff {start : Instant} (h : Instant.InCalendar start.total) (n : Nat) :
    OffCalendar start (n * 1000) ↔
      start.total + 8334601228800 * 1000000000 < n * 1000000000 ∧ n ≤ 9223372036854775 := by
  have hlongest : longestSpan = 9223372036854775807 := by decide +kernel
  unfold Instant.InCalendar at h
  unfold OffCalendar Instant.InCalendar
  rw [hlongest]
  rw [Instant.firstSecond_eq] at h ⊢
  omega

end Queue

/-! ## The setting -/

/-- The threshold in seconds: what is set, if it is a positive number of sixty-four bits, and an
hour otherwise. -/
def WorkerSettings.stuckAfter (env : Environment) : Nat :=
  (env.seconds? "VI_WORKER_RESCUE_AFTER_SECS").getD 3600

/-- The threshold of a worker is the one that is set, in milliseconds. -/
theorem WorkerSettings.rescueAfter_eq (env : Environment) :
    (ofEnvironment env).rescueAfter = stuckAfter env * 1000 := by
  unfold ofEnvironment stuckAfter
  cases env.seconds? "VI_WORKER_RESCUE_AFTER_SECS" <;> rfl

namespace Worker

open Database

/-! ## The step of the loop -/

section Step

variable {s : State} {settings : WorkerSettings} {hs : Handlers}

/-- A threshold that goes back beyond the calendar: the loop crashes, and the jobs in hand are lost
with it. -/
theorem stepLoop_of_offCalendar (hs : Handlers) (hquiet : s.world.session.log = []) {due : Bool}
    (hphase : s.phase = .ready) (hstopping : s.stopping = false)
    (hdue : due = true ∨ s.rescued = false)
    (hoff : Queue.OffCalendar s.world.session.now settings.rescueAfter) :
    (s.stepLoop settings hs due).phase = .crashed ∧ (s.stepLoop settings hs due).tasks = [] ∧
      (s.stepLoop settings hs due).history = s.history := by
  have hrun := Queue.run_rescue_of_error (Queue.cutoff_eq_crash_iff.2 hoff)
  obtain ⟨s1, hperform, hl⟩ := leads_of_perform hquiet .loop hrun (List.append_nil _).symm
  have hrescue : s.rescue settings = .error s1 := by
    unfold State.rescue
    rw [hperform]
  -- It looks for stuck jobs now: the time has come, or it has never looked.
  have hlook : (due || !s.rescued) = true := by
    rcases hdue with rfl | h
    · rfl
    · simp [h]
  have hstep : s.stepLoop settings hs due = s1.crash := by
    unfold State.stepLoop
    simp only [hphase, hstopping, hlook, hrescue]
    rfl
  rw [hstep]
  refine ⟨rfl, rfl, ?_⟩
  simpa [State.crash] using hl.history

/-- Under any other threshold it opens a batch: an error is passed over. -/
theorem stepLoop_of_onCalendar (hquiet : s.world.session.log = []) (due : Bool)
    (hphase : s.phase = .ready) (hstopping : s.stopping = false)
    (hoff : ¬ Queue.OffCalendar s.world.session.now settings.rescueAfter) :
    (s.stepLoop settings hs due).phase = .claiming settings.maxConcurrent 0 := by
  unfold State.stepLoop
  rw [hphase]
  dsimp only
  rw [if_neg (by simp [hstopping])]
  split
  · rcases rescue_cases hquiet settings with ⟨s1, es, hrescue, -, -⟩ | ⟨s1, -, -, hcutoff⟩
    · rw [hrescue]
    · exact absurd (Queue.cutoff_eq_crash_iff.1 hcutoff) hoff
  · rfl

/-- A crashed worker does nothing any more. -/
theorem run_of_crashed (hphase : s.phase = .crashed) (htasks : s.tasks = [])
    (choices : List Choice) : (run settings hs choices s).phase = .crashed ∧
      (run settings hs choices s).history = s.history := by
  induction choices generalizing s with
  | nil => exact ⟨hphase, rfl⟩
  | cons c choices ih =>
    have hstep : step settings hs c s = s ∨ step settings hs c s = { s with stopping := true } := by
      cases c with
      | loop due =>
        refine Or.inl ?_
        simp only [step, State.stepLoop, hphase]
      | task i =>
        refine Or.inl ?_
        simp [step, State.stepTask, htasks]
      | stop => exact Or.inr rfl
    rw [show run settings hs (c :: choices) s = run settings hs choices (step settings hs c s) from rfl]
    rcases hstep with h | h
    · rw [h]
      exact ih hphase htasks
    · rw [h]
      exact ih (s := { s with stopping := true }) hphase htasks

end Step

/-! ## Runs -/

/-- What the threshold of a worker makes of the worker, in a run. -/
structure Governed (settings : WorkerSettings) (hs : Handlers) (w : World) (choices : List Choice) :
    Prop where
  /-- What it does when it looks for stuck jobs. -/
  rescues : ∀ s : Session, ∃ r xs s', (Queue.rescue settings.rescueAfter).run s = (r, s') ∧
    s'.log = s.log ++ xs ∧ Queue.Rescues settings.rescueAfter s r xs
  /-- It goes on to claim jobs, unless the threshold goes back beyond the calendar. -/
  passes : ∀ s due, s = run settings hs choices (State.fresh w) → s.phase = .ready →
    s.stopping = false → ¬ Queue.OffCalendar s.world.session.now settings.rescueAfter →
    (s.stepLoop settings hs due).phase = .claiming settings.maxConcurrent 0
  /-- If it does, the loop crashes: nothing is sent or told from then on, not even that the worker
  has stopped. -/
  perishes : ∀ s due later, s = run settings hs choices (State.fresh w) → s.phase = .ready →
    s.stopping = false → (due = true ∨ s.rescued = false) → settings.enabled = true →
    Queue.OffCalendar s.world.session.now settings.rescueAfter →
    (run settings hs (.loop due :: later) s).phase = .crashed ∧
      (run settings hs (.loop due :: later) s).history = s.history ∧
      .workerStopped ∉ (run settings hs (.loop due :: later) s).events
  /-- If it never does, and the rows of the database have the columns of its schema, the loop does not
  crash: the events begin with the start, and where the worker has stopped they end with that. -/
  survives : settings.enabled = true →
    (∀ row ∈ (run settings hs choices (State.fresh w)).history.filterMap Entry.claimRow?,
      Complete row) →
    (∀ pre, pre <+: choices → ¬ Queue.OffCalendar
      (run settings hs pre (State.fresh w)).world.session.now settings.rescueAfter) →
    (run settings hs choices (State.fresh w)).phase ≠ .crashed ∧
      Streamed (run settings hs choices (State.fresh w)).phase
        (run settings hs choices (State.fresh w)).events

section Run

variable {s : State} {settings : WorkerSettings} {hs : Handlers}

/-- Without an entry there is no event. -/
theorem State.events_congr {s s' : State} (h : s'.history = s.history) : s'.events = s.events := by
  unfold State.events
  rw [h]

/-- Where the worker has not stopped, nobody has been told that it has. -/
theorem Streamed.not_stopped {phase : Phase} {es : List Event} (h : Streamed phase es)
    (hphase : phase = .ready) : .workerStopped ∉ es := by
  subst hphase
  obtain ⟨rest, rfl, -, hstopped⟩ := h
  simpa using hstopped

/-- **A worker under its threshold**, whatever its settings are. -/
theorem governed (settings : WorkerSettings) (hs : Handlers) (w : World) (choices : List Choice) :
    Governed settings hs w choices := by
  have hsound := sound_run (sound_fresh w) settings hs choices
  refine ⟨fun s => Queue.run_rescue s _, ?passes, ?perishes, ?survives⟩
  case passes =>
    rintro s due rfl hphase hstopping hoff
    exact stepLoop_of_onCalendar hsound.quiet due hphase hstopping hoff
  -- Nothing more is logged after the crash, so the stop that is missing is never told.
  case perishes =>
    rintro s due later rfl hphase hstopping hdue henabled hoff
    have hframed := framed_run (sound_fresh w) henabled (framed_fresh w) hs choices
    have hstreamed := hsound.streamed hframed
    generalize run settings hs choices (State.fresh w) = s at *
    obtain ⟨hcrashed, htasks, hsame⟩ :=
      stepLoop_of_offCalendar hs hsound.quiet hphase hstopping hdue hoff
    obtain ⟨hphase', hhistory⟩ := run_of_crashed hcrashed htasks later
    have hhistory' : (run settings hs (.loop due :: later) s).history = s.history :=
      hhistory.trans hsame
    refine ⟨hphase', hhistory', ?_⟩
    rw [State.events_congr hhistory']
    exact hstreamed.not_stopped hphase
  case survives =>
    intro henabled hrows hclock
    have hregular : Regular settings hs choices w :=
      ⟨hrows, fun pre hpre hcrash => hclock pre hpre (Queue.cutoff_eq_crash_iff.1 hcrash)⟩
    have hframed := framed_run (sound_fresh w) henabled (framed_fresh w) hs choices
    exact ⟨(paced_run henabled hregular).alive, hsound.streamed hframed⟩

end Run

/-- **The threshold that is set for a worker**: its value, at which times it goes back beyond the
calendar, and that this and nothing else about it kills the worker. -/
theorem rescueAfter_governs (env : Environment) (hs : Handlers) (w : World)
    (choices : List Choice) :
    (WorkerSettings.ofEnvironment env).rescueAfter = WorkerSettings.stuckAfter env * 1000 ∧
      (∀ start : Instant, Instant.InCalendar start.total →
        (Queue.OffCalendar start (WorkerSettings.ofEnvironment env).rescueAfter ↔
          start.total + 8334601228800 * 1000000000 < WorkerSettings.stuckAfter env * 1000000000 ∧
            WorkerSettings.stuckAfter env ≤ 9223372036854775)) ∧
      Governed (.ofEnvironment env) hs w choices := by
  have hsetting := WorkerSettings.rescueAfter_eq env
  refine ⟨hsetting, fun start hstart => ?_, governed _ hs w choices⟩
  rw [hsetting]
  exact Queue.offCalendar_seconds_iff hstart _

/-- A threshold of some hundred million years. -/
def remote : Environment :=
  .ofList [("VI_WORKER_RESCUE_AFTER_SECS", "9000000000000000")]

/-- A worker for which it is set is started, and asked to stop later on. -/
def underRemote : State :=
  run (.ofEnvironment remote) promptly [.loop true, .loop true, .loop true, .stop, .loop true]
    (State.fresh oneJob)

/-- The threshold is a span of milliseconds, and the worker is dead before it has claimed the job
that waits: nobody is told that it has stopped. -/
theorem crashed_under_remote :
    (WorkerSettings.ofEnvironment remote).rescueAfter ≤ Queue.longestSpan ∧
      underRemote.phase = .crashed ∧ underRemote.events = [.workerStarted] ∧
      underRemote.statements = [] :=
  ⟨by decide +kernel, rfl, rfl, rfl⟩

end Worker

end VideoProbe
