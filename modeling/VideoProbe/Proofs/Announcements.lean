import VideoProbe.Proofs.Attempts

/-!
# What listeners are told

Of a claimed job listeners hear that it was started, and at most once how it ended (`Announced`,
read off the `Life` of the job).  Of the loop they hear that the worker was started before
everything else, and that it has stopped after everything else (`Framed`, kept by every turn).
-/

namespace VideoProbe.Worker

open VideoProbe.Database

/-- What listeners are told in an entry. -/
def Entry.told? : Entry → Option Event
  | .told _ e => some e
  | _ => none

/-- The events are what the history tells. -/
theorem State.events_eq (s : State) : s.events = s.history.filterMap Entry.told? :=
  congrArg (List.filterMap · s.history) (funext fun e => by cases e <;> rfl)

theorem Entry.mem_told_iff {h : List Entry} {e : Event} :
    e ∈ h.filterMap Entry.told? ↔ ∃ a, .told a e ∈ h := by
  rw [List.mem_filterMap]
  constructor
  · rintro ⟨x, hx, htold⟩
    cases x <;> simp_all [Entry.told?]
    exact ⟨_, hx⟩
  · rintro ⟨a, ha⟩
    exact ⟨_, ha, rfl⟩

/-- What listeners are told of a claimed job. -/
def toldOf (k : Nat) (h : List Entry) : List Event :=
  (about k h).filterMap Entry.told?

/-! ## Of a job -/

/-- The events with which an attempt at a job ends. -/
inductive Ends (job : Job) : Event → Prop
  | completed : Ends job (.jobCompleted job.id job.kind)
  | failed (message : String) (state : Job.State) :
      Ends job (.jobFailed job.id job.kind message state)

/-- A report tells how the attempt ended, if it tells anything. -/
theorem Reported.ends {job : Job} {result : HandlerResult} {xs : List Exchange} {e : Event}
    (h : Reported job result xs (some e)) : Ends job e := by
  cases result with
  | success output =>
    obtain ⟨rfl, -⟩ := (h.told e).1 rfl
    exact .completed
  | finalized =>
    cases h.2
    exact .completed
  | superseded => cases h.2
  | failed message =>
    obtain ⟨-, -, -, -, -, -, rfl⟩ := (h.told e).1 rfl
    exact .failed _ _
  | retry message =>
    obtain ⟨-, -, -, -, -, -, rfl⟩ := (h.told e).1 rfl
    exact .failed _ _

/-- What listeners have been told of a job that has come to a stage, or to its end. -/
def Announced (job : Job) : Option Stage → List Event → Prop
  | some .claimed, es => es = []
  | some .handling, es | some (.reporting _), es => es = [.jobStarted job.id job.kind]
  | none, es => es = [.jobStarted job.id job.kind] ∨
      ∃ e, Ends job e ∧ es = [.jobStarted job.id job.kind, e]

/-- An attempt announces its start and its end, and nothing else. -/
theorem Announced.mem {job : Job} {stage : Option Stage} {es : List Event} {e : Event}
    (h : Announced job stage es) (he : e ∈ es) : e = .jobStarted job.id job.kind ∨ Ends job e := by
  unfold Announced at h
  split at h
  · simp [h] at he
  · exact Or.inl (List.mem_singleton.1 (h ▸ he))
  · exact Or.inl (List.mem_singleton.1 (h ▸ he))
  · rcases h with rfl | ⟨e', hends, rfl⟩
    · exact Or.inl (List.mem_singleton.1 he)
    · rcases List.mem_cons.1 he with he | he
      · exact Or.inl he
      · exact Or.inr (List.mem_singleton.1 he ▸ hends)

/-- What is handed over for a job is not told to listeners. -/
theorem told_sent (author : Author) (xs : List Exchange) :
    (xs.map (Entry.sent author)).filterMap Entry.told? = [] := by
  rw [List.filterMap_eq_nil_iff]
  intro e he
  obtain ⟨x, -, rfl⟩ := List.mem_map.1 he
  rfl

/-- What the entries of an attempt tell, in the stage it has come to. -/
theorem Life.announced {k : Nat} {job : Job} {stage : Option Stage} {es : List Entry}
    (h : Life k job stage es) : Announced job stage (es.filterMap Entry.told?) := by
  induction h with
  | claimed => rfl
  | started _ ih =>
    rw [List.filterMap_append, show _ = [] from ih]
    rfl
  | handled _ xs result ih =>
    rw [List.filterMap_append, List.filterMap_append, told_sent, show _ = [_] from ih]
    rfl
  | panicked _ xs ih =>
    rw [List.filterMap_append, List.filterMap_append, told_sent, show _ = [_] from ih]
    exact Or.inl rfl
  | @reported _ _ xs event _ hr ih =>
    rw [List.filterMap_append, List.filterMap_append, told_sent, show _ = [_] from ih]
    cases event with
    | none => exact Or.inl rfl
    | some e => exact Or.inr ⟨e, hr.ends, rfl⟩

/-- The worker tells it for the job; the handler tells nothing. -/
theorem Life.teller {k : Nat} {job : Job} {stage : Option Stage} {es : List Entry} {a : Author}
    {e : Event} (h : Life k job stage es) (he : .told a e ∈ es) : a = .task k := by
  induction h with
  | claimed => simp at he
  | started _ ih =>
    simp only [List.mem_append, List.mem_singleton, Entry.told.injEq] at he
    exact he.elim ih And.left
  | handled _ _ _ ih => exact ih (by simpa using he)
  | panicked _ _ ih => exact ih (by simpa using he)
  | reported _ _ ih =>
    simp only [List.mem_append, List.mem_map, Entry.told.injEq, reduceCtorEq, and_false,
      exists_false, false_or] at he
    rcases he with he | ⟨-, -, rfl, -⟩
    · exact ih he
    · rfl

/-- Everything that listeners are told is told by the loop about the worker, or about a claimed
job. -/
theorem Sound.told {s : State} (h : Sound s) {a : Author} {e : Event} (he : .told a e ∈ s.history) :
    (a = .loop ∧ (e = .workerStarted ∨ e = .workerStopped ∨ ∃ n, e = .jobsRescued n)) ∨
      ∃ k job, a = .task k ∧ .claimed k job ∈ s.history ∧
        (e = .jobStarted job.id job.kind ∨ Ends job e) := by
  by_cases hloop : a = .loop
  · subst hloop
    exact Or.inl ⟨rfl, h.orderly.modest _ he⟩
  · obtain ⟨k, hk⟩ : ∃ k, (Entry.told a e).ticket? = some k := by
      cases a with
      | loop => exact absurd rfl hloop
      | task k => exact ⟨k, rfl⟩
      | handler k => exact ⟨k, rfl⟩
    obtain ⟨job, hstanding, honce⟩ := h.standing (h.orderly.bounded _ he k hk)
    obtain ⟨stage, hlife⟩ := hstanding.life
    have hmem : .told a e ∈ about k s.history := List.mem_filter.2 ⟨he, by simp [hk]⟩
    exact Or.inr ⟨k, job, hlife.teller hmem, (honce job).2 rfl,
      hlife.announced.mem (Entry.mem_told_iff.2 ⟨a, hmem⟩)⟩

/-! ## Of the worker -/

/-- The loop tells that the worker was started or has stopped. -/
def Entry.Frames (e : Entry) : Prop :=
  e = .told .loop .workerStarted ∨ e = .told .loop .workerStopped

/-- What belongs to an attempt frames no run. -/
theorem Entry.not_frames_of_ticket {e : Entry} {k : Nat} (h : e.ticket? = some k) : ¬ e.Frames := by
  rintro (rfl | rfl) <;> simp [Entry.ticket?] at h

/-- The loop has begun and has not stopped. -/
def Phase.Running : Phase → Prop
  | .fresh | .stopped => False
  | .ready | .claiming _ _ | .waiting | .draining | .crashed => True

/-- Listeners have been told that the worker was started, and not that it has stopped. -/
def Opened (h : List Entry) : Prop :=
  ∃ es, h = .told .loop .workerStarted :: es ∧ ∀ e ∈ es, ¬ e.Frames

/-- An opened history stays opened, whatever goes on within the frame. -/
theorem Opened.append {h es : List Entry} (ho : Opened h) (hes : ∀ e ∈ es, ¬ e.Frames) :
    Opened (h ++ es) := by
  obtain ⟨es', rfl, hes'⟩ := ho
  refine ⟨es' ++ es, rfl, fun e he => ?_⟩
  exact (List.mem_append.1 he).elim (hes' e) (hes e)

/-- In an opened history there is no stop. -/
theorem Opened.stop_not_mem {h : List Entry} (ho : Opened h) :
    Entry.told .loop .workerStopped ∉ h := by
  obtain ⟨es, rfl, hes⟩ := ho
  simpa using fun hmem => hes _ hmem (Or.inr rfl)

/-- What listeners have been told of the worker itself. -/
structure Framed (s : State) : Prop where
  fresh : s.phase = .fresh → s.history = []
  running : s.phase.Running → Opened s.history
  stopped : s.phase = .stopped →
    ∃ pre, s.history = pre ++ [.told .loop .workerStopped] ∧ Opened pre

/-- A fresh worker has said nothing. -/
theorem framed_fresh (w : World) : Framed (State.fresh w) :=
  ⟨fun _ => rfl, False.elim, fun h => nomatch h⟩

section Frames

variable {s s' : State} {settings : WorkerSettings} {hs : Handlers} {es : List Entry}
  {tasks : List Task} {claims : Nat} {phase : Phase}

/-- The loop goes on, and says nothing of the worker. -/
theorem Framed.goOn (h : Framed s) (hphase : s.phase.Running) (hl : Leads s s' es tasks claims phase)
    (hes : ∀ e ∈ es, ¬ e.Frames) (hafter : phase.Running) : Framed s' := by
  have hopened : Opened s'.history := hl.history ▸ (h.running hphase).append hes
  have hrunning : s'.phase.Running := hl.phase ▸ hafter
  refine ⟨fun hf => ?_, fun _ => hopened, fun hf => ?_⟩
  · rw [hf] at hrunning
    exact hrunning.elim
  · rw [hf] at hrunning
    exact hrunning.elim

theorem running_afterBatch (claimed : Nat) : (afterBatch claimed).Running := by
  unfold afterBatch
  split <;> trivial

/-- Where something is in hand, the loop has begun and has not stopped. -/
theorem Sound.running_of_mem (h : Sound s) {t : Task} (ht : t ∈ s.tasks) : s.phase.Running := by
  have hb := h.batched
  unfold Batched at hb
  cases hphase : s.phase with
  | fresh | stopped =>
    rw [hphase] at hb
    exact absurd hb (List.ne_nil_of_mem ht)
  | ready | claiming _ _ | waiting | draining | crashed => trivial

/-- **A turn** of an enabled worker keeps what it says of itself in order. -/
theorem framed_turn (hsound : Sound s) (henabled : settings.enabled = true) (h : Framed s)
    (ht : Turn settings hs s s') : Framed s' := by
  -- Only `starts` and `halts` say something that frames a run; all others go on within it.
  cases ht with
  | waits heq => exact heq ▸ h
  | asked heq => exact heq ▸ ⟨h.fresh, h.running, h.stopped⟩
  | @works pre post t es stage hbefore hm hl =>
    have ht : t ∈ s.tasks := by simp [hbefore]
    have hrunning := hsound.running_of_mem ht
    exact h.goOn hrunning hl (fun e he => Entry.not_frames_of_ticket (hm.belongs e he).1) hrunning
  | starts hphase _ hl =>
    have hopened : Opened s'.history := ⟨[], by simp [hl.history, h.fresh hphase], by simp⟩
    exact ⟨by simp [hl.phase], fun _ => hopened, by simp [hl.phase]⟩
  | declines _ hdisabled _ => simp [henabled] at hdisabled
  | halts hphase _ hl =>
    have hopened : Opened s.history :=
      h.running (by rcases hphase with hp | hp <;> simp [hp, Phase.Running])
    exact ⟨by simp [hl.phase], by simp [hl.phase, Phase.Running],
      fun _ => ⟨s.history, hl.history, hopened⟩⟩
  | opens hphase _ hes hl =>
    refine h.goOn (hphase ▸ trivial) hl (fun e he => ?_) trivial
    rcases hes e he with ⟨x, -, -, rfl, -⟩ | ⟨n, rfl⟩ <;> simp [Entry.Frames]
  | closes hphase _ hl => exact h.goOn (hphase ▸ trivial) hl (by simp) (running_afterBatch _)
  | misses hphase _ _ hl =>
    exact h.goOn (hphase ▸ trivial) hl (by simp [Entry.Frames]) (running_afterBatch _)
  | claims hphase _ _ hl => exact h.goOn (hphase ▸ trivial) hl (by simp [Entry.Frames]) trivial
  | resumes hphase hl =>
    refine h.goOn ?_ hl (by simp) trivial
    rcases hphase with hp | ⟨hp, -⟩ <;> simp [hp, Phase.Running]
  | overflows hphase _ hl => exact h.goOn (hphase ▸ trivial) hl (by simp) trivial
  | breaks hphase _ _ _ hl => exact h.goOn (hphase ▸ trivial) hl (by simp [Entry.Frames]) trivial

/-- **Every run** of it does, by induction on what happens. -/
theorem framed_run (hsound : Sound s) (henabled : settings.enabled = true) (h : Framed s)
    (hs : Handlers) (choices : List Choice) : Framed (run settings hs choices s) := by
  induction choices generalizing s with
  | nil => exact h
  | cons c choices ih =>
    exact ih (sound_step hsound settings hs c)
      (framed_turn hsound henabled h (turn_of_step hsound.quiet settings hs c))

/-- Where the stop is told, it is the last entry. -/
theorem Framed.stop_last (h : Framed s) {pre post : List Entry}
    (hhistory : s.history = pre ++ .told .loop .workerStopped :: post) :
    s.phase = .stopped ∧ post = [] := by
  have hmem : Entry.told .loop .workerStopped ∈ s.history := by simp [hhistory]
  have hstopped : s.phase = .stopped := by
    cases hphase : s.phase with
    | fresh => simp [h.fresh hphase] at hmem
    | stopped => rfl
    | ready | claiming _ _ | waiting | draining | crashed =>
      exact absurd hmem (h.running (hphase ▸ trivial)).stop_not_mem
  obtain ⟨pre', hhistory', hpre'⟩ := h.stopped hstopped
  have hnot := hpre'.stop_not_mem
  refine ⟨hstopped, ?_⟩
  rw [hhistory] at hhistory'
  -- The history is split twice at a stop, and before the last one there is none.
  rcases List.append_eq_append_iff.1 hhistory' with ⟨mid, rfl, hmid⟩ | ⟨mid, rfl, hmid⟩
  · cases mid with
    | nil => exact (List.cons.inj hmid).2
    | cons e mid =>
      obtain ⟨rfl, -⟩ := List.cons.inj hmid
      simp at hnot
  · cases mid with
    | nil => exact (List.cons.inj hmid).2.symm
    | cons e mid => simp at hmid

/-! ## The stream of events -/

/-- The worker was started, and has not stopped. -/
def Underway (es : List Event) : Prop :=
  ∃ rest, es = .workerStarted :: rest ∧ .workerStarted ∉ rest ∧ .workerStopped ∉ rest

/-- The events of a worker that is in a phase: they begin with the start and end with the stop. -/
def Streamed : Phase → List Event → Prop
  | .fresh, es => es = []
  | .stopped, es => ∃ pre, es = pre ++ [.workerStopped] ∧ Underway pre
  | .ready, es | .claiming _ _, es | .waiting, es | .draining, es | .crashed, es => Underway es

/-- Nobody but the loop tells of the worker. -/
theorem Sound.underway (h : Sound s) {pre post : List Entry} (hhistory : s.history = pre ++ post)
    (hpre : Opened pre) : Underway (pre.filterMap Entry.told?) := by
  obtain ⟨es, rfl, hes⟩ := hpre
  have honly : ∀ e, e = .workerStarted ∨ e = .workerStopped → e ∉ es.filterMap Entry.told? := by
    intro e he hmem
    obtain ⟨a, ha⟩ := Entry.mem_told_iff.1 hmem
    rcases h.told (a := a) (e := e) (by simp [hhistory, ha]) with ⟨rfl, -⟩ | ⟨k, job, -, -, hjob⟩
    · exact hes _ ha (by rcases he with rfl | rfl <;> simp [Entry.Frames])
    · rcases hjob with rfl | ⟨⟩ | ⟨⟩ <;> simp at he
  exact ⟨_, rfl, honly _ (Or.inl rfl), honly _ (Or.inr rfl)⟩

/-- The events of a worker are in order, as its entries are. -/
theorem Sound.streamed (h : Sound s) (hframed : Framed s) : Streamed s.phase s.events := by
  rw [s.events_eq]
  have hrunning : s.phase.Running → Underway (s.history.filterMap Entry.told?) := fun hphase =>
    h.underway (List.append_nil _).symm (hframed.running hphase)
  cases hphase : s.phase with
  | fresh =>
    rw [hframed.fresh hphase]
    rfl
  | stopped =>
    obtain ⟨pre, hhistory, hpre⟩ := hframed.stopped hphase
    refine ⟨pre.filterMap Entry.told?, ?_, h.underway hhistory hpre⟩
    rw [hhistory, List.filterMap_append]
    rfl
  | ready | claiming _ _ | waiting | draining | crashed => exact hrunning (hphase ▸ trivial)

end Frames

end VideoProbe.Worker
