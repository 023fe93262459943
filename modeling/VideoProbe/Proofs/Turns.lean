import VideoProbe.Proofs.Basic
import VideoProbe.Proofs.Recording

/-!
# What a step of a worker does

A step is a turn of the loop, a turn of one claimed job, or a request to stop.  `Turn` lists all
that may come of it: which entries the history gets, which jobs are in hand afterwards, and where
the loop is; `turn_of_step` is that nothing else happens.  This is the only place where the steps
are opened: what holds of every run is proved from the list, one case for each line of it.
-/

namespace VideoProbe.Worker

open VideoProbe.Database

/-! ## Entries -/

/-- The claimed job that an entry is about. -/
def Entry.ticket? : Entry → Option Nat
  | .sent (.task k) _ | .sent (.handler k) _ | .told (.task k) _ | .told (.handler k) _ => some k
  | .claimed k _ | .handled k _ | .panicked k => some k
  | .sent .loop _ | .told .loop _ => none

/-- The job that the loop's claim gives, in the row that the database answers with. -/
def Entry.granted? : Entry → Option Job
  | .sent .loop ⟨.claimJob _ _, f⟩ => f.row?.bind fun row => (jobOfRow row).toOption
  | _ => none

/-- The job that is claimed. -/
def Entry.claimed? : Entry → Option Job
  | .claimed _ job => some job
  | _ => none

/-- A claim of the loop. -/
def Entry.isClaim : Entry → Bool
  | .sent .loop ⟨.claimJob _ _, _⟩ => true
  | _ => false

/-- Claims are sent by the loop. -/
theorem Entry.sent_of_isClaim {e : Entry} (h : e.isClaim = true) : ∃ x, e = .sent .loop x := by
  unfold Entry.isClaim at h
  split at h
  · exact ⟨_, rfl⟩
  · simp at h

/-- What belongs to an attempt is no claim. -/
theorem Entry.isClaim_of_ticket {e : Entry} {k : Nat} (h : e.ticket? = some k) :
    e.isClaim = false := by
  unfold Entry.ticket? at h
  split at h <;> simp_all [Entry.isClaim]

/-- The exchange is a claim for the kinds that have a handler, of which there are some. -/
structure ClaimsFor (hs : Handlers) (x : Exchange) : Prop where
  registered : hs.kinds ≠ []
  statement : ∃ t, x.statement = .claimJob t hs.kinds

theorem ClaimsFor.isClaim {hs : Handlers} {x : Exchange} (h : ClaimsFor hs x) :
    (Entry.sent .loop x).isClaim = true := by
  obtain ⟨t, ht⟩ := h.statement
  obtain ⟨st, f⟩ := x
  cases ht
  rfl

/-- An entry of the loop about stuck jobs. -/
def Entry.Rescues (e : Entry) : Prop :=
  (∃ x t t', e = .sent .loop x ∧ x.statement = .rescueJobs t t') ∨
    ∃ n, e = .told .loop (.jobsRescued n)

theorem Entry.Rescues.isClaim {e : Entry} (h : e.Rescues) : e.isClaim = false := by
  rcases h with ⟨⟨st, f⟩, t, t', rfl, hst⟩ | ⟨n, rfl⟩
  · cases hst
    rfl
  · rfl

/-- What a claim gives is what the loop is granted. -/
theorem granted_claim (f : Fate) (t : Instant) (kinds : List Job.Kind) :
    (Entry.sent .loop ⟨.claimJob t kinds, f⟩).granted? =
      ((f.result.map fun a => a.rows.head?).bind Queue.claimOfRow).toOption.join := by
  rcases f.answer_cases with ⟨a, rfl⟩ | ⟨e, he, hf⟩
  · show a.rows.head?.bind (fun row => (jobOfRow row).toOption) =
      (Queue.claimOfRow a.rows.head?).toOption.join
    cases a.rows.head? with
    | none => rfl
    | some row =>
      simp only [Option.bind_some, Queue.claimOfRow]
      cases jobOfRow row <;> rfl
  · have hrow : f.row? = none := by cases f <;> simp_all [Fate.row?, Fate.isAnswered]
    simp [Entry.granted?, hrow, Fate.result_of_error he, Except.map, Except.bind, Except.toOption]

/-! ## Turns -/

/-- What is in hand once an attempt has come to a stage, or to its end. -/
def moved (pre : List Task) (t : Task) (stage : Option Stage) (post : List Task) : List Task :=
  pre ++ (stage.toList.map (fun stage => { t with stage }) ++ post)

/-- In hand after a move: the others, and the one that was moved if it has another stage. -/
theorem mem_moved {pre post : List Task} {t t' : Task} {stage : Option Stage} :
    t' ∈ moved pre t stage post ↔
      t' ∈ pre ++ post ∨ ∃ st, stage = some st ∧ t' = { t with stage := st } := by
  cases stage with
  | none => simp [moved]
  | some st => simp [moved, or_comm, or_assoc]

/-- A move takes nothing in hand. -/
theorem length_moved_le (pre : List Task) (t : Task) (stage : Option Stage) (post : List Task) :
    (moved pre t stage post).length ≤ (pre ++ t :: post).length := by
  cases stage <;> simp [moved]

/-- With some entries a claimed job comes from its stage to another one, or to its end. -/
inductive Moves (t : Task) : List Entry → Option Stage → Prop
  | starts (hstage : t.stage = .claimed) :
      Moves t [.told (.task t.ticket) (.jobStarted t.job.id t.job.kind)] (some .handling)
  | handled (hstage : t.stage = .handling) (xs : List Exchange) (result : HandlerResult) :
      Moves t (xs.map (.sent (.handler t.ticket)) ++ [.handled t.ticket result])
        (some (.reporting result))
  | panicked (hstage : t.stage = .handling) (xs : List Exchange) :
      Moves t (xs.map (.sent (.handler t.ticket)) ++ [.panicked t.ticket]) none
  | reported {result : HandlerResult} {xs : List Exchange} {event : Option Event}
      (hstage : t.stage = .reporting result) (hr : Reported t.job result xs event) :
      Moves t (xs.map (.sent (.task t.ticket)) ++ event.toList.map (.told (.task t.ticket))) none

/-- The entries are about the job, and none of them claims it. -/
theorem Moves.belongs {t : Task} {es : List Entry} {stage : Option Stage} (h : Moves t es stage) :
    ∀ e ∈ es, e.ticket? = some t.ticket ∧ e.claimed? = none := by
  intro e he
  cases h with
  | starts =>
    rw [List.mem_singleton.1 he]
    exact ⟨rfl, rfl⟩
  | handled | panicked =>
    simp only [List.mem_append, List.mem_map, List.mem_singleton] at he
    rcases he with ⟨x, -, rfl⟩ | rfl <;> exact ⟨rfl, rfl⟩
  | reported =>
    simp only [List.mem_append, List.mem_map] at he
    rcases he with ⟨x, -, rfl⟩ | ⟨x, -, rfl⟩ <;> exact ⟨rfl, rfl⟩

/-- Where the loop goes after a batch. -/
def afterBatch (claimed : Nat) : Phase :=
  if claimed = 0 then .waiting else .draining

theorem afterBatch_ne_crashed (claimed : Nat) : afterBatch claimed ≠ .crashed := by
  unfold afterBatch
  split <;> simp

/-- One state leads to another: the history gets these entries, and then these jobs are in hand, so
many have been claimed, and this is where the loop is. -/
structure Leads (s s' : State) (es : List Entry) (tasks : List Task) (claims : Nat) (phase : Phase) :
    Prop where
  history : s'.history = s.history ++ es
  tasks : s'.tasks = tasks
  claims : s'.claims = claims
  phase : s'.phase = phase
  stopping : s'.stopping = s.stopping
  quiet : s'.world.session.log = []

/-- All that a step may do. -/
inductive Turn (settings : WorkerSettings) (hs : Handlers) (s s' : State) : Prop
  /-- Who has the turn has to wait. -/
  | waits (h : s' = s)
  | asked (h : s' = { s with stopping := true })
  /-- A claimed job comes further, or to its end. -/
  | works {pre post : List Task} {t : Task} {es : List Entry} {stage : Option Stage}
      (hbefore : s.tasks = pre ++ t :: post) (hm : Moves t es stage)
      (h : Leads s s' es (moved pre t stage post) s.claims s.phase)
  | starts (hphase : s.phase = .fresh) (henabled : settings.enabled = true)
      (h : Leads s s' [.told .loop .workerStarted] s.tasks s.claims .ready)
  | declines (hphase : s.phase = .fresh) (henabled : settings.enabled = false)
      (h : Leads s s' [] s.tasks s.claims .stopped)
  | halts (hphase : s.phase = .ready ∨ s.phase = .waiting) (hstopping : s.stopping = true)
      (h : Leads s s' [.told .loop .workerStopped] s.tasks s.claims .stopped)
  /-- A batch is opened, stuck jobs being looked for before or not. -/
  | opens {es : List Entry} (hphase : s.phase = .ready) (hstopping : s.stopping = false)
      (hes : ∀ e ∈ es, e.Rescues)
      (h : Leads s s' es s.tasks s.claims (.claiming settings.maxConcurrent 0))
  /-- A batch is full, or there is nothing to claim for. -/
  | closes {left claimed : Nat} (hphase : s.phase = .claiming left claimed)
      (hdone : left = 0 ∨ hs.kinds = []) (h : Leads s s' [] s.tasks s.claims (afterBatch claimed))
  /-- A claim gives no job. -/
  | misses {left claimed : Nat} {x : Exchange} (hphase : s.phase = .claiming (left + 1) claimed)
      (hx : ClaimsFor hs x) (hnone : (Entry.sent .loop x).granted? = none)
      (h : Leads s s' [.sent .loop x] s.tasks s.claims (afterBatch claimed))
  | claims {left claimed : Nat} {x : Exchange} {job : Job}
      (hphase : s.phase = .claiming (left + 1) claimed) (hx : ClaimsFor hs x)
      (hsome : (Entry.sent .loop x).granted? = some job)
      (h : Leads s s' [.sent .loop x, .claimed s.claims job]
        (s.tasks ++ [{ ticket := s.claims, job }]) (s.claims + 1) (.claiming left (claimed + 1)))
  | resumes (hphase : s.phase = .waiting ∨ s.phase = .draining ∧ s.tasks = [])
      (h : Leads s s' [] s.tasks s.claims .ready)
  /-- The threshold for stuck jobs is beyond the calendar. -/
  | overflows (hphase : s.phase = .ready)
      (hcutoff : Queue.cutoff s.world.session.now settings.rescueAfter = .error .crash)
      (h : Leads s s' [] [] s.claims .crashed)
  /-- The row of a claim breaks the schema. -/
  | breaks {left claimed : Nat} {x : Exchange} {row : Row}
      (hphase : s.phase = .claiming (left + 1) claimed) (hx : ClaimsFor hs x)
      (hrow : x.fate.row? = some row) (hcrash : jobOfRow row = .error .crash)
      (h : Leads s s' [.sent .loop x] [] s.claims .crashed)

section Turns

variable {s s' : State} {settings : WorkerSettings} {hs : Handlers} {es : List Entry}
  {tasks : List Task} {claims : Nat} {phase : Phase}

/-- Nothing is taken out of a history. -/
theorem Turn.history (h : Turn settings hs s s') : ∃ es, s'.history = s.history ++ es := by
  cases h with
  | waits h => exact ⟨[], by simp [h]⟩
  | asked h => exact ⟨[], by simp [h]⟩
  | works _ _ h | starts _ _ h | declines _ _ h | halts _ _ h | opens _ _ _ h | closes _ _ h
  | misses _ _ _ h | claims _ _ _ h | resumes _ h | overflows _ _ h | breaks _ _ _ _ h =>
    exact ⟨_, h.history⟩

/-! ## How one state leads to another -/

/-- A state leads to itself with nothing logged. -/
theorem leads_refl (hquiet : s.world.session.log = []) : Leads s s [] s.tasks s.claims s.phase :=
  ⟨(List.append_nil _).symm, rfl, rfl, rfl, rfl, hquiet⟩

/-- What is told comes to the history. -/
theorem Leads.tell (h : Leads s s' es tasks claims phase) (author : Author) (e : Event) :
    Leads s (s'.tell author e) (es ++ [.told author e]) tasks claims phase where
  history := by simp [State.tell, h.history]
  tasks := h.tasks
  claims := h.claims
  phase := h.phase
  stopping := h.stopping
  quiet := h.quiet

/-- Going on to another phase leaves all else as it is. -/
theorem Leads.goTo (h : Leads s s' es tasks claims phase) (phase' : Phase) :
    Leads s { s' with phase := phase' } es tasks claims phase' :=
  ⟨h.history, h.tasks, h.claims, rfl, h.stopping, h.quiet⟩

/-- A crash loses what was in hand. -/
theorem Leads.crash (h : Leads s s' es tasks claims phase) : Leads s s'.crash es [] claims .crashed :=
  ⟨h.history, rfl, h.claims, rfl, h.stopping, h.quiet⟩

/-- What an operation hands over becomes part of the history, under the name of its author. -/
theorem leads_of_perform (hquiet : s.world.session.log = []) (author : Author) {op : Operation α}
    {r : Except Failure α} {session : Session} {xs : List Exchange}
    (hrun : op.run s.world.session = (r, session))
    (hlog : session.log = s.world.session.log ++ xs) :
    ∃ s', s.perform author op = (r, s') ∧
      Leads s s' (xs.map (.sent author)) s.tasks s.claims s.phase := by
  refine ⟨s.absorb author { s.world with session }, ?_, ⟨?_, rfl, rfl, rfl, rfl, rfl⟩⟩
  · simp only [State.perform, hrun]
  · simp only [State.absorb, hlog, hquiet, List.nil_append]

/-! ## A job -/

/-- **A step of a claimed job** is a turn that moves it, or nothing. -/
theorem turn_of_stepTask (hquiet : s.world.session.log = []) (i : Nat) :
    Turn settings hs s (s.stepTask hs i) := by
  unfold State.stepTask
  cases hget : s.tasks[i]? with
  | none => exact .waits rfl
  | some t =>
    obtain ⟨pre, post, hbefore, herase, hset⟩ := List.split_of_getElem? hget
    dsimp only
    cases hstage : t.stage with
    | claimed => exact .works hbefore (.starts hstage) ⟨rfl, hset _, rfl, rfl, rfl, hquiet⟩
    | handling =>
      -- A handler that waits changes nothing.
      rcases handle hs t.job s.stopping s.world with ⟨_ | result | _, w⟩
      · exact .waits rfl
      · exact .works hbefore (.handled hstage w.session.log result)
          ⟨by simp [State.absorb], hset _, rfl, rfl, rfl, rfl⟩
      · exact .works hbefore (.panicked hstage w.session.log)
          ⟨by simp [State.absorb], herase, rfl, rfl, rfl, rfl⟩
    | reporting result =>
      -- The report is one talk with the database, and the job is finished with it in any case.
      obtain ⟨q, xs, session, hrun, hr⟩ := talks_report t.job result s.world.session
      obtain ⟨s1, hperform, hl⟩ := leads_of_perform hquiet (.task t.ticket) hrun.run hrun.log
      have hafter : s1.tasks.eraseIdx i = moved pre t none post := by
        rw [hl.tasks, herase]
        rfl
      have hm := Moves.reported hstage hr
      dsimp only
      rw [hperform]
      rcases q with e | ⟨_ | event⟩
      · exact .works hbefore hm
          ⟨by simp [hl.history, eventOf], hafter, hl.claims, hl.phase, hl.stopping, hl.quiet⟩
      · exact .works hbefore hm
          ⟨by simp [hl.history, eventOf], hafter, hl.claims, hl.phase, hl.stopping, hl.quiet⟩
      · exact .works hbefore hm
          ⟨by simp [hl.history, eventOf, State.tell], hafter, hl.claims, hl.phase, hl.stopping,
            hl.quiet⟩

/-! ## The loop -/

/-- A claim is a turn: it misses, takes a job in hand, or meets a row that breaks the schema. -/
theorem turn_of_claimOne (hquiet : s.world.session.log = []) {left claimed : Nat}
    (hphase : s.phase = .claiming (left + 1) claimed) :
    Turn settings hs s (s.claimOne hs left claimed) := by
  unfold State.claimOne
  split
  · rename_i hkinds
    exact .closes hphase (Or.inr hkinds) ((leads_refl hquiet).goTo _)
  · rename_i hkinds
    obtain ⟨f, session, ht⟩ := Queue.talks_claim s.world.session hs.kinds
    obtain ⟨s1, hperform, hl⟩ := leads_of_perform hquiet .loop ht.run ht.log
    have hx : ClaimsFor hs ⟨.claimJob s.world.session.now hs.kinds, f⟩ := ⟨hkinds, _, rfl⟩
    have hgranted := granted_claim f s.world.session.now hs.kinds
    rw [hperform]
    -- What the answer is read as decides, and the entry that is logged says the same (`hgranted`).
    cases hr : (f.result.map fun a => a.rows.head?).bind Queue.claimOfRow with
    | error e =>
      rw [hr] at hgranted
      cases e with
      | error e => exact .misses hphase hx hgranted (hl.goTo _)
      | crash =>
        obtain ⟨row, hrow, hcrash⟩ := Queue.crash_of_claim hr
        exact .breaks hphase hx hrow hcrash hl.crash
    | ok found =>
      rw [hr] at hgranted
      cases found with
      | none => exact .misses hphase hx hgranted (hl.goTo _)
      | some job =>
        exact .claims hphase hx hgranted ⟨by simp [hl.history, hl.claims],
          by simp [hl.tasks, hl.claims], by simp [hl.claims], rfl, hl.stopping, hl.quiet⟩

/-- Looking for stuck jobs leaves the loop where it is, or the threshold is beyond the calendar. -/
theorem rescue_cases (hquiet : s.world.session.log = []) (settings : WorkerSettings) :
    (∃ s1 es, s.rescue settings = .ok s1 ∧ (∀ e ∈ es, e.Rescues) ∧
        Leads s s1 es s.tasks s.claims s.phase) ∨
      ∃ s1, s.rescue settings = .error s1 ∧ Leads s s1 [] s.tasks s.claims s.phase ∧
        Queue.cutoff s.world.session.now settings.rescueAfter = .error .crash := by
  cases hcut : Queue.cutoff s.world.session.now settings.rescueAfter with
  | error e =>
    have hrun := Queue.run_rescue_of_error hcut
    have hlog : s.world.session.log = s.world.session.log ++ [] := (List.append_nil _).symm
    obtain ⟨s1, hperform, hl⟩ := leads_of_perform hquiet .loop hrun hlog
    unfold State.rescue
    rw [hperform]
    cases e with
    | error e => exact Or.inl ⟨s1, [], rfl, List.forall_mem_nil _, hl⟩
    | crash => exact Or.inr ⟨s1, rfl, hl, rfl⟩
  | ok before =>
    obtain ⟨r, f, session, hrun, hlog, hr⟩ := Queue.run_rescue_of_ok hcut
    obtain ⟨s1, hperform, hl⟩ := leads_of_perform hquiet .loop hrun hlog
    have hsent : ∀ e ∈ [(⟨.rescueJobs s.world.session.now before, f⟩ : Exchange)].map
        (Entry.sent .loop), e.Rescues := by
      intro e he
      rw [List.mem_singleton.1 he]
      exact Or.inl ⟨_, _, _, rfl, rfl⟩
    unfold State.rescue
    rw [hperform]
    refine Or.inl ?_
    -- Of the answers only a count above zero is told, and none of them is a crash.
    rcases r with (e | _) | _ | count
    · exact ⟨s1, _, rfl, hsent, hl⟩
    · exact absurd rfl hr
    · exact ⟨s1, _, rfl, hsent, hl⟩
    · refine ⟨s1.tell .loop (.jobsRescued (count + 1)), _, rfl, fun e he => ?_, hl.tell _ _⟩
      rcases List.mem_append.1 he with he | he
      · exact hsent e he
      · exact Or.inr ⟨_, List.mem_singleton.1 he⟩

/-- When the loop is ready it stops, looks for stuck jobs, or opens a batch. -/
theorem turn_of_ready (hquiet : s.world.session.log = []) (due : Bool) (hphase : s.phase = .ready) :
    Turn settings hs s (s.stepLoop settings hs due) := by
  unfold State.stepLoop
  rw [hphase]
  dsimp only
  cases hstopping : s.stopping with
  | true =>
    rw [if_pos rfl]
    exact .halts (Or.inl hphase) hstopping (((leads_refl hquiet).tell _ _).goTo _)
  | false =>
    rw [if_neg (by simp)]
    split
    · rcases rescue_cases hquiet settings with ⟨s1, es, hrescue, hes, hl⟩ | ⟨s1, hrescue, hl, hcutoff⟩
      · rw [hrescue]
        exact .opens hphase hstopping hes
          ⟨hl.history, hl.tasks, hl.claims, rfl, hl.stopping, hl.quiet⟩
      · rw [hrescue]
        exact .overflows hphase hcutoff hl.crash
    · exact .opens hphase hstopping (List.forall_mem_nil _)
        ⟨(List.append_nil _).symm, rfl, rfl, rfl, hstopping.symm, hquiet⟩

/-- **A step of the loop** is a turn, whatever the phase it is in. -/
theorem turn_of_stepLoop (hquiet : s.world.session.log = []) (due : Bool) :
    Turn settings hs s (s.stepLoop settings hs due) := by
  have hl := leads_refl hquiet
  cases hphase : s.phase with
  | fresh =>
    simp only [State.stepLoop, hphase]
    split
    · rename_i henabled
      exact .starts hphase henabled ((hl.tell _ _).goTo _)
    · rename_i henabled
      exact .declines hphase (eq_false_of_ne_true henabled) (hl.goTo _)
  | ready => exact turn_of_ready hquiet due hphase
  | claiming left claimed =>
    simp only [State.stepLoop, hphase]
    cases left with
    | zero => exact .closes hphase (Or.inl rfl) (hl.goTo _)
    | succ left => exact turn_of_claimOne hquiet hphase
  | waiting =>
    simp only [State.stepLoop, hphase]
    split
    · rename_i hstopping
      exact .halts (Or.inr hphase) hstopping ((hl.tell _ _).goTo _)
    · exact .resumes (Or.inl hphase) (hl.goTo _)
  | draining =>
    simp only [State.stepLoop, hphase]
    split
    · rename_i hempty
      exact .resumes (Or.inr ⟨hphase, List.isEmpty_iff.1 hempty⟩) (hl.goTo _)
    · exact .waits rfl
  | stopped =>
    simp only [State.stepLoop, hphase]
    exact .waits rfl
  | crashed =>
    simp only [State.stepLoop, hphase]
    exact .waits rfl

/-- **A step is a turn.** -/
theorem turn_of_step (hquiet : s.world.session.log = []) (settings : WorkerSettings)
    (hs : Handlers) (c : Choice) : Turn settings hs s (step settings hs c s) := by
  cases c with
  | loop due => exact turn_of_stepLoop hquiet due
  | task i => exact turn_of_stepTask hquiet i
  | stop => exact .asked rfl

end Turns

end VideoProbe.Worker
