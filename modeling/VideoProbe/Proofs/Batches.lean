import VideoProbe.Proofs.Announcements
import Mathlib.Data.List.Induction
import Mathlib.Data.List.Perm.Subperm

/-!
# Batches

A worker claims jobs in batches, and what a batch is can be read off the history alone.  A claim
that gives a job adds it to the open batch, a full batch is over, and a claim that gives none ends
the batch it belongs to; `inBatch` counts accordingly.  The crux is that the loop keeps the same
count: in the middle of a batch it knows how many jobs the batch has (`Room`), so a claim at which
the count is zero is the first of a batch, and before that nothing is in hand.
-/

namespace VideoProbe.Worker

open VideoProbe.Database

/-! ## Batches and unfinished jobs in a history -/

/-- How many jobs the open batch has after one more entry, where a batch has at most `m`. -/
def counted (m n : Nat) (e : Entry) : Nat :=
  if e.isClaim then if e.granted?.isSome ∧ n + 1 < m then n + 1 else 0 else n

/-- How many jobs the open batch has after a history; none if there is no open batch. -/
def inBatch (m : Nat) (h : List Entry) : Nat :=
  h.foldl (counted m) 0

/-- Where nothing is claimed, the count of the batch stays. -/
theorem inBatch_append_of_idle {m : Nat} {h es : List Entry} (hes : ∀ e ∈ es, e.isClaim = false) :
    inBatch m (h ++ es) = inBatch m h := by
  unfold inBatch
  rw [List.foldl_append]
  generalize h.foldl (counted m) 0 = n
  induction es with
  | nil => rfl
  | cons e es ih =>
    rw [List.foldl_cons, show counted m n e = n by simp [counted, hes e]]
    exact ih fun e' he' => hes e' (List.mem_cons_of_mem _ he')

/-- A claim counts, and what follows up to the next claim does not. -/
theorem inBatch_append_claim {m : Nat} {h es : List Entry} {e : Entry} (he : e.isClaim = true)
    (hes : ∀ e ∈ es, e.isClaim = false) :
    inBatch m (h ++ e :: es) =
      if e.granted?.isSome ∧ inBatch m h + 1 < m then inBatch m h + 1 else 0 := by
  rw [List.append_cons, inBatch_append_of_idle hes]
  unfold inBatch
  rw [List.foldl_append, List.foldl_cons, List.foldl_nil, counted, if_pos he]

/-- The account of a claimed job is closed: its handler has crashed, or what the handler said has
been recorded as far as the database has let it. -/
def Finished (k : Nat) (h : List Entry) : Prop :=
  ∃ job, Life k job none (about k h)

/-- A job was claimed and is not finished. -/
def Unfinished (k : Nat) (h : List Entry) : Prop :=
  (∃ job, .claimed k job ∈ h) ∧ ¬ Finished k h

/-- Where a claim is the first of its batch, all jobs that were claimed before are finished. -/
def Batchwise (m : Nat) (h : List Entry) : Prop :=
  ∀ pre e post, h = pre ++ e :: post → e.isClaim = true → inBatch m pre = 0 →
    ∀ k, ¬ Unfinished k pre

/-- So does what has been seen of the batches. -/
theorem Batchwise.append_of_idle {m : Nat} {h es : List Entry} (hb : Batchwise m h)
    (hes : ∀ e ∈ es, e.isClaim = false) : Batchwise m (h ++ es) := by
  intro pre e post heq he
  rcases List.append_eq_append_iff.1 heq with ⟨mid, rfl, hpost⟩ | ⟨mid, rfl, hmid⟩
  · -- The claim would be one of the new entries.
    have hnot := hes e (by simp [hpost])
    simp [he] at hnot
  · cases mid with
    | nil =>
      have hmem : e ∈ [] ++ es := hmid ▸ List.mem_cons_self
      have hnot := hes e hmem
      simp [he] at hnot
    | cons e' mid =>
      obtain ⟨rfl, -⟩ := List.cons.inj hmid
      exact hb pre e mid rfl he

/-- A claim keeps to the batches if it is not the first of one, or if everything before it is
finished. -/
theorem Batchwise.append_claim {m : Nat} {h es : List Entry} {e : Entry} (hb : Batchwise m h)
    (hfirst : inBatch m h = 0 → ∀ k, ¬ Unfinished k h) (hes : ∀ e ∈ es, e.isClaim = false) :
    Batchwise m (h ++ e :: es) := by
  have hone : Batchwise m (h ++ [e]) := by
    intro pre e' post heq he'
    rcases List.append_eq_append_iff.1 heq with ⟨mid, rfl, hpost⟩ | ⟨mid, rfl, hmid⟩
    · cases mid with
      | nil => simpa using hfirst
      | cons e'' mid => simp at hpost
    · cases mid with
      | nil => simpa using hfirst
      | cons e'' mid =>
        obtain ⟨rfl, -⟩ := List.cons.inj hmid
        exact hb pre e' mid rfl he'
  rw [List.append_cons]
  exact hone.append_of_idle hes

/-! ## What is in hand -/

section Hands

variable {s : State}

/-- What was claimed and is not finished is in hand. -/
theorem Sound.inHand_of_unfinished (h : Sound s) (halive : s.phase ≠ .crashed) {k : Nat}
    (hk : Unfinished k s.history) : k ∈ s.tasks.map Task.ticket := by
  obtain ⟨⟨job, hclaimed⟩, hnot⟩ := hk
  by_contra hno
  obtain ⟨job', hlife | ⟨hcrashed, -⟩⟩ := h.ended k (h.orderly.bounded _ hclaimed k rfl)
    fun t ht htk => hno (List.mem_map.2 ⟨t, ht, htk⟩)
  · exact hnot ⟨job', hlife⟩
  · exact halive hcrashed

/-- With nothing in hand everything is finished. -/
theorem Sound.finished_of_empty (h : Sound s) (halive : s.phase ≠ .crashed) (hempty : s.tasks = []) :
    ∀ k, ¬ Unfinished k s.history := fun k hk => by
  simpa [hempty] using h.inHand_of_unfinished halive hk

/-- Jobs that were claimed and are not finished are at most as many as are in hand. -/
theorem Sound.length_unfinished_le (h : Sound s) (halive : s.phase ≠ .crashed) {ks : List Nat}
    (hdistinct : ks.Nodup) (hks : ∀ k ∈ ks, Unfinished k s.history) :
    ks.length ≤ s.tasks.length := by
  have hsubset : ks ⊆ s.tasks.map Task.ticket := fun k hk => h.inHand_of_unfinished halive (hks k hk)
  simpa using (hdistinct.subperm hsubset).length_le

end Hands

/-! ## Runs without a crash of the loop -/

/-- A row with a value in every column of the queue that cannot be null. -/
structure Complete (row : Row) : Prop where
  id : ∃ u, row.cell "id" = .uuid u
  kind : ∃ s, row.cell "kind" = .text s
  state : ∃ s, row.cell "state" = .text s
  args : ∃ v, row.cell "args" = .jsonb v
  output : row.cell "output" = .null ∨ ∃ v, row.cell "output" = .jsonb v
  errors : ∃ v, row.cell "errors" = .jsonb v
  attempt : ∃ n, row.cell "attempt" = .int n
  maxAttempts : ∃ n, row.cell "max_attempts" = .int n
  createdAt : ∃ t, row.cell "created_at" = .time t
  scheduledAt : ∃ t, row.cell "scheduled_at" = .time t
  attemptedAt : row.cell "attempted_at" = .null ∨ ∃ t, row.cell "attempted_at" = .time t
  finalizedAt : row.cell "finalized_at" = .null ∨ ∃ t, row.cell "finalized_at" = .time t

/-- Such a row gives a job or an error. -/
theorem Complete.no_crash {row : Row} (h : Complete row) : jobOfRow row ≠ .error .crash := by
  obtain ⟨⟨id, hid⟩, ⟨kind, hkind⟩, ⟨state, hstate⟩, ⟨args, hargs⟩, houtput, ⟨errors, herrors⟩,
    ⟨attempt, hattempt⟩, ⟨most, hmost⟩, ⟨created, hcreated⟩, ⟨scheduled, hscheduled⟩, hattempted,
    hfinalized⟩ := h
  have houtput' : ∃ o, optionalJsonColumn row "output" = .ok o := by
    rcases houtput with ho | ⟨v, ho⟩ <;> simp [optionalJsonColumn, ho]
  have hattempted' : ∃ o, optionalTimeColumn row "attempted_at" = .ok o := by
    rcases hattempted with ho | ⟨v, ho⟩ <;> simp [optionalTimeColumn, ho]
  have hfinalized' : ∃ o, optionalTimeColumn row "finalized_at" = .ok o := by
    rcases hfinalized with ho | ⟨v, ho⟩ <;> simp [optionalTimeColumn, ho]
  obtain ⟨o1, ho1⟩ := houtput'
  obtain ⟨o2, ho2⟩ := hattempted'
  obtain ⟨o3, ho3⟩ := hfinalized'
  -- Only the kind and the error history can be refused.
  cases hword : Job.Kind.ofWord? kind with
  | none => simp [jobOfRow, textColumn, hkind, hword, bind, Except.bind, throw, throwThe,
      MonadExceptOf.throw]
  | some kind =>
    cases hread : (Json.Decoder.list AttemptError.decoder).ofValue errors with
    | error r => simp [jobOfRow, textColumn, jsonColumn, hkind, herrors, hword, hread, bind,
        Except.bind, throw, throwThe, MonadExceptOf.throw, pure, Except.pure]
    | ok errors => simp [jobOfRow, textColumn, jsonColumn, uuidColumn, intColumn, timeColumn, hid,
        hkind, hstate, hargs, herrors, hattempt, hmost, hcreated, hscheduled, ho1, ho2, ho3, hword,
        hread, bind, Except.bind, pure, Except.pure]

/-- The row that a claim of the loop is answered with. -/
def Entry.claimRow? : Entry → Option Row
  | .sent .loop ⟨.claimJob _ _, f⟩ => f.row?
  | _ => none

/-- The row of a claim is the one that its answer brings. -/
theorem ClaimsFor.claimRow {hs : Handlers} {x : Exchange} (h : ClaimsFor hs x) :
    (Entry.sent .loop x).claimRow? = x.fate.row? := by
  obtain ⟨t, ht⟩ := h.statement
  obtain ⟨st, f⟩ := x
  cases ht
  rfl

/-- The database keeps to its schema in what it gives to the claims of a run, and the threshold for
stuck jobs is within the calendar all the time. -/
structure Regular (settings : WorkerSettings) (hs : Handlers) (choices : List Choice) (w : World) :
    Prop where
  rows : ∀ row ∈ (run settings hs choices (State.fresh w)).history.filterMap Entry.claimRow?,
    Complete row
  clock : ∀ pre, pre <+: choices → Queue.cutoff
    (run settings hs pre (State.fresh w)).world.session.now settings.rescueAfter ≠ .error .crash

section Regularity

variable {settings : WorkerSettings} {hs : Handlers} {choices : List Choice} {w : World}

/-- A run with one more choice is a step more. -/
theorem run_concat (c : Choice) (s : State) :
    run settings hs (choices ++ [c]) s = step settings hs c (run settings hs choices s) := by
  simp [run]

/-- If a run is regular it was so before the last choice. -/
theorem Regular.init {c : Choice} (h : Regular settings hs (choices ++ [c]) w) :
    Regular settings hs choices w where
  rows := by
    intro row hrow
    have hsound := sound_run (sound_fresh w) settings hs choices
    obtain ⟨es, hes⟩ := (turn_of_step hsound.quiet settings hs c).history
    refine h.rows row ?_
    rw [run_concat, hes, List.filterMap_append]
    exact List.mem_append_left _ hrow
  clock := fun pre hpre => h.clock pre (hpre.trans (List.prefix_append _ _))

end Regularity

/-! ## The pace of the loop -/

/-- What the loop knows of the open batch, which has a number of jobs by the history. -/
def Room (m n : Nat) : Phase → Prop
  | .claiming left claimed => left + claimed = m ∧ n = if left = 0 then 0 else claimed
  | .fresh | .ready | .waiting | .draining | .stopped | .crashed => n = 0

/-- Behind a batch none is open. -/
theorem room_afterBatch (m claimed : Nat) : Room m 0 (afterBatch claimed) := by
  unfold afterBatch
  split <;> rfl

/-- What holds of a worker in every regular run, with at most `m` jobs in a batch. -/
structure Paced (m : Nat) (hs : Handlers) (s : State) : Prop where
  alive : s.phase ≠ .crashed
  fits : s.tasks.length ≤ m
  room : Room m (inBatch m s.history) s.phase
  batches : Batchwise m s.history
  claimsFor : ∀ x, .sent .loop x ∈ s.history → (Entry.sent .loop x).isClaim = true → ClaimsFor hs x

/-- A fresh worker has claimed nothing. -/
theorem paced_fresh (m : Nat) (hs : Handlers) (w : World) : Paced m hs (State.fresh w) where
  alive := by simp [State.fresh]
  fits := by simp [State.fresh]
  room := rfl
  batches := by simp [Batchwise, State.fresh]
  claimsFor := by simp [State.fresh]

section Pace

variable {m : Nat} {hs : Handlers} {s s' : State} {es : List Entry} {tasks : List Task}
  {claims : Nat} {phase : Phase}

/-- Without a claim the count stays as it is. -/
theorem Paced.goOn (h : Paced m hs s) (hl : Leads s s' es tasks claims phase)
    (hes : ∀ e ∈ es, e.isClaim = false) (halive : phase ≠ .crashed) (hfits : tasks.length ≤ m)
    (hroom : Room m (inBatch m s.history) phase) : Paced m hs s' where
  alive := hl.phase ▸ halive
  fits := hl.tasks ▸ hfits
  room := by rwa [hl.phase, hl.history, inBatch_append_of_idle hes]
  batches := hl.history ▸ h.batches.append_of_idle hes
  claimsFor := by
    intro x hx hclaim
    rw [hl.history, List.mem_append] at hx
    rcases hx with hx | hx
    · exact h.claimsFor x hx hclaim
    · rw [hes _ hx] at hclaim
      simp at hclaim

/-- A claim is made in the middle of a batch, or when everything in hand is finished. -/
theorem Paced.claim (hsound : Sound s) (h : Paced m hs s) {left claimed : Nat} {x : Exchange}
    (hphase : s.phase = .claiming (left + 1) claimed) (hx : ClaimsFor hs x)
    (hl : Leads s s' (.sent .loop x :: es) tasks claims phase) (hes : ∀ e ∈ es, e.isClaim = false)
    (halive : phase ≠ .crashed) (hfits : tasks.length ≤ m)
    (hroom : Room m (if (Entry.sent .loop x).granted?.isSome ∧ claimed + 1 < m then claimed + 1 else 0)
      phase) : Paced m hs s' := by
  have hcount : inBatch m s.history = claimed := by
    have hr := h.room
    rw [hphase] at hr
    simpa [Room] using hr.2
  -- In an empty batch everything in hand is finished, because there is room for all of it.
  have hfirst : inBatch m s.history = 0 → ∀ k, ¬ Unfinished k s.history := by
    intro hzero
    have hlength := hsound.batched.length_le hphase
    exact hsound.finished_of_empty h.alive (List.length_eq_zero_iff.1 (by omega))
  constructor
  · exact hl.phase ▸ halive
  · exact hl.tasks ▸ hfits
  · rwa [hl.phase, hl.history, inBatch_append_claim hx.isClaim hes, hcount]
  · exact hl.history ▸ h.batches.append_claim hfirst hes
  · intro y hy hclaim
    rw [hl.history, List.mem_append, List.mem_cons] at hy
    rcases hy with hy | hy | hy
    · exact h.claimsFor y hy hclaim
    · cases hy
      exact hx
    · rw [hes _ hy] at hclaim
      simp at hclaim

/-- A worker without handlers has claimed nothing. -/
theorem Paced.inBatch_of_no_kinds (h : Paced m hs s) (hkinds : hs.kinds = []) :
    inBatch m s.history = 0 := by
  refine inBatch_append_of_idle (h := []) fun e he => ?_
  by_contra hclaim
  rw [Bool.not_eq_false] at hclaim
  obtain ⟨x, rfl⟩ := Entry.sent_of_isClaim hclaim
  exact (h.claimsFor x he hclaim).registered hkinds

variable {settings : WorkerSettings}

/-- **A turn** keeps the pace, unless the loop crashes. -/
theorem paced_turn (hsound : Sound s) (henabled : settings.enabled = true)
    (h : Paced settings.maxConcurrent hs s) (ht : Turn settings hs s s')
    (hrows : ∀ row ∈ s'.history.filterMap Entry.claimRow?, Complete row)
    (hclock : Queue.cutoff s.world.session.now settings.rescueAfter ≠ .error .crash) :
    Paced settings.maxConcurrent hs s' := by
  have hroom := h.room
  -- The count of the batch changes only where something is claimed and where the batch ends.
  cases ht with
  | waits heq => exact heq ▸ h
  | asked heq => exact heq ▸ ⟨h.alive, h.fits, h.room, h.batches, h.claimsFor⟩
  | @works pre post t es stage hbefore hm hl =>
    have hlength : (moved pre t stage post).length ≤ s.tasks.length :=
      hbefore ▸ length_moved_le pre t stage post
    exact h.goOn hl (fun e he => Entry.isClaim_of_ticket (hm.belongs e he).1) h.alive
      (Nat.le_trans hlength h.fits) hroom
  | starts hphase _ hl =>
    rw [hphase] at hroom
    exact h.goOn hl (by simp [Entry.isClaim]) (by simp) h.fits hroom
  | declines _ hdisabled _ => simp [henabled] at hdisabled
  | halts hphase _ hl =>
    refine h.goOn hl (by simp [Entry.isClaim]) (by simp) h.fits ?_
    rcases hphase with hp | hp <;> exact (hp ▸ hroom :)
  | opens hphase _ hes hl =>
    rw [hphase] at hroom
    refine h.goOn hl (fun e he => (hes e he).isClaim) (by simp) h.fits ⟨by simp, ?_⟩
    rw [show inBatch _ s.history = 0 from hroom]
    simp
  | @closes left claimed hphase hdone hl =>
    refine h.goOn hl (by simp) ?_ h.fits ?_
    · exact afterBatch_ne_crashed claimed
    · have hzero : inBatch settings.maxConcurrent s.history = 0 := by
        rcases hdone with rfl | hkinds
        · rw [hphase] at hroom
          exact hroom.2
        · exact h.inBatch_of_no_kinds hkinds
      exact hzero ▸ room_afterBatch _ claimed
  | misses hphase hx hnone hl =>
    refine h.claim hsound hphase hx hl (by simp) (afterBatch_ne_crashed _) h.fits ?_
    simpa [hnone] using room_afterBatch _ _
  | @claims left claimed x job hphase hx hsome hl =>
    have hlength := hsound.batched.length_le hphase
    rw [hphase] at hroom
    obtain ⟨hsum, -⟩ := hroom
    refine h.claim hsound hphase hx hl (by simp [Entry.isClaim]) (by simp) ?_ ⟨by omega, ?_⟩
    · simp only [List.length_append, List.length_singleton]
      omega
    · rw [hsome]
      simp only [Option.isSome_some, true_and]
      split <;> split <;> omega
  | resumes hphase hl =>
    refine h.goOn hl (by simp) (by simp) h.fits ?_
    rcases hphase with hp | ⟨hp, -⟩ <;> exact (hp ▸ hroom :)
  -- The two ways to crash are what the last two hypotheses exclude.
  | overflows _ hcutoff _ => exact absurd hcutoff hclock
  | @breaks _ _ x row _ hx hrow hcrash hl =>
    have hmem : row ∈ s'.history.filterMap Entry.claimRow? :=
      List.mem_filterMap.2 ⟨.sent .loop x, by simp [hl.history], hx.claimRow.trans hrow⟩
    exact absurd hcrash (hrows row hmem).no_crash

/-- **Every regular run** keeps it, by induction on what happens. -/
theorem paced_run (henabled : settings.enabled = true) {choices : List Choice} {w : World}
    (h : Regular settings hs choices w) :
    Paced settings.maxConcurrent hs (run settings hs choices (State.fresh w)) := by
  induction choices using List.reverseRecOn with
  | nil => exact paced_fresh _ hs w
  | append_singleton choices c ih =>
    have hsound := sound_run (sound_fresh w) settings hs choices
    have hrows := h.rows
    rw [run_concat] at hrows ⊢
    exact paced_turn hsound henabled (ih h.init) (turn_of_step hsound.quiet settings hs c) hrows
      (h.clock choices (List.prefix_append _ _))

end Pace

/-! ## Discipline -/

/-- The kinds that are claimed are those with a handler. -/
theorem mem_kinds_iff {hs : Handlers} {k : Job.Kind} : k ∈ hs.kinds ↔ (hs k).isSome := by
  cases k <;> simp [Handlers.kinds, Job.Kind.all]

theorem nodup_kinds (hs : Handlers) : hs.kinds.Nodup :=
  List.Pairwise.filter _ (by decide)

/-- What a history says about the batches of a worker with some handlers. -/
structure Disciplined (settings : WorkerSettings) (hs : Handlers) (s : State) : Prop where
  /-- The loop does not crash. -/
  alive : s.phase ≠ .crashed
  /-- The claimed jobs are those that the database has granted to the claims of the loop. -/
  granted : s.history.filterMap Entry.granted? = s.history.filterMap Entry.claimed?
  /-- No more jobs are claimed and unfinished than a batch may have. -/
  inHand : ∀ ks : List Nat, ks.Nodup → (∀ k ∈ ks, Unfinished k s.history) →
    ks.length ≤ settings.maxConcurrent
  /-- The first claim of a batch comes when all jobs of the batches before are finished. -/
  batches : Batchwise settings.maxConcurrent s.history
  /-- A claim names the kinds that have a handler, each once; without any there is no claim. -/
  kinds : ∀ t kinds f, .sent .loop ⟨.claimJob t kinds, f⟩ ∈ s.history →
    kinds ≠ [] ∧ kinds.Nodup ∧ ∀ k, k ∈ kinds ↔ (hs k).isSome
  /-- Of a claimed job listeners hear that it was started, once, and after that how it ended, if
  they hear this at all. -/
  started : ∀ k job, .claimed k job ∈ s.history → toldOf k s.history = [] ∨
    toldOf k s.history = [.jobStarted job.id job.kind] ∨
      ∃ e, Ends job e ∧ toldOf k s.history = [.jobStarted job.id job.kind, e] ∧
        Finished k s.history
  /-- Of a job that is finished they have heard. -/
  heard : ∀ k, Finished k s.history → toldOf k s.history ≠ []
  /-- Listeners hear of the worker, from its loop, and of claimed jobs, and of nothing else. -/
  told : ∀ a e, .told a e ∈ s.history →
    (a = .loop ∧ (e = .workerStarted ∨ e = .workerStopped ∨ ∃ n, e = .jobsRescued n)) ∨
      ∃ k job, a = .task k ∧ .claimed k job ∈ s.history ∧
        (e = .jobStarted job.id job.kind ∨ Ends job e)
  /-- The events begin with the start of the worker and end with its stop, each told once. -/
  events : Streamed s.phase s.events
  /-- Nothing comes after the stop, and before it all claimed jobs are finished. -/
  settled : ∀ pre post, s.history = pre ++ .told .loop .workerStopped :: post →
    s.phase = .stopped ∧ post = [] ∧ ∀ k, ¬ Unfinished k pre

/-- Of a job that is finished listeners have heard at least that it was started. -/
theorem Finished.heard {k : Nat} {h : List Entry} (hf : Finished k h) : toldOf k h ≠ [] := by
  obtain ⟨job, hlife⟩ := hf
  unfold toldOf
  rcases hlife.announced with heq | ⟨e, -, heq⟩ <;> simp [heq]

/-- What the loop says when it stops is about no job. -/
theorem Unfinished.concat_stop {k : Nat} {h : List Entry} (hk : Unfinished k h) :
    Unfinished k (h ++ [.told .loop .workerStopped]) := by
  obtain ⟨⟨job, hclaimed⟩, hnot⟩ := hk
  refine ⟨⟨job, List.mem_append_left _ hclaimed⟩, ?_⟩
  rintro ⟨job', hlife⟩
  exact hnot ⟨job', by simpa [about, Entry.ticket?] using hlife⟩

section Stop

variable {s : State}

/-- What is told of a claimed job: nothing yet, its start, or its start and its end. -/
theorem Sound.started (h : Sound s) {k : Nat} {job : Job} (hclaimed : .claimed k job ∈ s.history) :
    toldOf k s.history = [] ∨ toldOf k s.history = [.jobStarted job.id job.kind] ∨
      ∃ e, Ends job e ∧ toldOf k s.history = [.jobStarted job.id job.kind, e] ∧
        Finished k s.history := by
  obtain ⟨job', hstanding, honce⟩ := h.standing (h.orderly.bounded _ hclaimed k rfl)
  obtain rfl := (honce job).1 hclaimed
  obtain ⟨stage, hlife⟩ := hstanding.life
  have htold : Announced job stage (toldOf k s.history) := hlife.announced
  match stage, hlife, htold with
  | some .claimed, _, htold => exact Or.inl htold
  | some .handling, _, htold => exact Or.inr (Or.inl htold)
  | some (.reporting _), _, htold => exact Or.inr (Or.inl htold)
  | none, hlife, Or.inl htold => exact Or.inr (Or.inl htold)
  | none, hlife, Or.inr ⟨e, hends, htold⟩ => exact Or.inr (Or.inr ⟨e, hends, htold, job, hlife⟩)

/-- When the stop is told, nothing is unfinished. -/
theorem Sound.settled (h : Sound s) (hframed : Framed s) {pre post : List Entry}
    (hhistory : s.history = pre ++ .told .loop .workerStopped :: post) :
    s.phase = .stopped ∧ post = [] ∧ ∀ k, ¬ Unfinished k pre := by
  obtain ⟨hstopped, rfl⟩ := hframed.stop_last hhistory
  have hb := h.batched
  rw [Batched, hstopped] at hb
  refine ⟨hstopped, rfl, fun k hk => ?_⟩
  refine h.finished_of_empty (by simp [hstopped]) hb k ?_
  rw [hhistory]
  exact hk.concat_stop

end Stop

/-- **A worker keeps to its batches**, in every regular run: whatever the database answers, however
many jobs it grants, and whenever the worker is asked to stop. -/
theorem run_disciplined (settings : WorkerSettings) (hs : Handlers) (choices : List Choice)
    (w : World) (henabled : settings.enabled = true) (h : Regular settings hs choices w) :
    Disciplined settings hs (run settings hs choices (State.fresh w)) := by
  have hpaced := paced_run henabled h
  have hsound := sound_run (sound_fresh w) settings hs choices
  have hframed := framed_run (sound_fresh w) henabled (framed_fresh w) hs choices
  generalize run settings hs choices (State.fresh w) = s at hpaced hsound hframed
  refine ⟨hpaced.alive, hsound.orderly.granted, ?_, hpaced.batches, ?_, ?_, ?_, ?_, ?_, ?_⟩
  · intro ks hdistinct hks
    exact Nat.le_trans (hsound.length_unfinished_le hpaced.alive hdistinct hks) hpaced.fits
  · intro t kinds f hmem
    obtain ⟨hregistered, t', hstatement⟩ := hpaced.claimsFor _ hmem rfl
    cases hstatement
    exact ⟨hregistered, nodup_kinds hs, fun k => mem_kinds_iff⟩
  · exact fun k job hclaimed => hsound.started hclaimed
  · exact fun k hfinished => hfinished.heard
  · exact fun a e htold => hsound.told htold
  · exact hsound.streamed hframed
  · exact fun pre post hhistory => hsound.settled hframed hhistory

/-- The row of a job that runs for the first time. -/
def runningRow (kind : Job.Kind) (args : Json) (id : Uuid) (t : Instant) : Row :=
  [("id", .uuid id), ("kind", .text kind.word), ("state", .text Job.State.running.word),
    ("args", .jsonb args), ("output", .null), ("errors", .jsonb (.array [])), ("attempt", .int 1),
    ("max_attempts", .int 25), ("created_at", .time t), ("scheduled_at", .time t),
    ("attempted_at", .time t), ("finalized_at", .null)]

theorem complete_runningRow (kind : Job.Kind) (args : Json) (id : Uuid) (t : Instant) :
    Complete (runningRow kind args id t) :=
  ⟨⟨_, rfl⟩, ⟨_, rfl⟩, ⟨_, rfl⟩, ⟨_, rfl⟩, Or.inl rfl, ⟨_, rfl⟩, ⟨_, rfl⟩, ⟨_, rfl⟩, ⟨_, rfl⟩, ⟨_, rfl⟩,
    Or.inr ⟨_, rfl⟩, Or.inl rfl⟩

/-- A reachable database with these answers to statements. -/
def answering (replies : List Reply) : World where
  session := { link := .up, script := replies.map (⟨·, none⟩), now := ⟨0, 0⟩ }
  peer := { reachable := true }

/-- There is one job, which is completed when it is done. -/
def oneJob : World :=
  answering [.affected 0, .rows [runningRow .info (.object []) (Uuid.ofCount 1) ⟨0, 0⟩], .rows [],
    .affected 1]

/-- A handler of info jobs that is done at once. -/
def promptly : Handlers :=
  Handlers.none.register .info fun _ _ w => (.finished (.success none), w)

/-- A batch with one job, in the middle of which the worker is asked to stop. -/
def oneBatch : List Choice :=
  [.loop true, .loop true, .loop true, .loop true, .task 0, .task 0, .stop, .task 0, .loop true,
    .loop true]

theorem regular_oneBatch : Regular {} promptly oneBatch oneJob where
  rows := by
    intro row hrow
    have hrows : (run {} promptly oneBatch (State.fresh oneJob)).history.filterMap
        Entry.claimRow? = [runningRow .info (.object []) (Uuid.ofCount 1) ⟨0, 0⟩] := rfl
    rw [hrows, List.mem_singleton] at hrow
    exact hrow ▸ complete_runningRow _ _ _ _
  clock := by
    intro pre hpre
    have hnow : ∀ n ≤ oneBatch.length,
        (run {} promptly (oneBatch.take n) (State.fresh oneJob)).world.session.now = ⟨0, 0⟩ := by
      decide
    obtain ⟨t, ht⟩ : ∃ t, Queue.cutoff ⟨0, 0⟩ ({} : WorkerSettings).rescueAfter = .ok t := ⟨_, rfl⟩
    rw [List.prefix_iff_eq_take.1 hpre, hnow _ hpre.length_le, ht]
    simp

/-- It claims its one job, finishes it, and stops. -/
theorem run_disciplined_oneBatch :
    (run {} promptly oneBatch (State.fresh oneJob)).phase = .stopped ∧
      ((run {} promptly oneBatch (State.fresh oneJob)).history.filterMap Entry.claimed?).length = 1 ∧
      Disciplined {} promptly (run {} promptly oneBatch (State.fresh oneJob)) :=
  ⟨rfl, rfl, run_disciplined {} promptly oneBatch oneJob rfl regular_oneBatch⟩

end VideoProbe.Worker
