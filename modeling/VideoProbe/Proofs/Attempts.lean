import VideoProbe.Proofs.Turns

/-!
# Every claimed attempt is accounted for

A worker has several attempts in hand at a time, and their handlers finish in whatever order they
like.  What the history says of one attempt is nevertheless one `Life`: it was claimed, its start
was announced, its handler was done with it once or crashed, and what the handler said was recorded
once and reported as it was recorded.

**The invariant.**  `Sound` ties the attempts in hand to the lives that are still under way and says
of all others that their lives are over.  A turn of a job prolongs the life of this job alone
(`Sound.move`), a turn of the loop begins a life or concerns none (`Sound.claim`, `Sound.pass`), and
a crash of the loop leaves every life as it is (`Sound.crash`).  So it holds of every run.
-/

namespace VideoProbe.Worker

open VideoProbe.Database

/-! ## Histories -/

/-- The entries about a claimed job. -/
def about (k : Nat) (h : List Entry) : List Entry :=
  h.filter fun e => e.ticket? == some k

/-- Left to itself, the loop claims jobs and takes stuck ones back, and tells nothing about an
attempt. -/
def Entry.Modest : Entry → Prop
  | .sent .loop x =>
    (∃ t kinds, x.statement = .claimJob t kinds) ∨ ∃ t t', x.statement = .rescueJobs t t'
  | .told .loop e => e = .workerStarted ∨ e = .workerStopped ∨ ∃ n, e = .jobsRescued n
  | _ => True

@[simp] theorem about_append (k : Nat) (h h' : List Entry) :
    about k (h ++ h') = about k h ++ about k h' := by
  simp [about]

/-- Entries about an attempt alone are all about it. -/
theorem about_eq_self {k : Nat} {es : List Entry} (h : ∀ e ∈ es, e.ticket? = some k) :
    about k es = es := by
  simp only [about, List.filter_eq_self, beq_iff_eq]
  exact h

/-- And those about others are not. -/
theorem about_eq_nil {k : Nat} {es : List Entry} (h : ∀ e ∈ es, e.ticket? ≠ some k) :
    about k es = [] := by
  simp only [about, List.filter_eq_nil_iff, beq_iff_eq]
  exact h

/-! ## The life of an attempt -/

/-- The life of a claimed job: the entries about it up to a stage, or to its end. -/
inductive Life (k : Nat) (job : Job) : Option Stage → List Entry → Prop
  | claimed : Life k job (some .claimed) [.claimed k job]
  | started {es : List Entry} (h : Life k job (some .claimed) es) :
      Life k job (some .handling) (es ++ [.told (.task k) (.jobStarted job.id job.kind)])
  | handled {es : List Entry} (h : Life k job (some .handling) es) (xs : List Exchange)
      (result : HandlerResult) :
      Life k job (some (.reporting result))
        (es ++ (xs.map (.sent (.handler k)) ++ [.handled k result]))
  | panicked {es : List Entry} (h : Life k job (some .handling) es) (xs : List Exchange) :
      Life k job none (es ++ (xs.map (.sent (.handler k)) ++ [.panicked k]))
  | reported {es : List Entry} {result : HandlerResult} {xs : List Exchange} {event : Option Event}
      (h : Life k job (some (.reporting result)) es) (hr : Reported job result xs event) :
      Life k job none (es ++ (xs.map (.sent (.task k)) ++ event.toList.map (.told (.task k))))

/-- A life begins with the claim, and no other claim is part of it. -/
theorem Life.claimed_mem_iff {k : Nat} {job : Job} {stage : Option Stage} {es : List Entry}
    (h : Life k job stage es) (k' : Nat) (job' : Job) :
    .claimed k' job' ∈ es ↔ k' = k ∧ job' = job := by
  induction h with
  | claimed => simp
  | started _ ih => simp [ih]
  | handled _ _ _ ih => simp [ih]
  | panicked _ _ ih => simp [ih]
  | reported _ _ ih => simp [ih]

/-- A turn of a job prolongs its life. -/
theorem Life.move {t : Task} {stage : Option Stage} {es es' : List Entry}
    (h : Life t.ticket t.job (some t.stage) es) (hm : Moves t es' stage) :
    Life t.ticket t.job stage (es ++ es') := by
  cases hm with
  | starts hstage =>
    rw [hstage] at h
    exact h.started
  | handled hstage xs result =>
    rw [hstage] at h
    exact h.handled xs result
  | panicked hstage xs =>
    rw [hstage] at h
    exact h.panicked xs
  | reported hstage hr =>
    rw [hstage] at h
    exact h.reported hr

/-! ## The invariant -/

/-- How many jobs a worker may have in hand in a phase. -/
def Batched (s : State) : Prop :=
  match s.phase with
  | .claiming _ claimed => s.tasks.length ≤ claimed
  | .draining => True
  | .fresh | .ready | .waiting | .stopped | .crashed => s.tasks = []

/-- What holds of a history in every run, after some number of claims. -/
structure Orderly (claims : Nat) (h : List Entry) : Prop where
  bounded : ∀ e ∈ h, ∀ k, e.ticket? = some k → k < claims
  modest : ∀ e ∈ h, e.Modest
  /-- The attempts are those that the database has granted, in the same order. -/
  granted : h.filterMap Entry.granted? = h.filterMap Entry.claimed?

/-- A history stays orderly if what comes to it has smaller tickets than are given out next, and
grants what it claims. -/
theorem Orderly.append {n n' : Nat} {h es : List Entry} (ho : Orderly n h) (hn : n ≤ n')
    (hbounded : ∀ e ∈ es, ∀ k, e.ticket? = some k → k < n') (hmodest : ∀ e ∈ es, e.Modest)
    (hgranted : es.filterMap Entry.granted? = es.filterMap Entry.claimed?) :
    Orderly n' (h ++ es) where
  bounded := by
    intro e he k hek
    rcases List.mem_append.1 he with he | he
    · exact Nat.lt_of_lt_of_le (ho.bounded e he k hek) hn
    · exact hbounded e he k hek
  modest := by
    intro e he
    rcases List.mem_append.1 he with he | he
    · exact ho.modest e he
    · exact hmodest e he
  granted := by rw [List.filterMap_append, List.filterMap_append, ho.granted, hgranted]

/-- What holds of a worker in every run. -/
structure Sound (s : State) : Prop where
  quiet : s.world.session.log = []
  batched : Batched s
  distinct : (s.tasks.map Task.ticket).Nodup
  inHand : ∀ t ∈ s.tasks, t.ticket < s.claims ∧
    Life t.ticket t.job (some t.stage) (about t.ticket s.history)
  ended : ∀ k < s.claims, (∀ t ∈ s.tasks, t.ticket ≠ k) → ∃ job,
    Life k job none (about k s.history) ∨
      (s.phase = .crashed ∧ ∃ stage, Life k job (some stage) (about k s.history))
  orderly : Orderly s.claims s.history

/-- A fresh worker has nothing in hand. -/
theorem sound_fresh (w : World) : Sound (State.fresh w) where
  quiet := rfl
  batched := rfl
  distinct := by simp [State.fresh]
  inHand := by simp [State.fresh]
  ended := by simp [State.fresh]
  orderly := ⟨by simp [State.fresh], by simp [State.fresh], rfl⟩

/-! ## What a turn does to the invariant -/

/-- What belongs to an attempt claims nothing. -/
theorem Entry.modest_of_ticket {e : Entry} {k : Nat} (h : e.ticket? = some k) : e.Modest := by
  unfold Entry.ticket? at h
  split at h <;> simp_all [Entry.Modest]

theorem Entry.granted_of_ticket {e : Entry} {k : Nat} (h : e.ticket? = some k) :
    e.granted? = none := by
  unfold Entry.ticket? at h
  split at h <;> simp_all [Entry.granted?]

/-- An entry of the loop that is about no attempt and gives none. -/
def Entry.Idle (e : Entry) : Prop :=
  e.ticket? = none ∧ e.Modest ∧ e.granted? = none ∧ e.claimed? = none

theorem idle_told {e : Event} (h : (Entry.told .loop e).Modest) :
    ∀ x ∈ [Entry.told .loop e], x.Idle := by
  intro x hx
  rw [List.mem_singleton.1 hx]
  exact ⟨rfl, h, rfl, rfl⟩

/-- Looking for stuck jobs concerns no attempt. -/
theorem Entry.Rescues.idle {e : Entry} (h : e.Rescues) : e.Idle := by
  rcases h with ⟨⟨st, f⟩, t, t', rfl, hst⟩ | ⟨n, rfl⟩
  · cases hst
    exact ⟨rfl, Or.inr ⟨t, t', rfl⟩, rfl, rfl⟩
  · exact ⟨rfl, Or.inr (Or.inr ⟨n, rfl⟩), rfl, rfl⟩

/-- A statement of the loop itself belongs to no attempt. -/
theorem ClaimsFor.modest {hs : Handlers} {x : Exchange} (h : ClaimsFor hs x) :
    (Entry.sent .loop x).Modest := by
  obtain ⟨t, ht⟩ := h.statement
  exact Or.inl ⟨t, hs.kinds, ht⟩

/-- So is a claim that gives no job. -/
theorem ClaimsFor.idle {hs : Handlers} {x : Exchange} (h : ClaimsFor hs x)
    (hnone : (Entry.sent .loop x).granted? = none) : ∀ e ∈ [Entry.sent .loop x], e.Idle := by
  intro e he
  rw [List.mem_singleton.1 he]
  exact ⟨rfl, h.modest, hnone, rfl⟩

/-- A row that breaks the schema gives no job. -/
theorem ClaimsFor.granted_of_crash {hs : Handlers} {x : Exchange} {row : Row} (h : ClaimsFor hs x)
    (hrow : x.fate.row? = some row) (hcrash : jobOfRow row = .error .crash) :
    (Entry.sent .loop x).granted? = none := by
  obtain ⟨t, ht⟩ := h.statement
  obtain ⟨st, f⟩ := x
  cases ht
  have hrow' : f.row? = some row := hrow
  simp [Entry.granted?, hrow', hcrash, Except.toOption]

section Moves

variable {s s' : State} {es : List Entry} {tasks : List Task} {phase : Phase}

variable {pre post : List Task} {t : Task}

/-- How many jobs are in hand fits the phase, if it would have fitted it before. -/
theorem Leads.batched {claims : Nat} (hl : Leads s s' es tasks claims phase)
    (h : Batched { s with phase, tasks }) : Batched s' := by
  unfold Batched at h ⊢
  rw [hl.phase, hl.tasks]
  exact h

/-- Outside a batch nothing is in hand. -/
theorem Batched.empty (hb : Batched s)
    (hphase : s.phase = .fresh ∨ s.phase = .ready ∨ s.phase = .waiting) : s.tasks = [] := by
  unfold Batched at hb
  rcases hphase with hp | hp | hp <;> (rw [hp] at hb; exact hb)

/-- In a batch no more is in hand than it has claimed. -/
theorem Batched.length_le (hb : Batched s) {left claimed : Nat}
    (hphase : s.phase = .claiming left claimed) : s.tasks.length ≤ claimed := by
  unfold Batched at hb
  rw [hphase] at hb
  exact hb

/-- A batch may shrink while something is in hand. -/
theorem Batched.shrink (hb : Batched s) (ht : t ∈ s.tasks)
    (hlength : tasks.length ≤ s.tasks.length) : Batched { s with tasks } := by
  unfold Batched at hb ⊢
  dsimp only
  split at hb
  · exact Nat.le_trans hlength hb
  · trivial
  -- In every other phase nothing is in hand, so there is no such attempt.
  all_goals exact absurd hb (List.ne_nil_of_mem ht)

/-- After a batch that has claimed nothing there is nothing in hand. -/
theorem batched_afterBatch {claimed : Nat} (hlength : s.tasks.length ≤ claimed) :
    Batched { s with phase := afterBatch claimed } := by
  unfold Batched afterBatch
  by_cases hclaimed : claimed = 0
  · simp only [hclaimed, if_true]
    exact List.length_eq_zero_iff.1 (by omega)
  · simp only [hclaimed, if_false]

/-- The other attempts in hand have other tickets. -/
theorem Sound.others (h : Sound s) (hbefore : s.tasks = pre ++ t :: post) :
    ∀ t' ∈ pre ++ post, t' ∈ s.tasks ∧ t'.ticket ≠ t.ticket := by
  have hdistinct := h.distinct
  rw [hbefore, List.map_append, List.map_cons, List.nodup_append] at hdistinct
  obtain ⟨-, hpost, hne⟩ := hdistinct
  rw [List.nodup_cons] at hpost
  intro t' ht'
  rw [hbefore]
  rcases List.mem_append.1 ht' with ht' | ht'
  · exact ⟨List.mem_append_left _ ht', hne _ (List.mem_map_of_mem ht') _ List.mem_cons_self⟩
  · refine ⟨List.mem_append_right _ (List.mem_cons_of_mem _ ht'), fun heq => hpost.1 ?_⟩
    rw [← heq]
    exact List.mem_map_of_mem ht'

/-- An attempt comes further or to its end. -/
theorem Sound.move (h : Sound s) {stage : Option Stage} (hbefore : s.tasks = pre ++ t :: post)
    (hm : Moves t es stage) (hl : Leads s s' es (moved pre t stage post) s.claims s.phase) :
    Sound s' := by
  have ht : t ∈ s.tasks := by simp [hbefore]
  have hothers := h.others hbefore
  have hes := hm.belongs
  have hlife := (h.inHand t ht).2.move hm
  -- What is said about the other attempts stays the same.
  have hsame : ∀ k, k ≠ t.ticket → about k s'.history = about k s.history := by
    intro k hk
    have hnil : about k es = [] := about_eq_nil fun e he hek => by
      rw [(hes e he).1] at hek
      exact hk (Option.some.inj hek).symm
    rw [hl.history, about_append, hnil, List.append_nil]
  have hown : about t.ticket s'.history = about t.ticket s.history ++ es := by
    rw [hl.history, about_append, about_eq_self fun e he => (hes e he).1]
  constructor
  · exact hl.quiet
  · exact hl.batched (h.batched.shrink ht (hbefore ▸ length_moved_le pre t stage post))
  · have hd := h.distinct
    rw [hbefore] at hd
    rw [hl.tasks]
    cases stage with
    | none => exact hd.sublist (by simp [moved])
    | some stage => simpa [moved] using hd
  · intro t' ht'
    rw [hl.claims]
    rw [hl.tasks, mem_moved] at ht'
    rcases ht' with ht' | ⟨st, rfl, rfl⟩
    · obtain ⟨hmem, hticket⟩ := hothers t' ht'
      rw [hsame _ hticket]
      exact h.inHand t' hmem
    · exact ⟨(h.inHand t ht).1, hown ▸ hlife⟩
  · intro k hk hno
    simp only [hl.tasks, mem_moved] at hno
    rw [hl.claims] at hk
    rw [hl.phase]
    by_cases hkt : k = t.ticket
    · subst hkt
      cases stage with
      | none => exact ⟨t.job, Or.inl (hown ▸ hlife)⟩
      | some st => exact absurd rfl (hno { t with stage := st } (Or.inr ⟨st, rfl, rfl⟩))
    · rw [hsame k hkt]
      refine h.ended k hk fun t' ht' htk => ?_
      rw [hbefore, List.mem_append, List.mem_cons] at ht'
      rcases ht' with ht' | rfl | ht'
      · exact hno t' (Or.inl (List.mem_append_left _ ht')) htk
      · exact hkt htk.symm
      · exact hno t' (Or.inl (List.mem_append_right _ ht')) htk
  · rw [hl.history, hl.claims]
    refine h.orderly.append (Nat.le_refl _) ?_ (fun e he => Entry.modest_of_ticket (hes e he).1) ?_
    · intro e he k hek
      rw [(hes e he).1] at hek
      cases hek
      exact (h.inHand t ht).1
    · rw [List.filterMap_eq_nil_iff.2 fun e he => Entry.granted_of_ticket (hes e he).1,
        List.filterMap_eq_nil_iff.2 fun e he => (hes e he).2]

/-- Entries of the loop are about no attempt. -/
theorem about_of_loop (hhistory : s'.history = s.history ++ es) (hes : ∀ e ∈ es, e.ticket? = none)
    (k : Nat) : about k s'.history = about k s.history := by
  have hnil : about k es = [] := about_eq_nil fun e he => by simp [hes e he]
  rw [hhistory, about_append, hnil, List.append_nil]

/-- What concerns no attempt keeps a history orderly. -/
theorem Orderly.append_idle {n : Nat} {h : List Entry} (ho : Orderly n h)
    (hes : ∀ e ∈ es, e.Idle) : Orderly n (h ++ es) := by
  refine ho.append (Nat.le_refl _) ?_ (fun e he => (hes e he).2.1) ?_
  · intro e he k hek
    rw [(hes e he).1] at hek
    simp at hek
  · rw [List.filterMap_eq_nil_iff.2 fun e he => (hes e he).2.2.1,
      List.filterMap_eq_nil_iff.2 fun e he => (hes e he).2.2.2]

/-- The loop does something that concerns no attempt. -/
theorem Sound.pass (h : Sound s) (hphase : s.phase ≠ .crashed) (hes : ∀ e ∈ es, e.Idle)
    (hl : Leads s s' es s.tasks s.claims phase) (hbatched : Batched { s with phase }) :
    Sound s' := by
  have habout := about_of_loop hl.history fun e he => (hes e he).1
  constructor
  · exact hl.quiet
  · exact hl.batched hbatched
  · rw [hl.tasks]
    exact h.distinct
  · intro t ht
    rw [hl.tasks] at ht
    rw [hl.claims, habout]
    exact h.inHand t ht
  · intro k hk hno
    rw [hl.claims] at hk
    rw [hl.tasks] at hno
    obtain ⟨job, hlife | ⟨hcrashed, -⟩⟩ := h.ended k hk hno
    · exact ⟨job, Or.inl (by rw [habout]; exact hlife)⟩
    · exact absurd hcrashed hphase
  · rw [hl.history, hl.claims]
    exact h.orderly.append_idle hes

/-- The loop crashes, and the attempts in hand are lost. -/
theorem Sound.crash (h : Sound s) (hphase : s.phase ≠ .crashed) (hes : ∀ e ∈ es, e.Idle)
    (hl : Leads s s' es [] s.claims .crashed) : Sound s' := by
  have habout := about_of_loop hl.history fun e he => (hes e he).1
  constructor
  · exact hl.quiet
  · exact hl.batched rfl
  · simp [hl.tasks]
  · simp [hl.tasks]
  · intro k hk _
    rw [hl.claims] at hk
    rw [habout]
    by_cases hin : ∃ t ∈ s.tasks, t.ticket = k
    · obtain ⟨t, ht, rfl⟩ := hin
      exact ⟨t.job, Or.inr ⟨hl.phase, t.stage, (h.inHand t ht).2⟩⟩
    · obtain ⟨job, hlife | ⟨hcrashed, -⟩⟩ := h.ended k hk fun t ht htk => hin ⟨t, ht, htk⟩
      · exact ⟨job, Or.inl hlife⟩
      · exact absurd hcrashed hphase
  · rw [hl.history, hl.claims]
    exact h.orderly.append_idle hes

/-- The loop claims a job. -/
theorem Sound.claim (h : Sound s) {x : Exchange} {job : Job} (hphase : s.phase ≠ .crashed)
    (hmodest : (Entry.sent .loop x).Modest) (hgranted : (Entry.sent .loop x).granted? = some job)
    (hl : Leads s s' [.sent .loop x, .claimed s.claims job]
      (s.tasks ++ [{ ticket := s.claims, job }]) (s.claims + 1) phase)
    (hbatched : Batched { s with phase, tasks := s.tasks ++ [{ ticket := s.claims, job }] }) :
    Sound s' := by
  have hold : ∀ k, k ≠ s.claims → about k s'.history = about k s.history := by
    intro k hk
    rw [hl.history, about_append]
    simp [about, Entry.ticket?, Ne.symm hk]
  -- Nothing is said about a ticket before it is given out.
  have hnew : about s.claims s'.history = [.claimed s.claims job] := by
    rw [hl.history, about_append, about_eq_nil fun e he hek =>
      Nat.lt_irrefl _ (h.orderly.bounded e he _ hek)]
    simp [about, Entry.ticket?]
  constructor
  · exact hl.quiet
  · exact hl.batched hbatched
  · -- All tickets in hand are below the new one.
    rw [hl.tasks, List.map_append, List.nodup_append]
    refine ⟨h.distinct, by simp, ?_⟩
    intro a ha b hb
    obtain ⟨t, ht, rfl⟩ := List.mem_map.1 ha
    have hlt := (h.inHand t ht).1
    simp at hb
    omega
  · intro t ht
    rw [hl.tasks] at ht
    rw [hl.claims]
    rcases List.mem_append.1 ht with ht | ht
    · obtain ⟨hlt, hlife⟩ := h.inHand t ht
      rw [hold _ (Nat.ne_of_lt hlt)]
      exact ⟨Nat.lt_succ_of_lt hlt, hlife⟩
    · rw [List.mem_singleton.1 ht]
      exact ⟨Nat.lt_succ_self _, by rw [hnew]; exact .claimed⟩
  · intro k hk hno
    rw [hl.tasks] at hno
    rw [hl.claims] at hk
    have hkc : k ≠ s.claims := fun hkc => hno { ticket := s.claims, job } (by simp) hkc.symm
    obtain ⟨job, hlife | ⟨hcrashed, -⟩⟩ := h.ended k (by omega)
      fun t ht => hno t (List.mem_append_left _ ht)
    · exact ⟨job, Or.inl (by rw [hold k hkc]; exact hlife)⟩
    · exact absurd hcrashed hphase
  · have hclaimed : (Entry.claimed s.claims job).granted? = none := rfl
    rw [hl.history, hl.claims]
    refine h.orderly.append (Nat.le_succ _) ?_ ?_ ?_
    · simp [Entry.ticket?]
    · simpa [Entry.Modest] using hmodest
    · simp [List.filterMap_cons, hgranted, hclaimed, Entry.claimed?]

/-- **A turn** keeps the invariant. -/
theorem sound_turn {settings : WorkerSettings} {hs : Handlers} (h : Sound s)
    (ht : Turn settings hs s s') : Sound s' := by
  have hb := h.batched
  -- A turn passes what it logs, moves one task, takes one in hand, or crashes; each has its lemma.
  cases ht with
  | waits heq => exact heq ▸ h
  | asked heq => exact heq ▸ ⟨h.quiet, h.batched, h.distinct, h.inHand, h.ended, h.orderly⟩
  | works hbefore hm hl => exact h.move hbefore hm hl
  | starts hphase _ hl =>
    exact h.pass (by simp [hphase]) (idle_told (Or.inl rfl)) hl (hb.empty (Or.inl hphase))
  | declines hphase _ hl =>
    exact h.pass (by simp [hphase]) (List.forall_mem_nil _) hl (hb.empty (Or.inl hphase))
  | halts hphase _ hl =>
    have hnot : s.phase ≠ .crashed := by rcases hphase with hp | hp <;> simp [hp]
    exact h.pass hnot (idle_told (Or.inr (Or.inl rfl))) hl (hb.empty (Or.inr hphase))
  | opens hphase _ hes hl =>
    have hempty := hb.empty (Or.inr (Or.inl hphase))
    exact h.pass (by simp [hphase]) (fun e he => (hes e he).idle) hl (by simp [Batched, hempty])
  | closes hphase _ hl =>
    exact h.pass (by simp [hphase]) (List.forall_mem_nil _) hl
      (batched_afterBatch (hb.length_le hphase))
  | misses hphase hx hnone hl =>
    exact h.pass (by simp [hphase]) (hx.idle hnone) hl (batched_afterBatch (hb.length_le hphase))
  | claims hphase hx hsome hl =>
    have hlength := hb.length_le hphase
    refine h.claim (by simp [hphase]) hx.modest hsome hl ?_
    simpa [Batched] using hlength
  | resumes hphase hl =>
    rcases hphase with hp | ⟨hp, hempty⟩
    · exact h.pass (by simp [hp]) (List.forall_mem_nil _) hl (hb.empty (Or.inr (Or.inr hp)))
    · exact h.pass (by simp [hp]) (List.forall_mem_nil _) hl hempty
  | overflows hphase _ hl => exact h.crash (by simp [hphase]) (List.forall_mem_nil _) hl
  | breaks hphase hx hrow hcrash hl =>
    exact h.crash (by simp [hphase]) (hx.idle (hx.granted_of_crash hrow hcrash)) hl

end Moves

/-- **One step** keeps the invariant, whatever comes next. -/
theorem sound_step {s : State} (h : Sound s) (settings : WorkerSettings) (hs : Handlers)
    (c : Choice) : Sound (step settings hs c s) :=
  sound_turn h (turn_of_step h.quiet settings hs c)

/-- **Every run** keeps it, by induction on what happens. -/
theorem sound_run {s : State} (h : Sound s) (settings : WorkerSettings) (hs : Handlers)
    (choices : List Choice) : Sound (run settings hs choices s) := by
  induction choices generalizing s with
  | nil => exact h
  | cons c choices ih => exact ih (sound_step h settings hs c)

/-! ## Accounts -/

/-- How an attempt stands: its life is over, or it is still in hand, or the loop has crashed in the
middle of it. -/
def Standing (s : State) (k : Nat) (job : Job) : Prop :=
  Life k job none (about k s.history) ∨
    (∃ t ∈ s.tasks, t.ticket = k ∧ t.job = job ∧ Life k job (some t.stage) (about k s.history)) ∨
    (s.phase = .crashed ∧ ∃ stage, Life k job (some stage) (about k s.history))

/-- However it stands, what is said about it is its life so far. -/
theorem Standing.life {s : State} {k : Nat} {job : Job} (h : Standing s k job) :
    ∃ stage, Life k job stage (about k s.history) := by
  rcases h with hlife | ⟨t, -, -, -, hlife⟩ | ⟨-, stage, hlife⟩ <;> exact ⟨_, hlife⟩

/-- What a history says about the attempts of a worker. -/
structure Accounted (s : State) : Prop where
  /-- The attempts are the jobs that the database has granted to the claims of the loop. -/
  granted : s.history.filterMap Entry.granted? = s.history.filterMap Entry.claimed?
  /-- The entries about an attempt are its life. -/
  lives : ∀ k job, .claimed k job ∈ s.history → Standing s k job
  /-- Nothing is said about what was never claimed. -/
  claimed : ∀ e ∈ s.history, ∀ k, e.ticket? = some k → ∃ job, .claimed k job ∈ s.history
  /-- The loop itself records nothing and reports on no attempt. -/
  modest : ∀ e ∈ s.history, e.Modest
  /-- A worker that has stopped has nothing in hand. -/
  settled : s.phase = .stopped → s.tasks = []

/-- Each ticket that was given out belongs to a job that was claimed once. -/
theorem Sound.standing {s : State} (h : Sound s) {k : Nat} (hk : k < s.claims) :
    ∃ job, Standing s k job ∧ ∀ job', .claimed k job' ∈ s.history ↔ job' = job := by
  have hstanding : ∃ job, Standing s k job := by
    by_cases hin : ∃ t ∈ s.tasks, t.ticket = k
    · obtain ⟨t, ht, rfl⟩ := hin
      exact ⟨t.job, Or.inr (Or.inl ⟨t, ht, rfl, rfl, (h.inHand t ht).2⟩)⟩
    · obtain ⟨job, hlife | hlost⟩ := h.ended k hk fun t ht htk => hin ⟨t, ht, htk⟩
      · exact ⟨job, Or.inl hlife⟩
      · exact ⟨job, Or.inr (Or.inr hlost)⟩
  obtain ⟨job, hjob⟩ := hstanding
  obtain ⟨stage, hlife⟩ := hjob.life
  refine ⟨job, hjob, fun job' => ?_⟩
  have hmem := hlife.claimed_mem_iff k job'
  simpa [about, Entry.ticket?] using hmem

/-- **Every claimed attempt is accounted for**, in every run: whatever the handlers do, whatever the
database answers, however many jobs are in hand and in whichever order they come to their end. -/
theorem run_accounted (settings : WorkerSettings) (hs : Handlers) (choices : List Choice)
    (w : World) : Accounted (run settings hs choices (State.fresh w)) := by
  have h := sound_run (sound_fresh w) settings hs choices
  generalize run settings hs choices (State.fresh w) = s at h
  refine ⟨h.orderly.granted, ?_, ?_, h.orderly.modest, ?_⟩
  · intro k job hclaimed
    obtain ⟨job', hstanding, honce⟩ := h.standing (h.orderly.bounded _ hclaimed k rfl)
    rw [(honce job).1 hclaimed]
    exact hstanding
  · intro e he k hek
    obtain ⟨job, -, honce⟩ := h.standing (h.orderly.bounded e he k hek)
    exact ⟨job, (honce job).2 rfl⟩
  · intro hphase
    have hb := h.batched
    unfold Batched at hb
    rwa [hphase] at hb

end VideoProbe.Worker
