import VideoProbe.Proofs.Bracket
import VideoProbe.Proofs.Delays
import VideoProbe.Proofs.Queue
import VideoProbe.Worker.Run

/-!
# What a worker records

When a handler is done with an attempt, the worker records what it said: a success in a transaction
of its own, a failure by one statement, and anything else not at all.  `Reported` lists what is
handed over in each case and what listeners are told; `talks_report` is that nothing else happens.
-/

namespace VideoProbe

open VideoProbe.Database

/-- **The completion of an attempt answers truly**: it says that it completed the attempt if and
only if one row was changed and the commit went well. -/
theorem Queue.CompleteCourse.ok_true_iff {id : Uuid} {attempt : Int} {output : Option Json}
    {q : Except Failure Bool} {xs : List Exchange} (h : CompleteCourse id attempt output q xs) :
    q = .ok true ↔ (∃ x ∈ xs, x.Completes id attempt output ∧ x.fate.count? = some 1) ∧
      ∃ x ∈ xs, x.Succeeds .commit := by
  cases h with
  | unopened hf => simp [Exchange.Succeeds]
  | failed hf hsent hz =>
    rcases hz.atMostOne with rfl | ⟨g, rfl⟩ <;> simp [Exchange.Succeeds]
  | answered hz =>
    cases hz with
    | succeeded c =>
      simp [Exchange.Completes, Exchange.Succeeds, Fate.count?, Fate.isAnswered, Except.map]
    | failed hk hksent hz =>
      rcases hz.atMostOne with rfl | ⟨g, rfl⟩ <;>
        simp [Exchange.Succeeds, Except.map, Fate.isAnswered_of_error hk]

namespace Worker

/-! ## A success -/

/-- The statements that record a success. -/
def completion (job : Job) (output : Option Json) (t : Instant) : List Statement :=
  [.begin, .completeJob t output job.id job.attempt, .commit]

/-- The exchanges complete this very attempt, which still owned its job, and the commit went well.
-/
def Completed (job : Job) (output : Option Json) (xs : List Exchange) : Prop :=
  (∃ x ∈ xs, x.Completes job.id job.attempt output ∧ x.fate.count? = some 1) ∧
    ∃ x ∈ xs, x.Succeeds .commit

/-- A success is recorded by one transaction, which ends early only where a statement fails. -/
structure SuccessReported (job : Job) (output : Option Json) (xs : List Exchange)
    (event : Option Event) : Prop where
  transaction : ∃ t main rest, xs = main ++ rest ∧ Bracket (completion job output t) main rest ∧
    (main.map Exchange.statement = completion job output t ∨
      ∃ x, main.getLast? = some x ∧ x.fate.isAnswered = false)
  told : ∀ e, event = some e ↔ e = .jobCompleted job.id job.kind ∧ Completed job output xs

/-- What listeners are told of an attempt that was to be completed. -/
def successEvent (job : Job) : Except Failure Bool → Option Event
  | .ok true => some (.jobCompleted job.id job.kind)
  | _ => none

theorem told_of_completed {job : Job} {output : Option Json} {xs : List Exchange}
    {q : Except Failure Bool} (h : q = .ok true ↔ Completed job output xs) (e : Event) :
    successEvent job q = some e ↔ e = .jobCompleted job.id job.kind ∧ Completed job output xs := by
  rw [← h]
  unfold successEvent
  split <;> simp_all [eq_comm]

/-- **A success is recorded** by one transaction, and listeners are told if it was. -/
theorem talks_complete (job : Job) (output : Option Json) (s : Session) :
    ∃ q xs s', Talks (Queue.complete job.id job.attempt output) s q xs s' ∧
      SuccessReported job output xs (successEvent job q) := by
  obtain ⟨q, xs, s', ht, hcourse⟩ := Queue.talks_complete s job.id job.attempt output
  refine ⟨q, xs, s', ht, ?_, told_of_completed hcourse.ok_true_iff⟩
  -- Each course of the transaction is a prefix of the plan, in which everything but its end went
  -- well.
  cases hcourse with
  | @unopened f e hf =>
    refine ⟨⟨0, 0⟩, [⟨.begin, f⟩], [], rfl, ?_, Or.inr ⟨_, rfl, Fate.isAnswered_of_error hf⟩⟩
    exact Bracket.of_unopened hf (by simp [completion])
  | @failed a t f e zs hf hsent hz =>
    refine ⟨t, [⟨.begin, .answered a⟩, _], zs, rfl, ?_,
      Or.inr ⟨_, rfl, Fate.isAnswered_of_error hf⟩⟩
    exact (Open.singleton a).bracket_of_error (by simp [completion]) hf hsent hz
  | @answered a b t r zs hz =>
    have hopen : Open [⟨.begin, .answered a⟩,
        ⟨.completeJob t output job.id job.attempt, .answered b⟩] :=
      (Open.singleton a).concat (x := ⟨.completeJob t output job.id job.attempt, .answered b⟩) rfl
        (by simp) (by simp)
    cases hz with
    | succeeded c =>
      exact ⟨t, [⟨.begin, .answered a⟩, _, ⟨.commit, .answered c⟩], [], rfl,
        hopen.bracket_of_closed (Or.inl rfl) (by simp [completion]), Or.inl rfl⟩
    | @failed k e zs hk hksent hz =>
      exact ⟨t, [⟨.begin, .answered a⟩, _, ⟨.commit, k⟩], zs, rfl,
        hopen.bracket_of_error (by simp [completion]) hk (hksent rfl) hz,
        Or.inr ⟨_, rfl, Fate.isAnswered_of_error hk⟩⟩

/-! ## A failure -/

/-- A failure is recorded by one statement, and listeners are told the state of the job in the row
that it gives, if it gives one. -/
structure FailureReported (job : Job) (message : String) (retryable : Bool) (xs : List Exchange)
    (event : Option Event) : Prop where
  statement : ∃ f failed, xs = [⟨.failJob job.id job.attempt message retryable
    (failed.addSeconds (Job.retryDelay job.attempt)) failed, f⟩]
  told : ∀ e, event = some e ↔ ∃ x ∈ xs, ∃ row word, x.fate.row? = some row ∧
    row.cell "state" = .text word ∧ e = .jobFailed job.id job.kind message (stateOfWord word)

/-- The state that a row gives. -/
def stateOfRow : Option Row → Except Failure (Option Job.State)
  | none => .ok none
  | some row =>
    match row.cell "state" with
    | .text word => .ok (some (stateOfWord word))
    | _ => .error (.error (.database unexpectedNull))

/-- A failure is recorded by one statement, which carries the time of the retry. -/
theorem talks_fail (s : Session) (id : Uuid) (attempt : Int) (message : String) (retryable : Bool) :
    ∃ f s', Talks (Queue.fail id attempt message retryable) s
        ((f.result.map fun a => a.rows.head?).bind stateOfRow)
        [⟨.failJob id attempt message retryable (s.now.addSeconds (Job.retryDelay attempt)) s.now, f⟩]
        s' := by
  obtain ⟨f, s', ht, -⟩ := talks_fetchOptional s
    (.failJob id attempt message retryable (s.now.addSeconds (Job.retryDelay attempt)) s.now)
  have hnow : Talks now s (.ok s.now) [] s := .silent rfl
  have hretry : Talks (ofExcept (Queue.retryTime s.now attempt)) s
      (.ok (s.now.addSeconds (Job.retryDelay attempt))) [] s :=
    .silent (by rw [Queue.retryTime_of_shown s.shown]; rfl)
  refine ⟨f, s', hnow.bind (hretry.bind (ht.inspect (fun o s => ?_)))⟩
  cases o with
  | none => rfl
  | some row =>
    unfold stateOfRow
    dsimp only
    cases row.cell "state" <;> rfl

/-- What listeners are told of an attempt that was to be recorded as failed. -/
def failureEvent (job : Job) (message : String) : Except Failure (Option Job.State) → Option Event
  | .ok (some state) => some (.jobFailed job.id job.kind message state)
  | _ => none

/-- A failure is told with the state that came back, and only if one did. -/
theorem failureEvent_eq_some_iff {job : Job} {message : String}
    {r : Except Failure (Option Job.State)} {e : Event} :
    failureEvent job message r = some e ↔
      ∃ state, r = .ok (some state) ∧ e = .jobFailed job.id job.kind message state := by
  unfold failureEvent
  split <;> simp_all [eq_comm]

/-- The state is the word in its column. -/
theorem stateOfRow_eq_some_iff {o : Option Row} {state : Job.State} :
    stateOfRow o = .ok (some state) ↔
      ∃ row word, o = some row ∧ row.cell "state" = .text word ∧ state = stateOfWord word := by
  cases o with
  | none => simp [stateOfRow]
  | some row => cases h : row.cell "state" <;> simp [stateOfRow, h, eq_comm]

/-- A state is given exactly where the first row has a word for one. -/
theorem state_iff {f : Fate} {state : Job.State} :
    (f.result.map fun a => a.rows.head?).bind stateOfRow = .ok (some state) ↔
      ∃ row word, f.row? = some row ∧ row.cell "state" = .text word ∧ state = stateOfWord word := by
  rcases f.answer_cases with ⟨a, rfl⟩ | ⟨e, he, hf⟩
  · exact stateOfRow_eq_some_iff
  · have hrow : f.row? = none := by cases f <;> simp_all [Fate.row?, Fate.isAnswered]
    simp [Fate.result_of_error he, Except.map, Except.bind, hrow]

/-- **A failure is recorded** by one statement, and listeners are told if it was. -/
theorem talks_failure (job : Job) (message : String) (retryable : Bool) (s : Session) :
    ∃ q xs s', Talks (Queue.fail job.id job.attempt message retryable) s q xs s' ∧
      FailureReported job message retryable xs (failureEvent job message q) := by
  obtain ⟨f, s', ht⟩ := talks_fail s job.id job.attempt message retryable
  refine ⟨_, _, s', ht, ⟨f, s.now, rfl⟩, fun e => ?_⟩
  rw [failureEvent_eq_some_iff]
  constructor
  · rintro ⟨state, hstate, rfl⟩
    obtain ⟨row, word, hrow, hword, rfl⟩ := state_iff.1 hstate
    exact ⟨_, List.mem_singleton.2 rfl, row, word, hrow, hword, rfl⟩
  · rintro ⟨x, hx, row, word, hrow, hword, rfl⟩
    rw [List.mem_singleton.1 hx] at hrow
    exact ⟨_, state_iff.2 ⟨row, word, hrow, hword, rfl⟩, rfl⟩

/-! ## Reports -/

/-- What is handed over for a job whose handler is done, and what listeners are told. -/
def Reported (job : Job) : HandlerResult → List Exchange → Option Event → Prop
  | .success output, xs, event => SuccessReported job output xs event
  | .finalized, xs, event => xs = [] ∧ event = some (.jobCompleted job.id job.kind)
  | .superseded, xs, event => xs = [] ∧ event = none
  | .failed message, xs, event => FailureReported job message false xs event
  | .retry message, xs, event => FailureReported job message true xs event

/-- What listeners are told of a report. -/
def eventOf : Except Failure (Option Event) → Option Event
  | .ok event => event
  | .error _ => none

/-- **A failure is reported** by one statement, and listeners are told if a row came back. -/
theorem talks_reportFailure (job : Job) (message : String) (retryable : Bool) (s : Session) :
    ∃ q xs s', Talks (report.failure job message retryable) s q xs s' ∧
      FailureReported job message retryable xs (eventOf q) := by
  obtain ⟨q, xs, s', ht, hr⟩ := talks_failure job message retryable s
  have h := ht.inspect
    (k := fun state => (return state.map fun st => .jobFailed job.id job.kind message st :
      Operation (Option Event)))
    (g := fun state => .ok (state.map fun st => .jobFailed job.id job.kind message st))
    (fun _ _ => rfl)
  refine ⟨_, xs, s', h, ?_⟩
  rcases q with e | ⟨_ | _⟩ <;> exact hr

/-- **A report** hands over and tells what belongs to the handler's result, and nothing else. -/
theorem talks_report (job : Job) (result : HandlerResult) (s : Session) :
    ∃ q xs s', Talks (report job result) s q xs s' ∧ Reported job result xs (eventOf q) := by
  cases result with
  | success output =>
    obtain ⟨q, xs, s', ht, hr⟩ := talks_complete job output s
    have h := ht.inspect
      (k := fun owned => (return if owned then some (.jobCompleted job.id job.kind) else none :
        Operation (Option Event)))
      (g := fun owned => .ok (if owned then some (.jobCompleted job.id job.kind) else none))
      (fun _ _ => rfl)
    refine ⟨_, xs, s', h, ?_⟩
    rcases q with e | ⟨_ | _⟩ <;> exact hr
  | finalized => exact ⟨_, [], s, .silent rfl, rfl, rfl⟩
  | superseded => exact ⟨_, [], s, .silent rfl, rfl, rfl⟩
  | failed message => exact talks_reportFailure job message false s
  | retry message => exact talks_reportFailure job message true s

end Worker

end VideoProbe
