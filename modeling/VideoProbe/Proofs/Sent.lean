import VideoProbe.Proofs.FirstView
import VideoProbe.Proofs.Gate

/-!
# What is sent for a request

The statements of an admission, whatever becomes of them: besides those that open and close its
transaction there are a lookup, an insertion of one job and an insertion of one mapping, and all
that a client has a say in is the UUID of the mapping and the arguments of the job (`Sends`).

So what a request sends is known without its course (`sent_of_posted`), and so is what a question
for a status begins with (`sent_of_asked`).
-/

namespace VideoProbe

open VideoProbe.Database

namespace Admission

/-- The statements that an admission may send. -/
inductive Sends (args : InfoArgs) : Statement → Prop
  | begin : Sends args .begin
  | lookup : Sends args (.selectMapping args.uuid)
  | insertion (id : Uuid) (t : Instant) : Sends args (.insertJob id (newJob args) t)
  | mapping (id : Uuid) : Sends args (.insertMapping args.uuid id)
  | commit : Sends args .commit
  | rollback : Sends args .rollback

/-- Every course of storing sends the statements of an admission, and no others. -/
theorem StoreCourse.sends {args : InfoArgs} {r : Except Failure Job} {ys : List Exchange}
    (h : StoreCourse args r ys) : ∀ x ∈ ys, Sends args x.statement := by
  cases h <;>
    simp only [List.forall_mem_cons, List.not_mem_nil, false_imp_iff, implies_true,
      Sends.lookup, Sends.insertion, Sends.mapping, and_self]

/-- **An admission sends nothing else.** -/
theorem sends_submit (args : InfoArgs) (s : Session) :
    ∃ xs, ((submit args).run s).2.log = s.log ++ xs ∧ ∀ x ∈ xs, Sends args x.statement := by
  obtain ⟨f, s1, hb⟩ := talks_begin s
  have hclosing : ∀ st : Statement, st = .commit ∨ st = .rollback → Sends args st := by
    rintro st (rfl | rfl)
    · exact .commit
    · exact .rollback
  rcases f.answer_cases with ⟨a, rfl⟩ | ⟨e, he, -⟩
  · obtain ⟨r, ys, s2, hy, hcourse⟩ := talks_store args s1 hb.connected
    -- Only the body has statements of its own, whatever closes the transaction behind it.
    have hall : ∀ zs : List Exchange, (∀ z ∈ zs, Sends args z.statement) →
        ∀ x ∈ (⟨.begin, .answered a⟩ :: (ys ++ zs) : List Exchange), Sends args x.statement := by
      intro zs hzs x hx
      rcases List.mem_cons.1 hx with rfl | hx
      · exact .begin
      · rcases List.mem_append.1 hx with hx | hx
        · exact hcourse.sends x hx
        · exact hzs x hx
    cases r with
    | error e =>
      obtain ⟨zs, s', ht, hz⟩ := talks_abandoned args hb hy
      refine ⟨_, (congrArg (·.2.log) ht.run).trans ht.log, hall zs fun z hmem => ?_⟩
      exact hclosing _ (Or.inr (hz.rollback_of_mem z hmem))
    | ok j =>
      obtain ⟨r, zs, s', hclosed, hrun, hlog, -⟩ := run_committed args hb hy
      refine ⟨_, (congrArg (·.2.log) hrun).trans hlog, hall zs fun z hmem => ?_⟩
      exact hclosing _ (hclosed.statement_of_mem z hmem)
  · rw [Fate.result_of_error he] at hb
    have ht : Talks (submit args) s _ _ s1 := hb.bind_error
    refine ⟨_, (congrArg (·.2.log) ht.run).trans ht.log, ?_⟩
    simp only [List.forall_mem_cons, List.not_mem_nil, false_imp_iff, implies_true, and_true]
    exact .begin

end Admission

namespace Http

/-- The request to admit a job with this body. -/
structure Posted (r : Request) (body : List UInt8) : Prop where
  method : r.method = .post
  route : Route.ofPath? (pathOf r.target) = some .info
  body : r.body = body

/-- A request is answered by the handler of admissions. -/
theorem run_posted {r : Request} {body : List UInt8} (h : Posted r body) (s : Session) :
    (respond r).run s =
      (Response.ofResult ((create body).run.run s).1, ((create body).run.run s).2) := by
  have hhas : Route.info.hasMethod r.method = true := by simp [Route.hasMethod, h.method]
  have hhead : r.method ≠ .head := by simp [h.method]
  have hrun := run_respond h.route hhas s
  rw [if_neg hhead] at hrun
  rw [← h.body]
  exact hrun

/-- What is sent for a request that is accepted. -/
theorem sent_of_posted {r : Request} {body : List UInt8} (h : Posted r body) {q : InfoRequest}
    (haccept : acceptBody body = .ok q) (s : Session) :
    ∃ xs, ((respond r).run s).2.log = s.log ++ xs ∧
      ∀ x ∈ xs, Admission.Sends q.toArgs x.statement := by
  rw [run_posted h, run_create_of_ok haccept]
  exact Admission.sends_submit q.toArgs s

/-- A question for the status of the job in this segment of the path. -/
structure Asked (r : Request) (segment : String) : Prop where
  method : Route.hasMethod (.infoStatus segment) r.method = true
  route : Route.ofPath? (pathOf r.target) = some (.infoStatus segment)

/-- Asking for a status by its path is asking for the UUID in it. -/
theorem run_status {segment : String} {u : Uuid} (h : uuidOfSegment segment = .ok u) (s : Session) :
    (status segment).run.run s =
      (answerWith (fun view => .json 200 view.toJson) ((Admission.status u).run s).1,
        ((Admission.status u).run s).2) := by
  unfold status
  rw [h]
  exact run_handled (Admission.status u) _ s

/-- What is sent for a question: first the UUID is looked up, and then at most a job. -/
theorem sent_of_asked {r : Request} {segment : String} (h : Asked r segment) {u : Uuid}
    (hu : uuidOfSegment segment = .ok u) (s : Session) :
    ∃ f xs, ((respond r).run s).2.log = s.log ++ ⟨.selectMapping u, f⟩ :: xs ∧
      ∀ x ∈ xs, ∃ id, x.statement = .selectJob id := by
  obtain ⟨result, xs, s', ht, hcourse⟩ := Admission.talks_status u s
  have hlog : ((respond r).run s).2.log = s.log ++ xs := by
    rw [run_respond h.route h.method s]
    show ((status segment).run.run s).2.log = _
    rw [run_status hu, ht.run]
    exact ht.log
  rw [hlog]
  cases hcourse with
  | @unmapped f e hf => exact ⟨f, [], rfl, fun x hx => nomatch hx⟩
  | @mapped f g id hf =>
    refine ⟨f, _, rfl, fun x hx => ?_⟩
    obtain rfl := List.mem_singleton.1 hx
    exact ⟨id, rfl⟩

end Http

end VideoProbe
