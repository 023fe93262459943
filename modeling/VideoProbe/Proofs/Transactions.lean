import Mathlib.Data.List.Forall2
import VideoProbe.Proofs.FirstView
import VideoProbe.Proofs.Recording

/-!
# Transactions are always closed

Whatever is asked of the queue and of the admissions, one call after another, and whatever the
database answers, no call leaves a transaction open behind it.  A call hands over its statements
either one by one or as one whole transaction, and a transaction is whole if it is begun once, if
it ends with a commit that went well, with a rollback, or with the connection, and if nothing but a
rollback follows a statement that was not answered; so a commit is only ever sent over statements
that all were.

A transaction may end in five ways.  What is common to them is in its body (`Body`): ordinary
statements, each of them answered except perhaps the last.  Whether there is still a connection
after the body (`Body.kept`, `Body.cut`) then decides how it goes on.
-/

namespace VideoProbe

namespace Database

/-! ## Whole transactions -/

/-- The statement neither opens nor closes a transaction. -/
def Statement.IsOrdinary (st : Statement) : Prop :=
  st ≠ .begin ∧ st ≠ .commit ∧ st ≠ .rollback

/-- There is no transaction after the exchange: it is a commit that went well, or a rollback, or it
cost the connection. -/
def Exchange.Ends (x : Exchange) : Prop :=
  x.Succeeds .commit ∨ x.statement = .rollback ∨ x.fate = .lost

/-- The exchange is by itself: it closes no transaction, and it opens none.  (A beginning that was
not answered has opened none.) -/
def Exchange.IsSingle (x : Exchange) : Prop :=
  x.statement ≠ .commit ∧ x.statement ≠ .rollback ∧
    (x.statement = .begin → x.fate.isAnswered = false)

/-- The exchanges are one transaction, from its beginning to its end. -/
structure Whole (xs : List Exchange) : Prop where
  /-- It is opened, and no other one inside it. -/
  begins : ∃ a inner, xs = ⟨.begin, .answered a⟩ :: inner ∧ ∀ x ∈ inner, x.statement ≠ .begin
  sent : ∀ x ∈ xs, ∀ e, x.fate ≠ .unsent e
  /-- It is closed or cut off by its last statement, and not before. -/
  ends : ∃ init last, xs = init ++ [last] ∧ last.Ends ∧ ∀ x ∈ init, ¬ x.Ends
  /-- What comes before a commit was answered. -/
  commits : xs.Pairwise fun x y => y.statement = .commit → x.fate.isAnswered = true
  /-- What comes after a statement that was not answered is a rollback. -/
  stops : xs.Pairwise fun x y => x.fate.isAnswered = false → y.statement = .rollback

/-- The exchanges of one call: single statements, or one transaction. -/
inductive Closed (xs : List Exchange) : Prop
  | singly (h : ∀ x ∈ xs, x.IsSingle)
  | together (h : Whole xs)

/-- The exchanges of a call that needs a transaction: one transaction, unless it could not be
opened. -/
inductive Transacted : List Exchange → Prop
  | whole {xs : List Exchange} (h : Whole xs) : Transacted xs
  | unopened {f : Fate} (h : f.isAnswered = false) : Transacted [⟨.begin, f⟩]

/-- A transaction is closed in the end, whatever becomes of it. -/
theorem Transacted.closed {xs : List Exchange} (h : Transacted xs) : Closed xs := by
  cases h with
  | whole h => exact .together h
  | unopened h => exact .singly (by simp [Exchange.IsSingle, h])

theorem Statement.IsOrdinary.isSingle {x : Exchange} (h : x.statement.IsOrdinary) : x.IsSingle :=
  ⟨h.2.1, h.2.2, fun hb => absurd hb h.1⟩

/-- An ordinary statement ends no transaction unless the connection is lost. -/
theorem Exchange.not_ends_of_ordinary {x : Exchange} (h : x.statement.IsOrdinary)
    (hl : x.fate ≠ .lost) : ¬ x.Ends := by
  rintro (⟨hc, -⟩ | hr | hlost)
  · exact h.2.1 hc
  · exact h.2.2 hr
  · exact hl hlost

theorem Fate.ne_unsent_of_answered {f : Fate} (h : f.isAnswered = true) (e : DatabaseError) :
    f ≠ .unsent e := by
  rintro rfl
  exact absurd h (by simp [Fate.isAnswered])

/-! ## The body of a transaction -/

/-- What is handed over inside a transaction before it is closed: ordinary statements, up to the
first that is not answered; and where there is such a one, the body fails. -/
structure Body (r : Except Failure α) (ys : List Exchange) : Prop where
  ordinary : ∀ y ∈ ys, y.statement.IsOrdinary
  sent : ∀ y ∈ ys, ∀ e, y.fate ≠ .unsent e
  stops : ys.Pairwise fun x _ => x.fate.isAnswered = true
  finishes : ∀ a, r = .ok a → ∀ y ∈ ys, y.fate.isAnswered = true

namespace Body

variable {α : Type} {r : Except Failure α} {ys zs : List Exchange} {a : Answer}

/-- All but the last statement were answered. -/
theorem init_answered {init : List Exchange} {last : Exchange} (h : Body r (init ++ [last])) :
    ∀ y ∈ init, y.fate.isAnswered = true := by
  intro y hy
  have hpair := (List.pairwise_append.1 h.stops).2.2
  exact hpair y hy last (List.mem_singleton.2 rfl)

/-- Where there is a connection after the body, no statement of it was lost. -/
theorem kept (h : Body r ys) (hc : connectedAfter true ys = true) : ∀ y ∈ ys, y.fate ≠ .lost := by
  rcases List.eq_nil_or_concat ys with rfl | ⟨init, last, rfl⟩
  · simp
  · rw [List.concat_eq_append] at h hc ⊢
    intro y hy
    rcases List.mem_append.1 hy with hy | hy
    · exact Fate.not_lost_of_answered (h.init_answered y hy)
    · rw [connectedAfter_concat] at hc
      rw [List.mem_singleton.1 hy]
      intro hl
      simp [hl, Fate.keepsConnection] at hc

/-- Where there is none, its last statement was lost. -/
theorem cut (h : Body r ys) (hc : connectedAfter true ys = false) :
    ∃ init last, ys = init ++ [last] ∧ last.fate = .lost ∧
      ∀ y ∈ init, y.fate.isAnswered = true := by
  rcases List.eq_nil_or_concat ys with rfl | ⟨init, last, rfl⟩
  · simp at hc
  · rw [List.concat_eq_append] at h hc ⊢
    refine ⟨init, last, rfl, ?_, h.init_answered⟩
    rw [connectedAfter_concat] at hc
    have hsent := h.sent last (by simp)
    cases hf : last.fate with
    | lost => rfl
    | unsent e => exact absurd hf (hsent e)
    | _ => simp [hf, Fate.keepsConnection] at hc

/-- Only a rollback follows a statement of the body that was not answered, for none does. -/
theorem stops_rollback (h : Body r ys) :
    ys.Pairwise fun x y => x.fate.isAnswered = false → y.statement = .rollback :=
  h.stops.imp fun ha hn => absurd (ha.symm.trans hn) (by decide)

/-- The body opens no other transaction, so the whole is one if its end is in order. -/
theorem whole (h : Body r ys) (hzs : ∀ z ∈ zs, z.statement ≠ .begin ∧ ∀ e, z.fate ≠ .unsent e)
    (hends : ∃ init last, ys ++ zs = init ++ [last] ∧ last.Ends ∧ ∀ x ∈ init, ¬ x.Ends)
    (hstops : (ys ++ zs).Pairwise fun x y => x.fate.isAnswered = false → y.statement = .rollback) :
    Whole (⟨.begin, .answered a⟩ :: (ys ++ zs)) := by
  have hall : (⟨.begin, .answered a⟩ :: (ys ++ zs) : List Exchange).Pairwise
      fun x y => x.fate.isAnswered = false → y.statement = .rollback :=
    List.pairwise_cons.2 ⟨fun y _ hn => absurd hn (by simp [Fate.isAnswered]), hstops⟩
  constructor
  · refine ⟨a, ys ++ zs, rfl, ?_⟩
    intro x hx
    rcases List.mem_append.1 hx with hx | hx
    · exact (h.ordinary x hx).1
    · exact (hzs x hx).1
  · intro x hx e
    rcases List.mem_cons.1 hx with rfl | hx
    · simp
    · rcases List.mem_append.1 hx with hx | hx
      · exact h.sent x hx e
      · exact (hzs x hx).2 e
  · obtain ⟨init, last, heq, hlast, hinit⟩ := hends
    refine ⟨⟨.begin, .answered a⟩ :: init, last, by rw [heq]; rfl, hlast, ?_⟩
    intro x hx
    rcases List.mem_cons.1 hx with rfl | hx
    · simp [Exchange.Ends, Exchange.Succeeds]
    · exact hinit x hx
  · -- A commit is no rollback, so whatever comes before it was answered.
    refine hall.imp fun {x y} hxy hcommit => ?_
    cases hx : x.fate.isAnswered with
    | true => rfl
    | false => exact absurd (hcommit.symm.trans (hxy hx)) (by simp)
  · exact hall

/-- A body that fails and is given up: by a rollback, unless there is no connection any more. -/
theorem whole_abandoned (h : Body r ys) (hz : GivenUp (connectedAfter true ys) zs) :
    Whole (⟨.begin, .answered a⟩ :: (ys ++ zs)) := by
  generalize hc : connectedAfter true ys = c at hz
  cases hz with
  | silently =>
    -- Nothing can follow, and nothing has to: the last statement of the body took the connection
    -- with it.
    obtain ⟨init, last, rfl, hlost, hanswered⟩ := h.cut hc
    refine h.whole (by simp) ⟨init, last, by simp, Or.inr (Or.inr hlost), ?_⟩
      (by simpa using h.stops_rollback)
    intro x hx
    refine Exchange.not_ends_of_ordinary (h.ordinary x (List.mem_append_left _ hx)) ?_
    exact Fate.not_lost_of_answered (hanswered x hx)
  | byRollback f hsent =>
    refine h.whole (by simpa using hsent)
      ⟨ys, ⟨.rollback, f⟩, rfl, Or.inr (Or.inl rfl), fun x hx => ?_⟩ ?_
    · exact Exchange.not_ends_of_ordinary (h.ordinary x hx) (h.kept hc x hx)
    · exact List.pairwise_append.2 ⟨h.stops_rollback, by simp, by simp⟩

/-- There is still a connection after a body that went well. -/
theorem connected_of_ok {v : α} (h : Body (.ok v) ys) : connectedAfter true ys = true := by
  cases hc : connectedAfter true ys with
  | true => rfl
  | false =>
    obtain ⟨init, last, rfl, hlost, -⟩ := h.cut hc
    exact absurd hlost (Fate.not_lost_of_answered (h.finishes v rfl last (by simp)))

/-- A body that goes well and is committed, or given up where the commit fails. -/
theorem whole_committed {v : α} {q : Except Failure Unit} (h : Body (.ok v) ys)
    (hz : ClosedBy .commit (connectedAfter true ys) q zs) :
    Whole (⟨.begin, .answered a⟩ :: (ys ++ zs)) := by
  rw [h.connected_of_ok] at hz
  have hanswered : ∀ y ∈ ys, y.fate.isAnswered = true := h.finishes v rfl
  have hnot : ∀ y ∈ ys, ¬ y.Ends := fun y hy =>
    Exchange.not_ends_of_ordinary (h.ordinary y hy) (Fate.not_lost_of_answered (hanswered y hy))
  have hbefore : ∀ {zs : List Exchange}, ∀ y ∈ ys, ∀ z ∈ zs, y.fate.isAnswered = false →
      z.statement = .rollback :=
    fun y hy _ _ hn => absurd ((hanswered y hy).symm.trans hn) (by decide)
  cases hz with
  | succeeded b =>
    refine h.whole (by simp) ⟨ys, _, rfl, Or.inl ⟨rfl, rfl⟩, hnot⟩ ?_
    exact List.pairwise_append.2 ⟨h.stops_rollback, by simp, hbefore⟩
  | @failed f e zs hf hsent hgiven =>
    cases f with
    | answered b => simp [Fate.answer] at hf
    | unsent c => exact absurd rfl (hsent rfl c)
    | lost =>
      have hgiven : GivenUp false zs := hgiven
      cases hgiven with
      | silently =>
        refine h.whole (by simp) ⟨ys, _, rfl, Or.inr (Or.inr rfl), hnot⟩ ?_
        exact List.pairwise_append.2 ⟨h.stops_rollback, by simp, hbefore⟩
    | refused fault =>
      -- There is still a connection, so a commit that is refused does not end the transaction.
      have hgiven : GivenUp true zs := hgiven
      cases hgiven with
      | byRollback g hg =>
        refine h.whole (by simpa using hg)
          ⟨ys ++ [⟨.commit, .refused fault⟩], ⟨.rollback, g⟩, by simp, Or.inr (Or.inl rfl), ?_⟩ ?_
        · intro x hx
          rcases List.mem_append.1 hx with hx | hx
          · exact hnot x hx
          · rw [List.mem_singleton.1 hx]
            simp [Exchange.Ends, Exchange.Succeeds, Fate.isAnswered]
        · exact List.pairwise_append.2 ⟨h.stops_rollback, by simp, hbefore⟩

end Body

end Database

/-! ## Calls -/

namespace Repository

open VideoProbe.Database

/-- What can be asked of the queue, of the mappings and of the admissions. -/
inductive Call where
  | insert (job : NewJob)
  | claim (kinds : List Job.Kind)
  | complete (id : Uuid) (attempt : Int) (output : Option Json)
  | fail (id : Uuid) (attempt : Int) (message : String) (retryable : Bool)
  | rescue (olderThan : Nat)
  | get (id : Uuid)
  | counts
  | mapping (uuid : Uuid)
  | submit (args : InfoArgs)
  | status (uuid : Uuid)

namespace Call

/-- What a call answers if it does not fail. -/
def Answer : Call → Type
  | insert _ => Job
  | claim _ | get _ => Option Job
  | complete _ _ _ => Bool
  | fail _ _ _ _ => Option Job.State
  | rescue _ => Nat
  | counts => Int
  | mapping _ => Option Uuid
  | submit _ | status _ => InfoView

/-- Whether a call needs a transaction: what it changes, it changes at once. -/
def transacts : Call → Bool
  | complete _ _ _ | submit _ => true
  | _ => false

/-- What a call does. -/
def perform : (c : Call) → Operation c.Answer
  | insert job => Queue.insert job
  | claim kinds => Queue.claim kinds
  | complete id attempt output => Queue.complete id attempt output
  | fail id attempt message retryable => Queue.fail id attempt message retryable
  | rescue olderThan => Queue.rescue olderThan
  | get id => Queue.get? id
  | counts => Queue.pendingCount
  | mapping uuid => Mapping.find? uuid
  | submit args => Admission.submit args
  | status uuid => Admission.status uuid

end Call

/-- A call, and what became of it. -/
structure Performed where
  call : Call
  result : Except Failure call.Answer

/-- Calls, one after another, on one session; a call that fails does not keep the next one back. -/
def performAll : List Call → Session → List Performed × Session
  | [], s => ([], s)
  | c :: cs, s =>
    let (result, s) := c.perform.run s
    let (performed, s) := performAll cs s
    (⟨c, result⟩ :: performed, s)

/-- What one call hands over, and what it may answer then. -/
structure Settled (p : Performed) (xs : List Exchange) : Prop where
  closed : Closed xs
  transacted : p.call.transacts = true → Transacted xs
  /-- An attempt is completed if its one row was changed and the commit went well. -/
  completed : ∀ id attempt output (result : Except Failure Bool),
    p = ⟨.complete id attempt output, result⟩ →
      (result = .ok true ↔
        (∃ x ∈ xs, x.Completes id attempt output ∧ x.fate.count? = some 1) ∧
          ∃ x ∈ xs, x.Succeeds .commit)

/-! ## What each call hands over -/

/-- The body of an admission: a lookup and two insertions, up to the first that fails. -/
theorem body_of_store {args : InfoArgs} {r : Except Failure Job} {ys : List Exchange}
    (h : Admission.StoreCourse args r ys) : Body r ys := by
  cases h with
  | notLooked hrow hsent => constructor <;> simp [Statement.IsOrdinary, hsent]
  | taken hrow hid hsent => constructor <;> simp [Statement.IsOrdinary, hsent]
  | notInserted hf hrow hg hsent =>
    constructor <;> simp [Statement.IsOrdinary, hf, hsent, Fate.ne_unsent_of_answered hf]
  | notMapped hf hrow hg hk hsent =>
    have hg := (Fate.row_of_job hg).1
    constructor <;> simp [Statement.IsOrdinary, hf, hg, hsent, Fate.ne_unsent_of_answered hf,
      Fate.ne_unsent_of_answered hg]
  | stored hf hrow hg hk =>
    have hg := (Fate.row_of_job hg).1
    constructor <;> simp [Statement.IsOrdinary, hf, hg, hk, Fate.ne_unsent_of_answered hf,
      Fate.ne_unsent_of_answered hg, Fate.ne_unsent_of_answered hk]

/-- An admission is one transaction, unless it cannot even be opened. -/
theorem transacted_submit (args : InfoArgs) (s : Session) :
    ∃ r xs s', (Admission.submit args).run s = (r, s') ∧ s'.log = s.log ++ xs ∧
      Transacted xs := by
  obtain ⟨f, s1, hb⟩ := talks_begin s
  rcases f.answer_cases with ⟨a, rfl⟩ | ⟨e, he, hf⟩
  · have hconn : s1.connected = true := hb.connected
    obtain ⟨r, ys, s2, hy, hcourse⟩ := Admission.talks_store args s1 hconn
    have hbody := body_of_store hcourse
    cases r with
    | error e =>
      obtain ⟨zs, s', ht, hz⟩ := Admission.talks_abandoned args hb hy
      exact ⟨_, _, s', ht.run, ht.log, .whole (hbody.whole_abandoned hz)⟩
    | ok j =>
      obtain ⟨r, zs, s', hz, hrun, hlog, -⟩ := Admission.run_committed args hb hy
      exact ⟨_, _, s', hrun, hlog, .whole (hbody.whole_committed hz)⟩
  · rw [Fate.result_of_error he] at hb
    have ht : Talks (Admission.submit args) s _ _ s1 := hb.bind_error
    exact ⟨_, _, s1, ht.run, ht.log, .unopened hf⟩

/-- The completion of an attempt is one transaction, unless it cannot even be opened. -/
theorem transacted_complete {id : Uuid} {attempt : Int} {output : Option Json}
    {q : Except Failure Bool} {xs : List Exchange}
    (h : Queue.CompleteCourse id attempt output q xs) : Transacted xs := by
  cases h with
  | unopened hf => exact .unopened (Fate.isAnswered_of_error hf)
  | @failed a t f e zs hf hsent hz =>
    have hbody : Body (.error (.error (.database e)) : Except Failure Unit)
        [⟨.completeJob t output id attempt, f⟩] := by
      constructor <;> simp [Statement.IsOrdinary, hsent]
    exact .whole (hbody.whole_abandoned hz)
  | @answered a b t r zs hz =>
    have hbody : Body (.ok ()) [⟨.completeJob t output id attempt, .answered b⟩] := by
      constructor <;> simp [Statement.IsOrdinary, Fate.isAnswered]
    exact .whole (hbody.whole_committed hz)

/-- A call that needs no transaction completes no attempt either. -/
theorem settled_of_singly {c : Call} {result : Except Failure c.Answer} {xs : List Exchange}
    (hc : c.transacts = false) (h : ∀ x ∈ xs, x.IsSingle) : Settled ⟨c, result⟩ xs where
  closed := .singly h
  transacted ht := absurd (hc.symm.trans ht) (by decide)
  completed := by
    intro id attempt output result' heq
    have hcall : c = .complete id attempt output := congrArg Performed.call heq
    rw [hcall] at hc
    exact absurd hc (by simp [Call.transacts])

/-- A call that hands over one statement, which neither opens nor closes a transaction. -/
theorem settled_of_one {c : Call} {s s' : Session} {r : Except Failure c.Answer} {st : Statement}
    {f : Fate} (hrun : c.perform.run s = (r, s')) (hlog : s'.log = s.log ++ [⟨st, f⟩])
    (hc : c.transacts = false) (hst : st.IsOrdinary) :
    ∃ r xs s', c.perform.run s = (r, s') ∧ s'.log = s.log ++ xs ∧ Settled ⟨c, r⟩ xs := by
  have hsingle : ∀ x ∈ [(⟨st, f⟩ : Exchange)], x.IsSingle := by
    intro x hx
    rw [List.mem_singleton.1 hx]
    exact Statement.IsOrdinary.isSingle hst
  exact ⟨r, _, s', hrun, hlog, settled_of_singly hc hsingle⟩

/-- **One call** closes what it opens, from any session and whatever the database answers. -/
theorem perform_settled (c : Call) (s : Session) :
    ∃ r xs s', c.perform.run s = (r, s') ∧ s'.log = s.log ++ xs ∧ Settled ⟨c, r⟩ xs := by
  cases c with
  | insert job =>
    obtain ⟨r, id, t, f, s', hrun, hlog⟩ := Queue.run_insert s job
    exact settled_of_one hrun hlog rfl (by simp [Statement.IsOrdinary])
  | claim kinds =>
    obtain ⟨f, s', ht⟩ := Queue.talks_claim s kinds
    exact settled_of_one ht.run ht.log rfl (by simp [Statement.IsOrdinary])
  | complete id attempt output =>
    obtain ⟨r, xs, s', ht, hcourse⟩ := Queue.talks_complete s id attempt output
    have htransacted := transacted_complete hcourse
    refine ⟨r, xs, s', ht.run, ht.log, htransacted.closed, fun _ => htransacted, ?_⟩
    intro id attempt output result heq
    cases heq
    exact hcourse.ok_true_iff
  | fail id attempt message retryable =>
    obtain ⟨f, s', ht⟩ := Worker.talks_fail s id attempt message retryable
    exact settled_of_one ht.run ht.log rfl (by simp [Statement.IsOrdinary])
  | rescue olderThan =>
    cases hcut : Queue.cutoff s.now olderThan with
    | error e =>
      -- The threshold gives no point in time, and nothing is handed over.
      exact ⟨_, [], s, Queue.run_rescue_of_error hcut, by simp, settled_of_singly rfl (by simp)⟩
    | ok before =>
      obtain ⟨r, f, s', hrun, hlog, -⟩ := Queue.run_rescue_of_ok hcut
      exact settled_of_one hrun hlog rfl (by simp [Statement.IsOrdinary])
  | get id =>
    obtain ⟨f, s', ht⟩ := Queue.talks_get s id
    exact settled_of_one ht.run ht.log rfl (by simp [Statement.IsOrdinary])
  | counts =>
    obtain ⟨f, s', ht⟩ := Queue.talks_pendingCount s
    exact settled_of_one ht.run ht.log rfl (by simp [Statement.IsOrdinary])
  | mapping uuid =>
    obtain ⟨f, s', ht, -⟩ := Mapping.talks_find s uuid
    exact settled_of_one ht.run ht.log rfl (by simp [Statement.IsOrdinary])
  | submit args =>
    obtain ⟨r, xs, s', hrun, hlog, htransacted⟩ := transacted_submit args s
    refine ⟨r, xs, s', hrun, hlog, htransacted.closed, fun _ => htransacted, ?_⟩
    intro id attempt output result heq
    exact absurd (congrArg Performed.call heq) (by simp)
  | status uuid =>
    obtain ⟨r, xs, s', ht, hcourse⟩ := Admission.talks_status uuid s
    refine ⟨r, xs, s', ht.run, ht.log, settled_of_singly rfl ?_⟩
    cases hcourse <;> simp [Exchange.IsSingle]

/-- **Transactions are always closed.**  Whatever is called, one call after another, from any
session and whatever the database answers: what the calls hand over falls into one part for each of
them, and each part is of single statements or of one whole transaction. -/
theorem performAll_settled (calls : List Call) (s : Session) :
    ∃ parts : List (List Exchange),
      List.Forall₂ Settled (performAll calls s).1 parts ∧
        (performAll calls s).1.map Performed.call = calls ∧
        (performAll calls s).2.log = s.log ++ parts.flatten := by
  -- A call starts from whatever the one before it has left, so the induction is for all sessions.
  induction calls generalizing s with
  | nil => exact ⟨[], .nil, rfl, by simp [performAll]⟩
  | cons c cs ih =>
    obtain ⟨r, xs, s', hrun, hlog, hsettled⟩ := perform_settled c s
    obtain ⟨parts, hparts, hcalls, hrest⟩ := ih s'
    have hall : performAll (c :: cs) s =
        (⟨c, r⟩ :: (performAll cs s').1, (performAll cs s').2) := by
      simp only [performAll, hrun]
    rw [hall]
    refine ⟨xs :: parts, .cons hsettled hparts, by simp [hcalls], ?_⟩
    show (performAll cs s').2.log = s.log ++ (xs :: parts).flatten
    rw [hrest, hlog, List.append_assoc]
    rfl

end Repository

end VideoProbe
