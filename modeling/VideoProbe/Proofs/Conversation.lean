import VideoProbe.Database.Session

/-!
# What operations hand over

Claims about the service's traffic with the database have one form: from any session an operation
answers something, and the statements it hands over on the way, with what became of each, are so
and so.  `Talks` is that form.  An operation made of two talks what the first does and then, if
that succeeded, what the second does (`Talks.bind`, `Talks.bind_error`), so the talk of every
operation is put together from that of `send`.

A transaction is the one thing with more to it (`talks_transaction`): what follows its body depends
on how the body ends and on whether there is still a connection.
-/

namespace VideoProbe.Database

/-! ## Fates and exchanges -/

/-- The database answered, and not with an error. -/
def Fate.isAnswered : Fate → Bool
  | answered _ => true
  | _ => false

/-- How many rows a statement changed, if it was answered. -/
def Fate.count? : Fate → Option Nat
  | answered a => some a.affected
  | _ => none

/-- The first row that a statement gave. -/
def Fate.row? : Fate → Option Row
  | answered a => a.rows.head?
  | _ => none

/-- A statement is answered, or it fails and is not. -/
theorem Fate.answer_cases (f : Fate) :
    (∃ a, f = .answered a) ∨ (∃ e, f.answer = .error e ∧ f.isAnswered = false) := by
  cases f with
  | answered a => exact Or.inl ⟨a, rfl⟩
  | unsent e => exact Or.inr ⟨e, rfl, rfl⟩
  | refused fault => exact Or.inr ⟨.server fault, rfl, rfl⟩
  | lost => exact Or.inr ⟨brokenConnection, rfl, rfl⟩

/-- An answer keeps the connection. -/
theorem Fate.keepsConnection_of_answered {f : Fate} (h : f.isAnswered = true) :
    f.keepsConnection = true := by
  cases f <;> simp_all [isAnswered, keepsConnection]

/-- The exchange is this statement, and it was answered. -/
def Exchange.Succeeds (x : Exchange) (st : Statement) : Prop :=
  x.statement = st ∧ x.fate.isAnswered = true

/-- The exchange inserts a job. -/
def Exchange.Inserts (x : Exchange) (job : NewJob) : Prop :=
  ∃ id t, x.statement = .insertJob id job t

/-- The exchange completes an attempt. -/
def Exchange.Completes (x : Exchange) (id : Uuid) (attempt : Int) (output : Option Json) : Prop :=
  ∃ t, x.statement = .completeJob t output id attempt

/-- Whether there is a connection after some exchanges, given whether there was one before. -/
def connectedAfter (before : Bool) (xs : List Exchange) : Bool :=
  match xs.getLast? with
  | none => before
  | some x => x.fate.keepsConnection

@[simp] theorem connectedAfter_nil (b : Bool) : connectedAfter b [] = b := rfl

@[simp] theorem connectedAfter_concat (b : Bool) (xs : List Exchange) (x : Exchange) :
    connectedAfter b (xs ++ [x]) = x.fate.keepsConnection := by
  simp [connectedAfter]

/-- What is left of the connection is settled step by step. -/
theorem connectedAfter_append (b : Bool) (xs ys : List Exchange) :
    connectedAfter b (xs ++ ys) = connectedAfter (connectedAfter b xs) ys := by
  unfold connectedAfter
  rw [List.getLast?_append]
  cases ys.getLast? <;> rfl

/-! ## Running operations -/

section Run

variable (s : Session)

/-- Running one operation after another. -/
theorem run_bind (op : Operation α) (f : α → Operation β) :
    (op >>= f).run s =
      match op.run s with
      | (.ok a, s') => (f a).run s'
      | (.error e, s') => (.error e, s') := by
  show (ExceptT.bind op f).run s = _
  unfold ExceptT.bind ExceptT.run ExceptT.mk
  simp only [bind, StateT.bind, ExceptT.bindCont]
  rcases op s with ⟨r, s'⟩
  cases r <;> rfl

theorem run_pure (a : α) : (pure a : Operation α).run s = (.ok a, s) := rfl

theorem run_throw (f : Failure) : (throw f : Operation α).run s = (.error f, s) := rfl

theorem run_get : (get : Operation Session).run s = (.ok s, s) := rfl

theorem run_set (s' : Session) : (set s' : Operation PUnit).run s = (.ok ⟨⟩, s') := rfl

/-- An attempt never fails; it says what has failed. -/
theorem run_attempted (op : Operation α) :
    (attempted op).run s = (.ok (op.run s).1, (op.run s).2) := rfl

end Run

/-! ## Talks -/

/-- From `s` the operation answers `r` and leaves the session as `s'`; on the way it hands over the
statements `xs`.  It wakes nobody. -/
structure Talks (op : Operation α) (s : Session) (r : Except Failure α) (xs : List Exchange)
    (s' : Session) : Prop where
  run : op.run s = (r, s')
  log : s'.log = s.log ++ xs
  woke : s'.woke = s.woke
  connected : s'.connected = connectedAfter s.connected xs

namespace Talks

variable {s s' s'' : Session} {xs ys : List Exchange}

/-- **Talking goes on**: what is said by the second comes after what was said by the first. -/
theorem bind {op : Operation α} {f : α → Operation β} {a : α} {r : Except Failure β}
    (h : Talks op s (.ok a) xs s') (h' : Talks (f a) s' r ys s'') :
    Talks (op >>= f) s r (xs ++ ys) s'' where
  run := by rw [run_bind, h.run]; exact h'.run
  log := by rw [h'.log, h.log, List.append_assoc]
  woke := h'.woke.trans h.woke
  connected := by rw [h'.connected, h.connected, connectedAfter_append]

/-- Where the first fails, the second says nothing. -/
theorem bind_error {op : Operation α} {f : α → Operation β} {e : Failure}
    (h : Talks op s (.error e) xs s') : Talks (op >>= f) s (.error e) xs s' where
  run := by rw [run_bind, h.run]
  log := h.log
  woke := h.woke
  connected := h.connected

/-- An operation that only looks at the session or computes something. -/
theorem silent {op : Operation α} {r : Except Failure α} (h : op.run s = (r, s)) :
    Talks op s r [] s where
  run := h
  log := by simp
  woke := rfl
  connected := rfl

/-- What an operation gives is looked at, and that is all. -/
theorem inspect {op : Operation α} {k : α → Operation β} {g : α → Except Failure β}
    {r : Except Failure α} (h : Talks op s r xs s') (hk : ∀ a s, (k a).run s = (g a, s)) :
    Talks (op >>= k) s (r.bind g) xs s' := by
  cases r with
  | error e => exact h.bind_error
  | ok a => exact List.append_nil xs ▸ h.bind (.silent (hk a s'))

/-- There is a connection after a statement that was answered. -/
theorem connected_of_answered {op : Operation α} {r : Except Failure α} {st : Statement}
    {f : Fate} (h : Talks op s r [⟨st, f⟩] s') (hf : f.isAnswered = true) :
    s'.connected = true :=
  h.connected.trans (Fate.keepsConnection_of_answered hf)

/-- An attempt says what the operation says. -/
theorem attempted {op : Operation α} {r : Except Failure α} (h : Talks op s r xs s') :
    Talks (Database.attempted op) s (.ok r) xs s' where
  run := by rw [run_attempted, h.run]
  log := h.log
  woke := h.woke
  connected := h.connected

end Talks

/-! ## Sending -/

/-- What a statement gives, as the answer of an operation. -/
def Fate.result (f : Fate) : Except Failure Answer :=
  match f.answer with
  | .ok a => .ok a
  | .error e => .error (.error (.database e))

theorem Session.reach_spec (s : Session) :
    (s.reach).2.log = s.log ∧ (s.reach).2.woke = s.woke ∧
      (s.reach).2.connected = (s.reach).1.isOk ∧ (s.connected = true → (s.reach).1 = .ok ()) := by
  unfold Session.reach
  -- There is a connection, or a lost one that a transaction still holds, or no way to the database,
  -- or one is made now.
  split
  · simp_all [Except.isOk, Except.toBool]
  · split
    · simp_all [Except.isOk, Except.toBool]
    · split
      · simp_all [Except.isOk, Except.toBool]
      · dsimp only
        split <;> simp_all [Except.isOk, Except.toBool]

/-- A statement that the script is asked about has been sent. -/
theorem Session.respond_ne_unsent (s : Session) (st : Statement) (e : DatabaseError) :
    (s.respond st).1 ≠ .unsent e := by
  unfold Session.respond
  split
  · simp
  · rename_i reply _ _
    cases reply <;> simp [Reply.fate]

/-- Every statement handed over is logged once, with its fate; over a connection it is sent. -/
theorem Session.handOver_spec (s : Session) (st : Statement) :
    (s.handOver st).2.log = s.log ++ [⟨st, (s.handOver st).1⟩] ∧
      (s.handOver st).2.woke = s.woke ∧
      (s.handOver st).2.connected = (s.handOver st).1.keepsConnection ∧
      (s.connected = true → ∀ e, (s.handOver st).1 ≠ .unsent e) := by
  obtain ⟨hlog, hwoke, hconn, hkeep⟩ := s.reach_spec
  unfold Session.handOver
  rcases hr : s.reach with ⟨r, s1⟩
  rw [hr] at hlog hwoke hconn hkeep
  cases r with
  | error e =>
    refine ⟨?_, hwoke, hconn, fun hc => absurd (hkeep hc) (by simp)⟩
    show s1.log ++ _ = _
    rw [hlog]
  | ok u =>
    refine ⟨?_, hwoke, rfl, fun _ => s1.respond_ne_unsent st⟩
    show s1.log ++ _ = _
    rw [hlog]

/-- To send a statement is to hand it over. -/
theorem run_send (s : Session) (st : Statement) :
    (send st).run s = ((s.handOver st).1.result, (s.handOver st).2) := by
  unfold send Fate.result
  simp only [run_bind, run_get, run_set]
  cases (s.handOver st).1.answer <;> rfl

/-- One statement is sent, and on an open connection it arrives. -/
theorem talks_send (s : Session) (st : Statement) :
    ∃ f s', Talks (send st) s f.result [⟨st, f⟩] s' ∧
      (s.connected = true → ∀ e, f ≠ .unsent e) := by
  obtain ⟨hlog, hwoke, hconn, hsent⟩ := s.handOver_spec st
  exact ⟨_, _, ⟨run_send s st, hlog, hwoke, hconn⟩, hsent⟩

theorem Fate.result_of_error {f : Fate} {e : DatabaseError} (h : f.answer = .error e) :
    f.result = .error (.error (.database e)) := by
  simp [Fate.result, h]

/-! ## Transactions -/

/-- A transaction is given up by a rollback, unless the connection is gone. -/
inductive GivenUp : (connected : Bool) → List Exchange → Prop
  | silently : GivenUp false []
  | byRollback (f : Fate) (hsent : ∀ e, f ≠ .unsent e) : GivenUp true [⟨.rollback, f⟩]

/-- A transaction is closed by a statement; where that fails, it is given up. -/
inductive ClosedBy (st : Statement) (connected : Bool) :
    Except Failure Unit → List Exchange → Prop
  | succeeded (a : Answer) : ClosedBy st connected (.ok ()) [⟨st, .answered a⟩]
  | failed {f : Fate} {e : DatabaseError} {zs : List Exchange} (h : f.answer = .error e)
      (hsent : connected = true → ∀ e, f ≠ .unsent e) (hz : GivenUp f.keepsConnection zs) :
      ClosedBy st connected (.error (.error (.database e))) (⟨st, f⟩ :: zs)

/-- A transaction begins with one statement, which opens a connection if there is none. -/
theorem talks_begin (s : Session) :
    ∃ f s', Talks beginTransaction s (f.result.map fun _ => ()) [⟨.begin, f⟩] s' := by
  obtain ⟨f, s', ht, -⟩ := talks_send s .begin
  cases hr : f.result with
  | error e =>
    rw [hr] at ht
    exact ⟨f, s', hr ▸ ht.bind_error⟩
  | ok a =>
    rw [hr] at ht
    refine ⟨f, { s' with bracket := true }, ?_⟩
    have hmod : Talks (modify fun s : Session => { s with bracket := true }) s' (.ok ⟨⟩) []
        { s' with bracket := true } := ⟨rfl, by simp, rfl, rfl⟩
    rw [hr]
    exact ht.bind hmod

/-- A transaction is abandoned without a word about it. -/
theorem talks_abandon (s : Session) :
    ∃ zs s', Talks abandonTransaction s (.ok ()) zs s' ∧ GivenUp s.connected zs := by
  have hget : Talks get s (.ok s) [] s := .silent rfl
  have hmod : ∀ s' : Session, Talks (modify fun s : Session => { s with bracket := false }) s'
      (.ok ⟨⟩) [] { s' with bracket := false } := fun s' => ⟨rfl, by simp, rfl, rfl⟩
  by_cases hc : s.connected = true
  · obtain ⟨f, s', ht, hsent⟩ := talks_send s .rollback
    refine ⟨[⟨.rollback, f⟩], { s' with bracket := false }, hget.bind ?_,
      hc ▸ .byRollback f (hsent hc)⟩
    rw [if_pos hc]
    exact ht.attempted.bind (hmod s')
  · refine ⟨[], { s with bracket := false }, hget.bind ?_, (eq_false_of_ne_true hc) ▸ .silently⟩
    rw [if_neg hc]
    exact hmod s

/-- A transaction is closed by its last statement, and given up where this one fails. -/
theorem talks_close (s : Session) (st : Statement) :
    ∃ r zs s', Talks (closeTransaction st) s r zs s' ∧ ClosedBy st s.connected r zs := by
  obtain ⟨f, s', ht, hsent⟩ := talks_send s st
  rcases f.answer_cases with ⟨a, rfl⟩ | ⟨e, he, -⟩
  · refine ⟨_, _, { s' with bracket := false }, ?_, .succeeded a⟩
    have hmod : Talks (modify fun s : Session => { s with bracket := false }) s' (.ok ⟨⟩) []
        { s' with bracket := false } := ⟨rfl, by simp, rfl, rfl⟩
    exact ht.attempted.bind hmod
  · -- Whatever becomes of the rollback, the error is that of the closing statement.
    rw [Fate.result_of_error he] at ht
    obtain ⟨zs, s'', hz, hgiven⟩ := talks_abandon s'
    have hconn : s'.connected = f.keepsConnection := ht.connected
    refine ⟨_, _, s'', ?_, .failed he hsent (hconn ▸ hgiven)⟩
    have hthrow : Talks (throw (.error (.database e)) : Operation Unit) s''
        (.error (.error (.database e))) [] s'' := .silent rfl
    exact List.append_nil zs ▸ ht.attempted.bind (hz.bind hthrow)

/-- How a transaction goes on after its body, by what the body wants and whether there is still a
connection. -/
inductive Closes (connected : Bool) :
    Except Failure (Closing α) → List Exchange → Except Failure α → Prop
  | abandoned {e : Failure} {zs : List Exchange} (h : GivenUp connected zs) :
      Closes connected (.error e) zs (.error e)
  | committed {a : α} {r : Except Failure Unit} {zs : List Exchange}
      (h : ClosedBy .commit connected r zs) :
      Closes connected (.ok (.commit a)) zs (r.map fun _ => a)
  | rolledBack {a : α} {r : Except Failure Unit} {zs : List Exchange}
      (h : ClosedBy .rollback connected r zs) :
      Closes connected (.ok (.rollback a)) zs (r.map fun _ => a)

/-- A closing statement, and then a value that was known before. -/
theorem talks_close_then (s : Session) (st : Statement) (a : α) :
    ∃ r zs s', Talks (do closeTransaction st; return a) s (r.map fun _ => a) zs s' ∧
      ClosedBy st s.connected r zs := by
  obtain ⟨r, zs, s', ht, hc⟩ := talks_close s st
  refine ⟨r, zs, s', ?_, hc⟩
  have h := ht.inspect (k := fun _ => (pure a : Operation α)) (fun _ _ => rfl)
  cases r <;> exact h

/-- What follows the body of a transaction. -/
theorem talks_closing (s : Session) (r : Except Failure (Closing α)) :
    ∃ zs r' s', Closes s.connected r zs r' ∧
      Talks (do
        match r with
        | .error f =>
          abandonTransaction
          throw f
        | .ok (.commit a) =>
          closeTransaction .commit
          return a
        | .ok (.rollback a) =>
          closeTransaction .rollback
          return a : Operation α) s r' zs s' := by
  rcases r with e | ⟨a | a⟩
  · obtain ⟨zs, s', ht, hg⟩ := talks_abandon s
    refine ⟨zs, .error e, s', .abandoned hg, ?_⟩
    exact List.append_nil zs ▸ ht.bind (.silent rfl)
  · obtain ⟨r, zs, s', ht, hc⟩ := talks_close_then s .commit a
    exact ⟨zs, _, s', .committed hc, ht⟩
  · obtain ⟨r, zs, s', ht, hc⟩ := talks_close_then s .rollback a
    exact ⟨zs, _, s', .rolledBack hc, ht⟩

/-- **A transaction.**  Either it cannot be opened, or its body is run and what follows depends on
how the body ends. -/
theorem talks_transaction {body : Operation (Closing α)}
    {P : Except Failure (Closing α) → List Exchange → Prop}
    (hbody : ∀ s, s.connected = true → ∃ r ys s', Talks body s r ys s' ∧ P r ys) (s : Session) :
    (∃ f e s', f.answer = .error e ∧
      Talks (transaction body) s (.error (.error (.database e))) [⟨.begin, f⟩] s') ∨
    (∃ a r ys zs r' s', P r ys ∧ Closes (connectedAfter true ys) r zs r' ∧
      Talks (transaction body) s r' (⟨.begin, .answered a⟩ :: (ys ++ zs)) s') := by
  obtain ⟨f, s1, hb⟩ := talks_begin s
  rcases f.answer_cases with ⟨a, rfl⟩ | ⟨e, he, -⟩
  · have hconn : s1.connected = true := hb.connected
    obtain ⟨r, ys, s2, hy, hP⟩ := hbody s1 hconn
    obtain ⟨zs, r', s3, hc, hz⟩ := talks_closing s2 r
    rw [hy.connected, hconn] at hc
    exact Or.inr ⟨a, r, ys, zs, r', s3, hP, hc, hb.bind (hy.attempted.bind hz)⟩
  · rw [Fate.result_of_error he] at hb
    exact Or.inl ⟨f, e, s1, he, hb.bind_error⟩

end VideoProbe.Database
