import VideoProbe.Proofs.Conversation

/-!
# Brackets

The statements of one transaction are a *bracket*: they follow a plan as far as they are answered,
and where the bracket is neither closed by its own last statement nor cut off with the connection,
one rollback follows.  `Bracket` says this of two lists, the statements that follow the plan and
those that come after; the lemmas give it for each way in which a transaction may go.
-/

namespace VideoProbe.Database

/-- The exchanges `main` follow a plan, and the exchanges `rest` come after. -/
structure Bracket (plan : List Statement) (main rest : List Exchange) : Prop where
  follows : main.map Exchange.statement <+: plan
  /-- A statement that is not answered is the last one. -/
  stops : ∀ x ∈ main.dropLast, x.fate.isAnswered = true
  atMostOne : rest = [] ∨ ∃ f, rest = [⟨.rollback, f⟩]
  /-- The rollback comes exactly where the bracket is open and there is a connection. -/
  givesUp : rest ≠ [] ↔
    (∃ x ∈ main, x.statement = .begin ∧ x.fate.isAnswered = true) ∧
      (¬ ∃ x ∈ main, (x.statement = .commit ∨ x.statement = .rollback) ∧
        x.fate.isAnswered = true) ∧
      ¬ ∃ x ∈ main, x.fate = .lost

/-- Exchanges that open a transaction and leave it open. -/
structure Open (xs : List Exchange) : Prop where
  answered : ∀ x ∈ xs, x.fate.isAnswered = true
  begun : ∃ x ∈ xs, x.statement = .begin
  unclosed : ∀ x ∈ xs, x.statement ≠ .commit ∧ x.statement ≠ .rollback

theorem Fate.not_lost_of_answered {f : Fate} (h : f.isAnswered = true) : f ≠ .lost := by
  rintro rfl
  exact absurd h (by decide)

/-- Giving up takes one rollback, or nothing. -/
theorem GivenUp.atMostOne {c : Bool} {zs : List Exchange} (h : GivenUp c zs) :
    zs = [] ∨ ∃ f, zs = [⟨.rollback, f⟩] := by
  cases h with
  | silently => exact Or.inl rfl
  | byRollback f _ => exact Or.inr ⟨f, rfl⟩

/-- It takes one exactly where there is still a connection. -/
theorem GivenUp.ne_nil_iff {c : Bool} {zs : List Exchange} (h : GivenUp c zs) :
    zs ≠ [] ↔ c = true := by
  cases h <;> simp

/-- A statement that was sent and not answered cost the connection or was refused. -/
theorem Fate.keepsConnection_iff {f : Fate} {e : DatabaseError} (h : f.answer = .error e)
    (hsent : ∀ e, f ≠ .unsent e) : f.keepsConnection = true ↔ f ≠ .lost := by
  cases f with
  | answered a => simp [Fate.answer] at h
  | unsent e => exact absurd rfl (hsent e)
  | refused fault => simp [Fate.keepsConnection]
  | lost => simp [Fate.keepsConnection]

theorem Fate.isAnswered_of_error {f : Fate} {e : DatabaseError} (h : f.answer = .error e) :
    f.isAnswered = false := by
  cases f with
  | answered a => simp [Fate.answer] at h
  | _ => rfl

/-- Nothing else is sent. -/
theorem GivenUp.rollback_of_mem {c : Bool} {zs : List Exchange} (h : GivenUp c zs) :
    ∀ z ∈ zs, z.statement = .rollback := by
  cases h <;> simp

/-- A transaction is closed by its closing statement and a rollback. -/
theorem ClosedBy.statement_of_mem {st : Statement} {c : Bool} {r : Except Failure Unit}
    {zs : List Exchange} (h : ClosedBy st c r zs) :
    ∀ z ∈ zs, z.statement = st ∨ z.statement = .rollback := by
  cases h with
  | succeeded a => simp
  | failed hf hsent hz =>
    intro z hmem
    rcases List.mem_cons.1 hmem with rfl | hmem
    · exact Or.inl rfl
    · exact Or.inr (hz.rollback_of_mem z hmem)

/-- A closing statement that fails did not succeed. -/
theorem ClosedBy.ok_of_succeeds {st : Statement} {c : Bool} {r : Except Failure Unit}
    {zs : List Exchange} (h : ClosedBy st c r zs) (hst : st ≠ .rollback)
    (hs : ∃ z ∈ zs, z.Succeeds st) : r = .ok () := by
  cases h with
  | succeeded a => rfl
  | failed hf hsent hz =>
    obtain ⟨z, hmem, hstz, hanswered⟩ := hs
    rcases List.mem_cons.1 hmem with rfl | hmem
    · rw [Fate.isAnswered_of_error hf] at hanswered
      exact absurd hanswered (by decide)
    · rw [hz.rollback_of_mem z hmem] at hstz
      exact absurd hstz.symm hst

namespace Open

variable {xs : List Exchange} {plan : List Statement}

/-- What is open has begun. -/
theorem begun_answered (h : Open xs) :
    ∃ x ∈ xs, x.statement = .begin ∧ x.fate.isAnswered = true := by
  obtain ⟨x, hx, hb⟩ := h.begun
  exact ⟨x, hx, hb, h.answered x hx⟩

/-- It stays open if the next statement is answered and does not close it. -/
theorem concat (h : Open xs) {x : Exchange} (hx : x.fate.isAnswered = true)
    (hc : x.statement ≠ .commit) (hr : x.statement ≠ .rollback) : Open (xs ++ [x]) where
  answered := by
    intro y hy
    rcases List.mem_append.1 hy with hy | hy
    · exact h.answered y hy
    · rw [List.mem_singleton.1 hy]; exact hx
  begun := by
    obtain ⟨y, hy, hb⟩ := h.begun
    exact ⟨y, List.mem_append_left _ hy, hb⟩
  unclosed := by
    intro y hy
    rcases List.mem_append.1 hy with hy | hy
    · exact h.unclosed y hy
    · rw [List.mem_singleton.1 hy]; exact ⟨hc, hr⟩

/-- It is opened by the answer to its first statement. -/
theorem singleton (a : Answer) : Open [⟨.begin, .answered a⟩] where
  answered := by simp [Fate.isAnswered]
  begun := by simp
  unclosed := by simp

/-- Everything was answered, and yet the transaction is given up. -/
theorem bracket_of_givenUp (h : Open xs) (hp : xs.map Exchange.statement <+: plan)
    {zs : List Exchange} (hz : GivenUp true zs) : Bracket plan xs zs where
  follows := hp
  stops x hx := h.answered x (List.dropLast_subset _ hx)
  atMostOne := hz.atMostOne
  givesUp := by
    refine ⟨fun _ => ⟨h.begun_answered, ?_, ?_⟩, fun _ => hz.ne_nil_iff.2 rfl⟩
    · rintro ⟨x, hx, hs | hs, -⟩
      · exact (h.unclosed x hx).1 hs
      · exact (h.unclosed x hx).2 hs
    · rintro ⟨x, hx, hl⟩
      exact Fate.not_lost_of_answered (h.answered x hx) hl

/-- A statement was sent and not answered. -/
theorem bracket_of_error (h : Open xs) {st : Statement} {f : Fate} {e : DatabaseError}
    (hp : xs.map Exchange.statement ++ [st] <+: plan) (hf : f.answer = .error e)
    (hsent : ∀ e, f ≠ .unsent e) {zs : List Exchange} (hz : GivenUp f.keepsConnection zs) :
    Bracket plan (xs ++ [⟨st, f⟩]) zs where
  follows := by simpa using hp
  stops x hx := h.answered x (by simpa using hx)
  atMostOne := hz.atMostOne
  givesUp := by
    -- The bracket was begun and is not closed, so a rollback follows unless this very statement
    -- cost the connection.
    rw [hz.ne_nil_iff, Fate.keepsConnection_iff hf hsent]
    constructor
    · intro hl
      refine ⟨?_, ?_, ?_⟩
      · obtain ⟨x, hx, hb⟩ := h.begun_answered
        exact ⟨x, List.mem_append_left _ hx, hb⟩
      · rintro ⟨x, hx, hs, ha⟩
        rcases List.mem_append.1 hx with hx | hx
        · rcases hs with hs | hs
          · exact (h.unclosed x hx).1 hs
          · exact (h.unclosed x hx).2 hs
        · rw [List.mem_singleton.1 hx, Fate.isAnswered_of_error hf] at ha
          exact absurd ha (by decide)
      · rintro ⟨x, hx, hlost⟩
        rcases List.mem_append.1 hx with hx | hx
        · exact Fate.not_lost_of_answered (h.answered x hx) hlost
        · rw [List.mem_singleton.1 hx] at hlost
          exact hl hlost
    · rintro ⟨-, -, hl⟩ rfl
      exact hl ⟨_, List.mem_append_right _ (List.mem_singleton.2 rfl), rfl⟩

/-- A statement was sent inside the transaction, and whatever became of it, the transaction is given
up. -/
theorem bracket_of_sent (h : Open xs) {st : Statement} {f : Fate}
    (hp : xs.map Exchange.statement ++ [st] <+: plan) (hc : st ≠ .commit) (hr : st ≠ .rollback)
    (hsent : ∀ e, f ≠ .unsent e) {zs : List Exchange} (hz : GivenUp f.keepsConnection zs) :
    Bracket plan (xs ++ [⟨st, f⟩]) zs := by
  rcases f.answer_cases with ⟨a, rfl⟩ | ⟨e, he, -⟩
  · exact (h.concat (x := ⟨st, .answered a⟩) rfl hc hr).bracket_of_givenUp (by simpa using hp) hz
  · exact h.bracket_of_error hp he hsent hz

/-- The transaction was closed as planned. -/
theorem bracket_of_closed (h : Open xs) {st : Statement} {a : Answer}
    (hst : st = .commit ∨ st = .rollback)
    (hp : xs.map Exchange.statement ++ [st] <+: plan) :
    Bracket plan (xs ++ [⟨st, .answered a⟩]) [] where
  follows := by simpa using hp
  stops x hx := h.answered x (by simpa using hx)
  atMostOne := Or.inl rfl
  givesUp := by
    refine ⟨fun hne => absurd rfl hne, fun ⟨_, hopen, _⟩ => absurd ?_ hopen⟩
    exact ⟨_, List.mem_append_right _ (List.mem_singleton.2 rfl), hst, rfl⟩

end Open

/-- The transaction could not even be opened. -/
theorem Bracket.of_unopened {plan : List Statement} {f : Fate} {e : DatabaseError}
    (hf : f.answer = .error e) (hp : [.begin] <+: plan) : Bracket plan [⟨.begin, f⟩] [] where
  follows := hp
  stops := by simp
  atMostOne := Or.inl rfl
  givesUp := by simp [Fate.isAnswered_of_error hf]

/-- A closing statement ends the bracket or is followed by a rollback. -/
theorem ClosedBy.bracket {xs : List Exchange} (h : Open xs) {plan : List Statement}
    {st : Statement} (hst : st = .commit ∨ st = .rollback)
    (hp : xs.map Exchange.statement ++ [st] <+: plan) {r : Except Failure Unit}
    {zs : List Exchange} (hc : ClosedBy st true r zs) :
    ∃ f rest, zs = ⟨st, f⟩ :: rest ∧ Bracket plan (xs ++ [⟨st, f⟩]) rest ∧
      (r = .ok () ↔ f.isAnswered = true) ∧ ∀ e, r = .error e → ∃ c, e = .error (.database c) := by
  cases hc with
  | succeeded a =>
    exact ⟨_, _, rfl, h.bracket_of_closed hst hp, by simp [Fate.isAnswered],
      by simp⟩
  | failed hf hsent hz =>
    refine ⟨_, _, rfl, h.bracket_of_error hp hf (hsent rfl) hz, ?_, ?_⟩
    · simp [Fate.isAnswered_of_error hf]
    · intro e he
      cases he
      exact ⟨_, rfl⟩

end VideoProbe.Database
