import Mathlib.Data.UInt
import VideoProbe.Proofs.Recording
import VideoProbe.Proofs.Threshold

/-!
# When a failed attempt is followed by another

A failure is recorded together with the time at which it happened and the time before which the job
is not taken again.  The second is worked out from the first and from the number of the attempt, and
nothing in between can go wrong: the number is any signed word of thirty-two bits, the delay is what
it would be over whole numbers, and adding it neither leaves the calendar nor fails otherwise.
-/

namespace VideoProbe.Queue

open VideoProbe.Database

/-- Recording a failure does not crash: its answer is read off the row that the statement gives. -/
theorem state_ne_crash (f : Fate) :
    (f.result.map fun a => a.rows.head?).bind Worker.stateOfRow ≠ .error .crash := by
  rcases f.answer_cases with ⟨a, rfl⟩ | ⟨e, he, -⟩
  · show Worker.stateOfRow a.rows.head? ≠ .error .crash
    unfold Worker.stateOfRow
    split
    · simp
    · split <;> simp
  · rw [Fate.result_of_error he]
    simp [Except.map, Except.bind]

/-- What comes of the number of an attempt that failed: how long its job waits, and what is sent. -/
structure PutsOff (a : Int32) : Prop where
  /-- The delay is the one over whole numbers. -/
  delay : (Job.retryDelay a.toInt : Int) = min (max a.toInt 1 ^ 4) 3600
  shortest : 1 ≤ Job.retryDelay a.toInt
  longest : Job.retryDelay a.toInt ≤ 3600
  /-- A later attempt waits no shorter. -/
  grows : ∀ b : Int32, a ≤ b → Job.retryDelay a.toInt ≤ Job.retryDelay b.toInt
  /-- It can be added to any time but those of the last hour of the calendar. -/
  added : ∀ t : Instant, t.isCovered = true → (t.addSeconds 3600).isCovered = true →
    retryTime t a.toInt = .ok (t.addSeconds (Job.retryDelay a.toInt))
  /-- Recording the failure does not crash, and one statement is handed over for it: it has the time
  of the failure and a time of the calendar that lies exactly the delay after it. -/
  sends : ∀ (s : Session) (id : Uuid) (message : String) (retryable : Bool),
    ∃ r f s' retryAt, Talks (fail id a.toInt message retryable) s r
        [⟨.failJob id a.toInt message retryable retryAt s.now, f⟩] s' ∧
      retryAt.total = s.now.total + Job.retryDelay a.toInt * 1000000000 ∧
      retryAt.isCovered = true ∧ r ≠ .error .crash

/-- **A failed attempt is put off** by the fourth power of its number in seconds, and by an hour at
most. -/
theorem fail_putsOff (a : Int32) : PutsOff a := by
  have hword : ∀ b : Int32, b.toInt < UInt64.size := fun b => by
    have hb := b.toInt_lt
    unfold UInt64.size
    omega
  refine ⟨?delay, Job.retryDelay_pos (hword a), Job.retryDelay_le _, ?grows,
    fun t h hour => retryTime_of_covered h hour _, ?sends⟩
  case delay =>
    rw [Job.retryDelay_eq (hword a)]
    obtain ⟨n, hn⟩ := Int.eq_ofNat_of_zero_le (show 0 ≤ max a.toInt 1 by omega)
    have hpow : (Nat.pow n 4 : Int) = (n : Int) ^ 4 := Int.natCast_pow n 4
    rw [hn, Int.toNat_natCast, ← hpow]
    omega
  case grows =>
    intro b hab
    exact Job.retryDelay_mono (Int32.le_iff_toInt_le.1 hab) (hword b)
  case sends =>
    intro s id message retryable
    obtain ⟨f, s', ht⟩ := Worker.talks_fail s id a.toInt message retryable
    exact ⟨_, f, s', _, ht, Instant.total_addSeconds _ _,
      Instant.isCovered_of_shown s.shown (Job.retryDelay_le _), state_ne_crash f⟩

end VideoProbe.Queue
