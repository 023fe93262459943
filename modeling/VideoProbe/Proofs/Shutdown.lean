import VideoProbe.Proofs.Batches

/-!
# Claims after a request to stop

A worker that is asked to stop opens no further batch.  The batch that is open is filled up all the
same: the loop looks for the request before a batch, and not between the claims of one.  So the room
that is left in the open batch bounds the claims that follow the request (`Residue`): no turn
enlarges it, and every claim takes up some of it (`dwindles_of_turn`).

The bound is met, and that makes a difference to the jobs: one that is claimed after the request is
cancelled before anything is done for it, and still its attempt counts.
-/

namespace VideoProbe.Worker

open VideoProbe.Database

/-- How many more claims the open batch allows. -/
def Phase.room : Phase → Nat
  | .claiming left _ => left
  | .fresh | .ready | .waiting | .draining | .stopped | .crashed => 0

theorem room_of_afterBatch (claimed : Nat) : (afterBatch claimed).room = 0 := by
  unfold afterBatch
  split <;> rfl

/-- What may follow a request to stop where an open batch has room for some claims: no more claims
than that, and none after one that gives no job. -/
structure Residue (room : Nat) (after : List Entry) : Prop where
  few : after.countP Entry.isClaim ≤ room
  last : ∀ pre e post, after = pre ++ e :: post → e.isClaim = true → e.granted? = none →
    post.countP Entry.isClaim = 0

/-- Nothing needs no room. -/
theorem residue_nil (room : Nat) : Residue room [] :=
  ⟨Nat.zero_le _, by simp⟩

/-- What claims nothing needs none either. -/
theorem Residue.cons_of_idle {room : Nat} {e : Entry} {after : List Entry} (h : Residue room after)
    (he : e.isClaim = false) : Residue room (e :: after) where
  few := by simpa [he] using h.few
  last := by
    intro pre e' post heq he' hnone
    cases pre with
    | nil =>
      obtain ⟨rfl, -⟩ := List.cons.inj heq
      simp [he] at he'
    | cons e'' pre => exact h.last pre e' post (List.cons.inj heq).2 he' hnone

theorem Residue.append_of_idle {room : Nat} {es after : List Entry} (h : Residue room after)
    (hes : ∀ e ∈ es, e.isClaim = false) : Residue room (es ++ after) := by
  induction es with
  | nil => exact h
  | cons e es ih =>
    exact (ih fun e' he' => hes e' (List.mem_cons_of_mem _ he')).cons_of_idle
      (hes e List.mem_cons_self)

/-- A claim takes one place, and all of them if it finds nothing. -/
theorem Residue.cons_claim {room : Nat} {e : Entry} {after : List Entry} (h : Residue room after)
    (hmiss : e.granted? = none → room = 0) : Residue (room + 1) (e :: after) where
  few := by
    have hcount := List.countP_cons (p := Entry.isClaim) (a := e) (l := after)
    have hfew := h.few
    split at hcount <;> omega
  last := by
    intro pre e' post heq he' hnone
    cases pre with
    | nil =>
      obtain ⟨rfl, rfl⟩ := List.cons.inj heq
      exact Nat.le_zero.1 (hmiss hnone ▸ h.few)
    | cons e'' pre => exact h.last pre e' post (List.cons.inj heq).2 he' hnone

theorem Residue.mono {room room' : Nat} {after : List Entry} (h : Residue room after)
    (hle : room ≤ room') : Residue room' after :=
  ⟨Nat.le_trans h.few hle, h.last⟩

section Stopping

variable {s s' : State} {settings : WorkerSettings} {hs : Handlers} {es : List Entry}
  {tasks : List Task} {claims : Nat} {phase : Phase}

/-- What a turn does after the request: what may follow it may follow the turn and what it does. -/
def Dwindles (s s' : State) : Prop :=
  ∃ es, s'.history = s.history ++ es ∧ s'.stopping = true ∧
    ∀ after, Residue s'.phase.room after → Residue s.phase.room (es ++ after)

/-- Without a claim the room gets no larger. -/
theorem dwindles_of_idle (hstopping : s.stopping = true) (hl : Leads s s' es tasks claims phase)
    (hes : ∀ e ∈ es, e.isClaim = false) (hroom : phase.room ≤ s.phase.room) : Dwindles s s' := by
  refine ⟨es, hl.history, hl.stopping.trans hstopping, fun after hafter => ?_⟩
  rw [hl.phase] at hafter
  exact (hafter.mono hroom).append_of_idle hes

/-- A claim takes up room, and one that gives no job takes up all of it. -/
theorem dwindles_of_claim (hstopping : s.stopping = true) {e : Entry}
    (hl : Leads s s' (e :: es) tasks claims phase) (hes : ∀ e ∈ es, e.isClaim = false)
    (hmiss : e.granted? = none → phase.room = 0) (hroom : phase.room + 1 ≤ s.phase.room) :
    Dwindles s s' := by
  refine ⟨e :: es, hl.history, hl.stopping.trans hstopping, fun after hafter => ?_⟩
  rw [hl.phase] at hafter
  exact ((hafter.append_of_idle hes).cons_claim hmiss).mono hroom

/-- **A turn** after the request. -/
theorem dwindles_of_turn (hstopping : s.stopping = true) (ht : Turn settings hs s s') :
    Dwindles s s' := by
  -- Only a claim may cost room, and no turn makes any: a new batch is not opened after the request.
  cases ht with
  | waits h => exact ⟨[], by simp [h], h ▸ hstopping, fun after hafter => by simpa [h] using hafter⟩
  | asked h => exact ⟨[], by simp [h], by simp [h], fun after hafter => by simpa [h] using hafter⟩
  | works _ hm hl =>
    exact dwindles_of_idle hstopping hl
      (fun e he => Entry.isClaim_of_ticket (hm.belongs e he).1) (Nat.le_refl _)
  | starts _ _ hl => exact dwindles_of_idle hstopping hl (by simp [Entry.isClaim]) (Nat.zero_le _)
  | declines _ _ hl => exact dwindles_of_idle hstopping hl (by simp) (Nat.zero_le _)
  | halts _ _ hl => exact dwindles_of_idle hstopping hl (by simp [Entry.isClaim]) (Nat.zero_le _)
  | opens _ hnot _ _ => simp [hstopping] at hnot
  | closes _ _ hl =>
    exact dwindles_of_idle hstopping hl (by simp) (by simp [room_of_afterBatch])
  | misses hphase _ _ hl =>
    refine dwindles_of_claim hstopping hl (by simp) (fun _ => room_of_afterBatch _) ?_
    rw [room_of_afterBatch, hphase]
    exact Nat.succ_le_succ (Nat.zero_le _)
  | claims hphase _ hsome hl =>
    exact dwindles_of_claim hstopping hl (by simp [Entry.isClaim]) (by simp [hsome])
      (by simp [hphase, Phase.room])
  | resumes _ hl => exact dwindles_of_idle hstopping hl (by simp) (Nat.zero_le _)
  | overflows _ _ hl => exact dwindles_of_idle hstopping hl (by simp) (Nat.zero_le _)
  | breaks hphase _ _ _ hl =>
    exact dwindles_of_claim hstopping hl (by simp) (fun _ => rfl) (by simp [hphase, Phase.room])

/-- **Every run** after the request, by induction on what happens. -/
theorem residue_run (hsound : Sound s) (hstopping : s.stopping = true) (choices : List Choice) :
    ∃ after, (run settings hs choices s).history = s.history ++ after ∧
      Residue s.phase.room after := by
  induction choices generalizing s with
  | nil => exact ⟨[], (List.append_nil _).symm, residue_nil _⟩
  | cons c choices ih =>
    obtain ⟨es, hhistory, hstopping', hresidue⟩ :=
      dwindles_of_turn hstopping (turn_of_step hsound.quiet settings hs c)
    obtain ⟨after, hafter, hrest⟩ := ih (sound_step hsound settings hs c) hstopping'
    refine ⟨es ++ after, ?_, hresidue after hrest⟩
    rw [← List.append_assoc, ← hhistory]
    exact hafter

end Stopping

/-- **A request to stop** is followed by the claims that the open batch still has room for, up to
the first that gives no job, and by no others; outside a batch, by none. -/
theorem claims_after_stop (settings : WorkerSettings) (hs : Handlers) (w : World)
    (earlier later : List Choice) :
    ∃ after, (run settings hs (.stop :: later)
        (run settings hs earlier (State.fresh w))).history =
        (run settings hs earlier (State.fresh w)).history ++ after ∧
      Residue (run settings hs earlier (State.fresh w)).phase.room after := by
  have hsound := sound_run (sound_fresh w) settings hs earlier
  generalize run settings hs earlier (State.fresh w) = s at hsound
  exact residue_run (s := step settings hs .stop s) (sound_step hsound settings hs .stop) rfl later

/-! ## A job that is taken after the request -/

/-- What a client is to be told. -/
def notification : Json :=
  .object [("uri", .str "http://127.0.0.1/hook"),
    ("uuid", .str "0190f2a4-3c1e-7b5a-9d2e-1f0a2b3c4d5e"),
    ("outcome", .object [("error", .str "no such video")])]

/-- There are two deliveries, and what fails is to be tried again. -/
def twoDeliveries : World :=
  answering [.affected 0, .rows [runningRow .webhook notification (Uuid.ofCount 1) ⟨0, 0⟩],
    .rows [runningRow .webhook notification (Uuid.ofCount 2) ⟨0, 0⟩],
    .rows [[("state", .text "retryable")]], .rows [[("state", .text "retryable")]]]

/-- A worker that delivers, two jobs at a time, after its first claim. -/
def delivering : State :=
  run (WorkerSettings.withMaxConcurrent {} 2) (Handlers.none.register .webhook webhookHandler)
    [.loop true, .loop true, .loop true] (State.fresh twoDeliveries)

/-- The same worker, asked to stop at this point, when it has stopped. -/
def delivered : State :=
  run (WorkerSettings.withMaxConcurrent {} 2) (Handlers.none.register .webhook webhookHandler)
    [.stop, .loop true, .loop true, .task 0, .task 0, .task 0, .task 0, .task 0, .task 0, .loop true,
      .loop true] delivering

/-- The second job is claimed after the request; its delivery is cancelled before it is tried, and
the attempt counts. -/
theorem claimed_after_stop :
    delivered.phase = .stopped ∧
      (delivered.history.drop delivering.history.length).countP Entry.isClaim = 1 ∧
      ((delivered.history.drop delivering.history.length).filterMap Entry.claimed?).map Job.id =
        [Uuid.ofCount 2] ∧
      toldOf 1 delivered.history = [.jobStarted (Uuid.ofCount 2) .webhook,
        .jobFailed (Uuid.ofCount 2) .webhook "Webhook delivery cancelled by worker shutdown"
          .retryable] ∧
      delivered.world.peer.seen = [] :=
  ⟨rfl, rfl, rfl, rfl, rfl⟩

end VideoProbe.Worker
