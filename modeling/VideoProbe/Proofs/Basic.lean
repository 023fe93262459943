/-!
# Facts about results and lists

What the proofs need of results, options and lists that has nothing to do with videos.
-/

/-- What a computation gives can be compared where its errors cannot. -/
theorem Except.ok_of_toOption {r : Except ε α} {a : α} (h : r.toOption = some a) : r = .ok a := by
  cases r with
  | error e => simp [Except.toOption] at h
  | ok b =>
    cases h
    rfl

/-- A computation that goes on after a result ends well exactly if both parts do. -/
theorem Except.bind_ok_iff {x : Except ε α} {f : α → Except ε β} {b : β} :
    (x >>= f) = .ok b ↔ ∃ a, x = .ok a ∧ f a = .ok b := by
  cases x <;> simp [bind, Except.bind]

/-- Of two related options one is there if the other one is. -/
theorem Option.isSome_eq_of_rel {r : α → β → Prop} {x : Option α} {y : Option β}
    (h : Option.Rel r x y) : x.isSome = y.isSome := by
  cases h <;> rfl

/-- What is related to something that is there is there as well. -/
theorem Option.exists_of_rel_some_left {R : α → β → Prop} {a : α} {o : Option β}
    (h : Option.Rel R (some a) o) : ∃ b, o = some b ∧ R a b := by
  cases h with
  | some h => exact ⟨_, rfl, h⟩

/-- The same for the other side. -/
theorem Option.exists_of_rel_some_right {R : α → β → Prop} {o : Option α} {b : β}
    (h : Option.Rel R o (some b)) : ∃ a, o = some a ∧ R a b := by
  cases h with
  | some h => exact ⟨_, rfl, h⟩

/-- A place in a list, with what is before it and behind it. -/
theorem List.split_of_getElem? {xs : List α} {i : Nat} {a : α} (h : xs[i]? = some a) :
    ∃ pre post, xs = pre ++ a :: post ∧ xs.eraseIdx i = pre ++ post ∧
      ∀ b, xs.set i b = pre ++ b :: post := by
  obtain ⟨hi, ha⟩ := List.getElem?_eq_some_iff.1 h
  refine ⟨xs.take i, xs.drop (i + 1), ?_, List.eraseIdx_eq_take_drop_succ xs i, fun b => ?_⟩
  · rw [← ha, List.getElem_cons_drop, List.take_append_drop]
  · rw [List.set_eq_take_append_cons_drop, if_pos hi]

/-- A partial change that changes nothing where it answers. -/
theorem List.eq_of_mapM {f : α → Option α} {xs ys : List α}
    (h : ∀ x ∈ xs, ∀ y, f x = some y → y = x) (hys : xs.mapM f = some ys) : ys = xs := by
  induction xs generalizing ys with
  | nil => exact (Option.some.inj hys).symm
  | cons x xs ih =>
    rw [List.mapM_cons] at hys
    obtain ⟨y, hy, hys⟩ := Option.bind_eq_some_iff.1 hys
    obtain ⟨ys', hys', hcons⟩ := Option.bind_eq_some_iff.1 hys
    obtain ⟨hx, hxs⟩ := List.forall_mem_cons.1 h
    rw [← Option.some.inj hcons, hx y hy, ih hxs hys']

/-- A partial change that answers each with itself. -/
theorem List.mapM_of_fixed {f : α → Option α} {xs : List α} (h : ∀ x ∈ xs, f x = some x) :
    xs.mapM f = some xs := by
  induction xs with
  | nil => rfl
  | cons x xs ih =>
    obtain ⟨hx, hxs⟩ := List.forall_mem_cons.1 h
    rw [List.mapM_cons, hx, ih hxs]
    rfl
