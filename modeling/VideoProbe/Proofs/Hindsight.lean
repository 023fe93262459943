import VideoProbe.Proofs.Accepting
import VideoProbe.Proofs.Depicted

/-!
# Reading in hindsight

A decoder that takes more than another one reads texts that the other one refuses.  Where what it
has made of a text is good in the end, the other one would have read it, too: a field is read once
and stays as it is, so what is good in the end was good when it was read.  That is what `Later` says
of a reading: what it ends with, if it is good, was good at the start, and is what the other reading
ends with.

One reading after another is later if both are (`Later.andThen`).  So the loops over the members and
over the items of a record are led back to their fields (`membersLoop`, `itemsLoop`), and so is the
record (`Shape.Later.read`).
-/

namespace VideoProbe.Json

/-- If one reading of a draft ends in a good one, the draft was good, and every draft that is
related to it is read to a related one. -/
def Later (P : δ → Prop) (R : δ → ε → Prop) (before : δ) (x : Reading δ)
    (y : ε → Reading ε) : Prop :=
  ∀ after rest, x = .ok (after, rest) → P after →
    P before ∧ ∀ e, R before e → ∃ e', y e = .ok (e', rest) ∧ R after e'

/-- Nothing is said of what is not read. -/
theorem later_of_error {P : δ → Prop} {R : δ → ε → Prop} {d : δ} {f : Fault} {y : ε → Reading ε} :
    Later P R d (.error f) y :=
  fun _ _ h => nomatch h

/-- What stays as it is. -/
theorem later_of_same {P : δ → Prop} {R : δ → ε → Prop} {d : δ} {rest : Octets} :
    Later P R d (.ok (d, rest)) fun e => .ok (e, rest) := by
  intro after rest' h hgood
  cases h
  exact ⟨hgood, fun e he => ⟨e, rfl, he⟩⟩

/-- Of the other reading only the related drafts are asked. -/
theorem Later.congr {P : δ → Prop} {R : δ → ε → Prop} {d : δ} {x : Reading δ}
    {y z : ε → Reading ε} (h : Later P R d x y) (hz : ∀ e, R d e → z e = y e) :
    Later P R d x z := by
  intro after rest hread hafter
  obtain ⟨hgood, hother⟩ := h after rest hread hafter
  exact ⟨hgood, fun e he => (hz e he).symm ▸ hother e he⟩

/-- Where a reading goes on from a draft, what it ends with was good all along. -/
theorem Later.andThen {P : δ → Prop} {R : δ → ε → Prop} {d : δ} {x : Reading δ} {y : ε → Reading ε}
    {f : δ → Octets → Reading δ} {g : ε → Octets → Reading ε} :
    Later P R d x y → (∀ d' s, x = .ok (d', s) → Later P R d' (f d' s) fun e => g e s) →
    Later P R d (match x with | .error e => .error e | .ok (d, s) => f d s)
      fun e => match y e with | .error e => .error e | .ok (e, s) => g e s := by
  intro h hgo after rest hread hafter
  cases x with
  | error fault => exact nomatch hread
  | ok r =>
    obtain ⟨d', s⟩ := r
    -- What comes after the draft is settled, and so the draft itself is.
    obtain ⟨hgood', hlater⟩ := hgo d' s rfl after rest hread hafter
    obtain ⟨hgood, hfirst⟩ := h d' s rfl hgood'
    refine ⟨hgood, fun e he => ?_⟩
    obtain ⟨e', he', hrel⟩ := hfirst e he
    obtain ⟨e'', he'', hrel'⟩ := hlater e' hrel
    refine ⟨e'', ?_, hrel'⟩
    dsimp only
    rw [he']
    exact he''

/-- Two fields of one name, of which the first takes more. -/
structure Field.Later (P : δ → Prop) (R : δ → ε → Prop) (f : Field δ) (g : Field ε) : Prop where
  name : f.name = g.name
  omissible : f.omissible = g.omissible
  isSet : ∀ d e, R d e → f.isSet d = g.isSet e
  read : ∀ nesting fuel s d, f.isSet d = false →
    Json.Later P R d (f.read nesting d fuel s) fun e => g.read nesting e fuel s

/-- Reading one field does not set another one. -/
def Field.Apart (f g : Field δ) : Prop :=
  ∀ nesting fuel s d d' rest, f.read nesting d fuel s = .ok (d', rest) → g.isSet d = false →
    g.isSet d' = false

/-- Two records with the same fields, of which the first takes more. -/
structure Shape.Later (P : δ → Prop) (R : δ → ε → Prop) (shape : Shape δ α)
    (other : Shape ε β) : Prop where
  fields : List.Forall₂ (Field.Later P R) shape.fields other.fields
  apart : shape.fields.Pairwise Field.Apart
  unset : ∀ f ∈ shape.fields, f.isSet shape.blank = false
  blank : R shape.blank other.blank

/-- A field that is decoded by a decoder that takes more. -/
theorem Field.later_of {P : δ → Prop} {R : δ → ε → Prop} {name : String} {omissible : Bool}
    {d : Decoder α} {d' : Decoder β} {get : δ → Option α} {get' : ε → Option β} {set : α → δ → δ}
    {set' : β → ε → ε} (hset : ∀ x y, R x y → (get x).isSome = (get' y).isSome)
    (hgood : ∀ a x, get x = none → P (set a x) → P x)
    (hread : ∀ nesting fuel s a rest x, d.read nesting fuel s = .ok (a, rest) → P (set a x) →
      ∃ b, d'.read nesting fuel s = .ok (b, rest) ∧ ∀ y, R x y → R (set a x) (set' b y)) :
    Field.Later P R (.of name d get set omissible) (.of name d' get' set' omissible) where
  name := rfl
  omissible := rfl
  isSet := hset
  read nesting fuel s x hunset := by
    intro after rest h hafter
    have hnone : get x = none := Option.isNone_iff_eq_none.1 (Option.isSome_eq_false_iff.1 hunset)
    unfold Field.of at h
    dsimp only at h
    split at h
    · rename_i a rest' hd
      cases h
      obtain ⟨b, hb, hrel⟩ := hread nesting fuel s a rest x hd hafter
      refine ⟨hgood a x hnone hafter, fun y hy => ⟨set' b y, ?_, hrel y hy⟩⟩
      unfold Field.of
      dsimp only
      rw [hb]
    · exact nomatch h

/-- Fields are apart if neither sets what the other looks at. -/
theorem Field.apart_of {name : String} {omissible : Bool} {d : Decoder α} {get : δ → Option α}
    {set : α → δ → δ} {g : Field δ} (h : ∀ a x, g.isSet (set a x) = g.isSet x) :
    Field.Apart (.of name d get set omissible) g := by
  intro nesting fuel s x x' rest hread hunset
  unfold Field.of at hread
  dsimp only at hread
  split at hread
  · cases hread
    rwa [h]
  · exact nomatch hread

namespace Shape.Later

variable {P : δ → Prop} {R : δ → ε → Prop} {shape : Shape δ α}
  {other : Shape ε β}

/-- The object form, round by round. -/
theorem membersLoop (h : shape.Later P R other) (nesting fuel rounds : Nat) (first : Bool) (d : δ)
    (s : Octets) :
    Json.Later P R d (shape.membersLoop nesting fuel rounds first d s)
      fun e => other.membersLoop nesting fuel rounds first e s := by
  induction rounds generalizing first d s with
  | zero => exact later_of_error
  | succ rounds ih =>
    unfold Shape.membersLoop
    rcases nextMember first s with f | ⟨_ | _, s⟩
    · exact later_of_error
    · exact later_of_same
    · dsimp only
      rcases readString fuel s with f | ⟨name, s⟩
      · exact later_of_error
      · dsimp only
        rcases Shape.field?_of_forall₂ (fun _ _ hfg => hfg.name) h.fields name with
          ⟨hf, hg⟩ | ⟨f, g, hf, hg, hfg⟩
        · -- A member that no field has is passed over.
          rw [hf, hg]
          dsimp only
          rcases takeColon s with f | ⟨-, s⟩
          · exact later_of_error
          · dsimp only
            rcases skipValue fuel s with f | ⟨-, s⟩
            · exact later_of_error
            · exact ih false d s
        · rw [hf, hg]
          dsimp only
          by_cases hset : f.isSet d = true
          · rw [if_pos hset]
            exact later_of_error
          · rw [if_neg hset]
            have hunset : f.isSet d = false := Bool.eq_false_iff.2 hset
            rcases takeColon s with f' | ⟨-, s⟩
            · exact later_of_error
            · dsimp only
              have hlater := (hfg.read nesting fuel s d hunset).andThen fun d' s' _ =>
                ih false d' s'
              refine hlater.congr fun e he => ?_
              exact if_neg fun hset' => hset ((hfg.isSet d e he).trans hset')

/-- The list form, field by field. -/
theorem itemsLoop (expected expected' : String) (nesting fuel : Nat) {fs : List (Field δ)}
    {gs : List (Field ε)} (h : List.Forall₂ (Field.Later P R) fs gs)
    (hapart : fs.Pairwise Field.Apart) (index : Nat) (first : Bool) (d : δ)
    (hunset : ∀ f ∈ fs, f.isSet d = false) (s : Octets) :
    Json.Later P R d (Shape.itemsLoop expected nesting fuel fs index first d s)
      fun e => Shape.itemsLoop expected' nesting fuel gs index first e s := by
  induction h generalizing index first d s with
  | nil => exact later_of_same
  | @cons f g fs gs hfg hrest ih =>
    obtain ⟨hapart_f, hapart⟩ := List.pairwise_cons.1 hapart
    obtain ⟨hunset_f, hunset⟩ := List.forall_mem_cons.1 hunset
    unfold Shape.itemsLoop
    rcases nextItem first s with f' | ⟨_ | _, s⟩
    · exact later_of_error
    · dsimp only
      rw [← hfg.omissible]
      by_cases homit : f.omissible = true
      · simp only [if_pos homit]
        exact ih hapart (index + 1) first d hunset s
      · simp only [if_neg homit]
        exact later_of_error
    · refine (hfg.read nesting fuel s d hunset_f).andThen fun d' s' hread => ?_
      -- The other fields have not been set by this one.
      have hunset' : ∀ k ∈ fs, k.isSet d' = false := fun k hk =>
        hapart_f k hk nesting fuel s d d' s' hread (hunset k hk)
      exact ih hapart (index + 1) false d' hunset' s'

end Shape.Later

/-- What is made of a good draft is made of the related one, too. -/
def Finishes (P : δ → Prop) (R : δ → ε → Prop) (a : α) (b : β) (shape : Shape δ α)
    (other : Shape ε β) : Prop :=
  ∀ d, shape.finish d = .ok a → P d ∧ ∀ e, R d e → other.finish e = .ok b

/-- The contents of either form, between their marks. -/
theorem Shape.Later.contents {P : δ → Prop} {R : δ → ε → Prop} {shape : Shape δ α}
    {other : Shape ε β} {a : α} {b : β} (hfinish : Finishes P R a b shape other) {x : Reading δ}
    {y : ε → Reading ε} {d : δ} {e : ε} (hloop : Json.Later P R d x y) (he : R d e)
    {close : UInt8} {ending : Octets → Reading Unit} {rest : Octets}
    (h : enclosed close ending (shape.finishAt x) = .ok (a, rest)) :
    enclosed close ending (other.finishAt (y e)) = .ok (b, rest) := by
  obtain ⟨s, u, hcontents, hend⟩ := contents_of_enclosed h
  obtain ⟨draft, hx, hmade⟩ := Shape.ok_of_finishAt hcontents
  obtain ⟨hgood, hother⟩ := hfinish draft hmade
  obtain ⟨draft', hy, hrel⟩ := (hloop draft s hx hgood).2 e he
  unfold enclosed Shape.finishAt
  rw [hy]
  dsimp only
  rw [hother draft' hrel]
  dsimp only
  rw [hend]

/-- **A record that is good in the end** is read by the other reader, too. -/
theorem Shape.Later.read {P : δ → Prop} {R : δ → ε → Prop} {shape : Shape δ α}
    {other : Shape ε β} (h : shape.Later P R other) {a : α} {b : β}
    (hfinish : Finishes P R a b shape other) {nesting fuel : Nat} {s rest : Octets}
    (ha : shape.decoder.read nesting fuel s = .ok (a, rest)) :
    other.decoder.read nesting fuel s = .ok (b, rest) := by
  unfold Shape.decoder at ha ⊢
  dsimp only at ha ⊢
  -- Both readers look at the first octet, and take the same of the two forms.
  rcases hs : skipBlank s with _ | ⟨c, r⟩
  · rw [hs] at ha
    exact nomatch ha
  · rw [hs] at ha
    dsimp only at ha ⊢
    by_cases hobject : c = openObject
    · rw [if_pos hobject] at ha ⊢
      cases nesting with
      | zero => exact nomatch ha
      | succ inner =>
        exact Shape.Later.contents hfinish
          (h.membersLoop inner fuel fuel true shape.blank r) h.blank ha
    · rw [if_neg hobject] at ha ⊢
      by_cases hlist : c = openList
      · rw [if_pos hlist] at ha ⊢
        cases nesting with
        | zero => exact nomatch ha
        | succ inner =>
          exact Shape.Later.contents hfinish
            (itemsLoop shape.describeList other.describeList inner fuel h.fields h.apart 0 true
              shape.blank h.unset r) h.blank ha
      · rw [if_neg hlist] at ha
        exact absurd ha (wrongType_ne_ok _ _ _ _)

/-- The same of a whole text. -/
theorem Shape.Later.ofOctets {P : δ → Prop} {R : δ → ε → Prop} {shape : Shape δ α}
    {other : Shape ε β} (h : shape.Later P R other) {a : α} {b : β}
    (hfinish : Finishes P R a b shape other) {text : Octets}
    (ha : shape.decoder.ofOctets text = .ok a) : other.decoder.ofOctets text = .ok b := by
  unfold Decoder.ofOctets at ha ⊢
  split at ha
  · exact nomatch ha
  · rename_i a' rest hread
    split at ha
    · rename_i hblank
      cases ha
      rw [h.read hfinish hread]
      dsimp only
      rw [hblank]
    · exact nomatch ha

end VideoProbe.Json
