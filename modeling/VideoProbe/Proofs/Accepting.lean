import Mathlib.Data.List.Forall2
import VideoProbe.Json.Record

/-!
# What decoders accept

Two facts about the reading of records from a text.

A decoder may be *laxer* than another: it reads whatever the other one reads, takes the same octets
for it, and makes a related value of it (`Laxer`).  For records it is enough to know this of the
fields, because nothing else of a value has a say in how far its text reaches (`Shape.Laxer.read`).
So what was refused or forgotten in a field can be followed back to the text.

And a record is never null: where a value or null may stand, and something that is not null was
read, the record itself could be read, and nothing else could (`ofOctets_optional_iff`).
-/

namespace VideoProbe.Json

/-! ## Laxer decoders -/

/-- A value of the wrong type is not read. -/
theorem wrongType_ne_ok (expected : String) (fuel : Nat) (s : Octets) (r : α × Octets) :
    wrongType expected fuel s ≠ .ok r := by
  unfold wrongType
  intro h
  repeat' split at h
  all_goals exact nomatch h

/-- What one reading gives, the other one gives too, and the two are related. -/
def Laxer (R : α → β → Prop) (x : Reading α) (y : Reading β) : Prop :=
  ∀ a rest, x = .ok (a, rest) → ∃ b, y = .ok (b, rest) ∧ R a b

/-- What is not read by the first reader says nothing about the other. -/
theorem laxer_of_error {R : α → β → Prop} {f : Fault} {y : Reading β} :
    Laxer R (.error f) y :=
  fun _ _ h => nomatch h

theorem laxer_of_ok {R : α → β → Prop} {a : α} {b : β} {rest : Octets} (h : R a b) :
    Laxer R (.ok (a, rest)) (.ok (b, rest)) := by
  intro a' rest' ha
  cases ha
  exact ⟨b, rfl, h⟩

/-- Where both readings go on from what they have read, it is enough that they go on alike. -/
theorem Laxer.andThen {R : α → β → Prop} {S : γ → δ → Prop} {x : Reading α} {y : Reading β}
    {f : α → Octets → Reading γ} {g : β → Octets → Reading δ} :
    Laxer R x y → (∀ a b rest, R a b → Laxer S (f a rest) (g b rest)) →
    Laxer S (match x with | .error e => .error e | .ok (a, s) => f a s)
      (match y with | .error e => .error e | .ok (b, s) => g b s) := by
  intro h hgo
  cases x with
  | error e => exact laxer_of_error
  | ok r =>
    obtain ⟨a, rest⟩ := r
    obtain ⟨b, rfl, hab⟩ := h a rest rfl
    exact hgo a b rest hab

/-- A field that is laxer than another one of the same name. -/
structure Field.Laxer (R : δ → ε → Prop) (f : Field δ) (g : Field ε) : Prop where
  name : f.name = g.name
  omissible : f.omissible = g.omissible
  isSet : ∀ d e, R d e → f.isSet d = g.isSet e
  read : ∀ nesting fuel s d e, R d e →
    Json.Laxer R (f.read nesting d fuel s) (g.read nesting e fuel s)

/-- A record that is laxer than another one with the same fields. -/
structure Shape.Laxer (R : δ → ε → Prop) (S : α → β → Prop) (shape : Shape δ α)
    (other : Shape ε β) : Prop where
  fields : List.Forall₂ (Field.Laxer R) shape.fields other.fields
  blank : R shape.blank other.blank
  finish : ∀ d e a, R d e → shape.finish d = .ok a → ∃ b, other.finish e = .ok b ∧ S a b

/-- A field that is decoded by a laxer decoder. -/
theorem Field.laxer_of {R : δ → ε → Prop} {Q : α → β → Prop} {name : String} {omissible : Bool}
    {d : Decoder α} {d' : Decoder β} {get : δ → Option α} {get' : ε → Option β} {set : α → δ → δ}
    {set' : β → ε → ε} (hset : ∀ x y, R x y → (get x).isSome = (get' y).isSome)
    (hread : ∀ nesting fuel s, Json.Laxer Q (d.read nesting fuel s) (d'.read nesting fuel s))
    (hkeep : ∀ a b x y, Q a b → R x y → R (set a x) (set' b y)) :
    Field.Laxer R (.of name d get set omissible) (.of name d' get' set' omissible) where
  name := rfl
  omissible := rfl
  isSet := hset
  read nesting fuel s x y hxy := by
    unfold Field.of
    dsimp only
    intro x' rest h
    split at h
    · rename_i a rest' hd
      cases h
      obtain ⟨b, hb, hab⟩ := hread nesting fuel s a rest hd
      exact ⟨set' b y, by rw [hb], hkeep a b x y hab hxy⟩
    · simp at h

theorem laxer_refl (x : Reading α) : Laxer Eq x x :=
  fun a _ h => ⟨a, h, rfl⟩

/-- Where the fields of two records have the same names one by one, those of one name belong to each
other. -/
theorem Shape.field?_of_forall₂ {Q : Field δ → Field ε → Prop} {shape : Shape δ α}
    {other : Shape ε β} (hname : ∀ f g, Q f g → f.name = g.name)
    (h : List.Forall₂ Q shape.fields other.fields) (name : String) :
    (shape.field? name = none ∧ other.field? name = none) ∨
      ∃ f g, shape.field? name = some f ∧ other.field? name = some g ∧ Q f g := by
  unfold Shape.field?
  generalize shape.fields = fs, other.fields = gs at h
  induction h with
  | nil => exact Or.inl ⟨rfl, rfl⟩
  | @cons f g fs gs hfg hrest ih =>
    by_cases hf : f.name = name
    · have hg : g.name = name := hname f g hfg ▸ hf
      exact Or.inr ⟨f, g, by simp [hf], by simp [hg], hfg⟩
    · have hg : g.name ≠ name := hname f g hfg ▸ hf
      simpa [List.find?_cons, hf, hg] using ih

namespace Shape.Laxer

variable {R : δ → ε → Prop} {S : α → β → Prop} {shape : Shape δ α} {other : Shape ε β}

/-- The fields of one name. -/
theorem field? (h : shape.Laxer R S other) (name : String) :
    (shape.field? name = none ∧ other.field? name = none) ∨
      ∃ f g, shape.field? name = some f ∧ other.field? name = some g ∧ Field.Laxer R f g :=
  field?_of_forall₂ (fun _ _ hfg => hfg.name) h.fields name

/-- The object form, round by round. -/
theorem membersLoop (h : shape.Laxer R S other) (nesting fuel rounds : Nat) (first : Bool) (d : δ)
    (e : ε) (s : Octets) (hde : R d e) :
    Json.Laxer R (shape.membersLoop nesting fuel rounds first d s)
      (other.membersLoop nesting fuel rounds first e s) := by
  induction rounds generalizing first d e s with
  | zero => exact laxer_of_error
  | succ rounds ih =>
    unfold Shape.membersLoop
    rcases nextMember first s with f | ⟨_ | _, s⟩
    · exact laxer_of_error
    · exact laxer_of_ok hde
    · dsimp only
      rcases readString fuel s with f | ⟨name, s⟩
      · exact laxer_of_error
      · dsimp only
        rcases h.field? name with ⟨hf, hg⟩ | ⟨f, g, hf, hg, hfg⟩
        · -- A member that no field has is passed over.
          rw [hf, hg]
          dsimp only
          rcases takeColon s with f | ⟨-, s⟩
          · exact laxer_of_error
          · dsimp only
            rcases skipValue fuel s with f | ⟨-, s⟩
            · exact laxer_of_error
            · exact ih false d e s hde
        · rw [hf, hg]
          dsimp only
          rw [← hfg.isSet d e hde]
          by_cases hset : f.isSet d = true
          · rw [if_pos hset]
            exact laxer_of_error
          · rw [if_neg hset, if_neg hset]
            rcases takeColon s with f' | ⟨-, s⟩
            · exact laxer_of_error
            · exact (hfg.read nesting fuel s d e hde).andThen fun d e s hde => ih false d e s hde

/-- The list form, field by field. -/
theorem itemsLoop (expected expected' : String) (nesting fuel : Nat) {fs : List (Field δ)}
    {gs : List (Field ε)} (h : List.Forall₂ (Field.Laxer R) fs gs) (index : Nat) (first : Bool)
    (d : δ) (e : ε) (s : Octets) (hde : R d e) :
    Json.Laxer R (Shape.itemsLoop expected nesting fuel fs index first d s)
      (Shape.itemsLoop expected' nesting fuel gs index first e s) := by
  induction h generalizing index first d e s with
  | nil => exact laxer_of_ok hde
  | @cons f g fs gs hfg hrest ih =>
    unfold Shape.itemsLoop
    rcases nextItem first s with f' | ⟨_ | _, s⟩
    · exact laxer_of_error
    · dsimp only
      rw [← hfg.omissible]
      by_cases homit : f.omissible = true
      · rw [if_pos homit, if_pos homit]
        exact ih (index + 1) first d e s hde
      · rw [if_neg homit]
        exact laxer_of_error
    · exact (hfg.read nesting fuel s d e hde).andThen fun d e s hde =>
        ih (index + 1) false d e s hde

/-- If the drafts are related, so is what is made of them. -/
theorem finishAt (h : shape.Laxer R S other) {x : Reading δ} {y : Reading ε}
    (hxy : Json.Laxer R x y) : Json.Laxer S (shape.finishAt x) (other.finishAt y) := by
  refine hxy.andThen fun d e rest hde => ?_
  intro a rest' ha
  split at ha
  · rename_i a' hfinish
    cases ha
    obtain ⟨b, hb, hab⟩ := h.finish d e a hde hfinish
    exact ⟨b, by rw [hb], hab⟩
  · exact nomatch ha

end Shape.Laxer

/-- Behind the contents both look for the same end. -/
theorem laxer_enclosed {S : α → β → Prop} {x : Reading α} {y : Reading β} (h : Laxer S x y)
    (close : UInt8) (ending : Octets → Reading Unit) :
    Laxer S (enclosed close ending x) (enclosed close ending y) := by
  intro a rest ha
  unfold enclosed at ha
  split at ha
  · rename_i a' rest'
    obtain ⟨b, rfl, hab⟩ := h a' rest' rfl
    split at ha
    · rename_i u rest'' hend
      cases ha
      exact ⟨b, by simp only [enclosed, hend], hab⟩
    · exact nomatch ha
  · split at ha <;> exact nomatch ha

/-- **A record is read laxly** if its fields are. -/
theorem Shape.Laxer.read {R : δ → ε → Prop} {S : α → β → Prop} {shape : Shape δ α}
    {other : Shape ε β} (h : shape.Laxer R S other) (nesting fuel : Nat) (s : Octets) :
    Json.Laxer S (shape.decoder.read nesting fuel s) (other.decoder.read nesting fuel s) := by
  unfold Shape.decoder
  dsimp only
  rcases skipBlank s with _ | ⟨b, r⟩
  · exact laxer_of_error
  · dsimp only
    by_cases hobject : b = openObject
    · rw [if_pos hobject, if_pos hobject]
      cases nesting with
      | zero => exact laxer_of_error
      | succ inner =>
        have hloop := h.membersLoop inner fuel fuel true shape.blank other.blank r h.blank
        exact laxer_enclosed (h.finishAt hloop) closeObject endObject
    · rw [if_neg hobject, if_neg hobject]
      by_cases hlist : b = openList
      · rw [if_pos hlist, if_pos hlist]
        cases nesting with
        | zero => exact laxer_of_error
        | succ inner =>
          have hloop := itemsLoop shape.describeList other.describeList inner fuel h.fields 0 true
            shape.blank other.blank r h.blank
          exact laxer_enclosed (h.finishAt hloop) closeList endList
      · rw [if_neg hlist, if_neg hlist]
        -- Anything else is of the wrong type for both.
        intro a rest ha
        exact absurd ha (wrongType_ne_ok _ _ _ _)

/-- A whole text is read laxly if its value is. -/
theorem ofOctets_of_laxer {S : α → β → Prop} {d : Decoder α} {d' : Decoder β} {text : Octets}
    {a : α} (h : ∀ nesting fuel s, Laxer S (d.read nesting fuel s) (d'.read nesting fuel s))
    (ha : d.ofOctets text = .ok a) : ∃ b, d'.ofOctets text = .ok b ∧ S a b := by
  unfold Decoder.ofOctets at ha
  split at ha
  · exact nomatch ha
  · rename_i a' rest hread
    obtain ⟨b, hb, hab⟩ := h _ _ _ a' rest hread
    split at ha
    · rename_i hblank
      cases ha
      exact ⟨b, by simp only [Decoder.ofOctets, hb, hblank], hab⟩
    · exact nomatch ha

/-! ## A record is never null -/

/-- What is read as a record opens like an object or a list. -/
theorem Shape.opens_of_read {shape : Shape δ α} {nesting fuel : Nat} {s : Octets}
    {x : α × Octets} (h : shape.decoder.read nesting fuel s = .ok x) :
    ∃ b r, skipBlank s = b :: r ∧ (b = openObject ∨ b = openList) := by
  unfold Shape.decoder at h
  dsimp only at h
  rcases hs : skipBlank s with _ | ⟨b, r⟩
  · rw [hs] at h
    exact nomatch h
  · rw [hs] at h
    dsimp only at h
    refine ⟨b, r, rfl, ?_⟩
    by_cases hobject : b = openObject
    · exact Or.inl hobject
    · by_cases hlist : b = openList
      · exact Or.inr hlist
      · rw [if_neg hobject, if_neg hlist] at h
        exact absurd h (wrongType_ne_ok _ _ _ _)

/-- Behind blanks there are none. -/
theorem skipBlank_skipBlank (s : Octets) : skipBlank (skipBlank s) = skipBlank s := by
  induction s with
  | nil => rfl
  | cons b s ih =>
    by_cases hb : isBlankOctet b = true
    · rw [skipBlank, if_pos hb, ih]
    · rw [skipBlank, if_neg hb, skipBlank, if_neg hb]

theorem mem_of_mem_skipBlank {b : UInt8} {s : Octets} (h : b ∈ skipBlank s) : b ∈ s := by
  induction s with
  | nil => exact h
  | cons c s ih =>
    by_cases hc : isBlankOctet c = true
    · rw [skipBlank, if_pos hc] at h
      exact List.mem_cons_of_mem c (ih h)
    · rwa [skipBlank, if_neg hc] at h

/-- White space before a record does not matter. -/
theorem Shape.read_skipBlank (shape : Shape δ α) (nesting fuel : Nat) (s : Octets) :
    shape.decoder.read nesting fuel (skipBlank s) = shape.decoder.read nesting fuel s := by
  unfold Shape.decoder
  dsimp only
  rw [skipBlank_skipBlank]

/-- Where a record or null may stand, a record is read exactly if it could be read without the
choice. -/
theorem Shape.read_optional_iff (shape : Shape δ α) (nesting fuel : Nat) (s : Octets) (a : α)
    (rest : Octets) :
    (Decoder.optional shape.decoder).read nesting fuel s = .ok (some a, rest) ↔
      shape.decoder.read nesting fuel s = .ok (a, rest) := by
  have hread := shape.read_skipBlank nesting fuel s
  unfold Decoder.optional
  dsimp only
  rcases hs : skipBlank s with _ | ⟨b, r⟩
  · rw [hs] at hread
    rw [← hread]
    constructor <;> exact fun h => nomatch h
  · rw [hs] at hread
    rw [← hread]
    dsimp only
    by_cases hn : b = 0x6E
    · rw [if_pos hn]
      constructor
      · intro h
        split at h <;> exact nomatch h
      · -- A record does not begin like null.
        intro h
        obtain ⟨c, r', hc, hopens⟩ := shape.opens_of_read (hread.symm.trans h)
        obtain ⟨rfl, -⟩ := List.cons.inj (hs.symm.trans hc)
        rw [hn] at hopens
        exact absurd hopens (by decide)
    · rw [if_neg hn]
      rcases shape.decoder.read nesting fuel (b :: r) with f | ⟨a', rest'⟩
      · constructor <;> exact fun h => nomatch h
      · simp

/-- **A text is a record, and not null,** exactly if it is a record. -/
theorem Shape.ofOctets_optional_iff (shape : Shape δ α) (text : Octets) (a : α) :
    (Decoder.optional shape.decoder).ofOctets text = .ok (some a) ↔
      shape.decoder.ofOctets text = .ok a := by
  have hiff := shape.read_optional_iff nestingLimit (text.length + 1) text
  unfold Decoder.ofOctets
  -- Both look for blanks alone behind what they have read, and they read the same.
  constructor
  · intro h
    split at h
    · exact nomatch h
    · rename_i o rest hread
      split at h
      · rename_i hblank
        cases h
        rw [(hiff a rest).1 hread]
        simp only [hblank]
      · exact nomatch h
  · intro h
    split at h
    · exact nomatch h
    · rename_i a' rest hread
      split at h
      · rename_i hblank
        cases h
        rw [(hiff a rest).2 hread]
        simp only [hblank]
      · exact nomatch h

end VideoProbe.Json
