import VideoProbe.Json.Record

/-!
# The members of a free value

In a free value the members of every object are sorted by name, each name once
(`ordered_of_sorted`), so what stands under a name is one value, and `lookup` finds it.

A record that is made of an object takes what stands under the names of its fields and nothing else.
What its draft has to do with the object is said by a relation between the two that no member
breaks: the one that is stored adds what it says, and one of another name adds nothing
(`Shape.storeMembers_keeps`).
-/

namespace VideoProbe.Json

/-! ## Sorting -/

/-- Members sorted by name, each name once. -/
def Ordered (members : List (String × Json)) : Prop :=
  members.Pairwise fun m m' => m.1 < m'.1

/-- What stands in front is found first. -/
theorem lookup_cons_member (name : String) (v : Json) (members : List (String × Json))
    (k : String) :
    ((name, v) :: members).lookup k = if k = name then some v else members.lookup k := by
  rw [List.lookup_cons]
  by_cases hk : k = name
  · rw [if_pos hk, beq_iff_eq.2 hk]
  · rw [if_neg hk, beq_false_of_ne hk]

/-- What stands under a name after another member has been put in its place. -/
theorem lookup_insertMember (name : String) (v : Json) (members : List (String × Json))
    (k : String) :
    (insertMember name v members).lookup k = if k = name then some v else members.lookup k := by
  induction members with
  | nil => exact lookup_cons_member name v [] k
  | cons m members ih =>
    obtain ⟨k', v'⟩ := m
    unfold insertMember
    split
    · -- The new member takes the place of an old one of its name.
      rename_i hname
      subst hname
      rw [lookup_cons_member, lookup_cons_member]
      split <;> rfl
    · rename_i hname
      split
      · exact lookup_cons_member name v _ k
      · rw [lookup_cons_member, lookup_cons_member, ih]
        by_cases hk : k = name
        · have hother : k ≠ k' := fun h => hname (hk.symm.trans h)
          rw [if_neg hother, if_pos hk, if_pos hk]
        · rw [if_neg hk, if_neg hk]

/-- An insertion adds one member and no other. -/
theorem mem_of_mem_insertMember {name : String} {v : Json} {members : List (String × Json)}
    {m : String × Json} (h : m ∈ insertMember name v members) : m = (name, v) ∨ m ∈ members := by
  induction members with
  | nil => exact Or.inl (List.mem_singleton.1 h)
  | cons m' members ih =>
    obtain ⟨k, w⟩ := m'
    unfold insertMember at h
    split at h
    · rcases List.mem_cons.1 h with h | h
      · exact Or.inl h
      · exact Or.inr (List.mem_cons_of_mem _ h)
    · split at h
      · exact List.mem_cons.1 h
      · rcases List.mem_cons.1 h with h | h
        · exact Or.inr (h ▸ List.mem_cons_self)
        · exact (ih h).imp_right (List.mem_cons_of_mem _)

/-- **Members stay sorted** when one is put in its place, by induction on the members. -/
theorem Ordered.insertMember {members : List (String × Json)} (h : Ordered members) (name : String)
    (v : Json) : Ordered (insertMember name v members) := by
  induction members with
  | nil => exact List.pairwise_singleton _ _
  | cons m members ih =>
    obtain ⟨k, w⟩ := m
    obtain ⟨hfirst, hrest⟩ := List.pairwise_cons.1 h
    unfold Json.insertMember
    split
    · rename_i hname
      subst hname
      exact List.pairwise_cons.2 ⟨hfirst, hrest⟩
    · rename_i hname
      split
      · rename_i hlt
        refine List.pairwise_cons.2 ⟨fun m hm => ?_, h⟩
        rcases List.mem_cons.1 hm with rfl | hm
        · exact hlt
        · exact String.lt_trans hlt (hfirst m hm)
      · -- The new name is greater than the first one.
        rename_i hnot
        have hlt : k < name := by
          rcases String.le_total name k with hle | hle
          · by_cases hkn : k < name
            · exact hkn
            · exact absurd (String.le_antisymm hle (String.not_lt.1 hnot)) hname
          · by_cases hkn : k < name
            · exact hkn
            · exact absurd (String.le_antisymm (String.not_lt.1 hkn) hle) hname
        refine List.pairwise_cons.2 ⟨fun m hm => ?_, ih hrest⟩
        rcases mem_of_mem_insertMember hm with rfl | hm
        · exact hlt
        · exact hfirst m hm

/-- Sorted members are ordered, and each is one of those that were sorted. -/
theorem sortMembers_spec (members : List (String × Json)) :
    Ordered (sortMembers members) ∧ ∀ m ∈ sortMembers members, m ∈ members := by
  have hloop : ∀ ms done : List (String × Json), Ordered done → (∀ m ∈ done, m ∈ members) →
      (∀ m ∈ ms, m ∈ members) →
      Ordered (ms.foldl (fun done m => insertMember m.1 m.2 done) done) ∧
        ∀ m ∈ ms.foldl (fun done m => insertMember m.1 m.2 done) done, m ∈ members := by
    intro ms
    induction ms with
    | nil => exact fun done hordered hdone _ => ⟨hordered, hdone⟩
    | cons m ms ih =>
      intro done hordered hdone hms
      refine ih _ (hordered.insertMember m.1 m.2) (fun m' hm' => ?_)
        (fun m' hm' => hms m' (List.mem_cons_of_mem _ hm'))
      rcases mem_of_mem_insertMember hm' with rfl | hm'
      · exact hms _ List.mem_cons_self
      · exact hdone m' hm'
  exact hloop members [] List.Pairwise.nil (by simp) (fun m hm => hm)

theorem sortedItems_eq_map (items : List Json) : sortedItems items = items.map sorted := by
  induction items with
  | nil => rfl
  | cons v items ih => rw [sortedItems, ih, List.map_cons]

theorem sortedMembers_eq_map (members : List (String × Json)) :
    sortedMembers members = members.map fun m => (m.1, m.2.sorted) := by
  induction members with
  | nil => rfl
  | cons m members ih => rw [sortedMembers, ih, List.map_cons]

/-- **The members of a free value are ordered**, and under each name there is a free value again. -/
theorem ordered_of_sorted {v : Json} {members : List (String × Json)}
    (h : v.sorted = .object members) :
    Ordered members ∧ ∀ m ∈ members, ∃ w : Json, m.2 = w.sorted := by
  cases v with
  | object ms =>
    rw [Json.sorted, Json.object.injEq] at h
    obtain ⟨hordered, hmem⟩ := sortMembers_spec (sortedMembers ms)
    rw [h] at hordered hmem
    refine ⟨hordered, fun m hm => ?_⟩
    have hsource := hmem m hm
    rw [sortedMembers_eq_map] at hsource
    obtain ⟨m', -, rfl⟩ := List.mem_map.1 hsource
    exact ⟨m'.2, rfl⟩
  | null | bool _ | int _ | real _ | str _ | array _ => simp [Json.sorted] at h

/-- Of ordered members the first has a name of its own. -/
theorem Ordered.lookup_tail {name : String} {v : Json} {members : List (String × Json)}
    (h : Ordered ((name, v) :: members)) : members.lookup name = none := by
  rw [List.lookup_eq_none_iff]
  intro m hm
  have hlt := (List.pairwise_cons.1 h).1 m hm
  refine bne_iff_ne.2 fun hname => ?_
  rw [← hname] at hlt
  exact String.lt_irrefl _ hlt

/-- Of ordered members each is the one that stands under its name. -/
theorem Ordered.lookup_of_mem {members : List (String × Json)} (h : Ordered members)
    {m : String × Json} (hm : m ∈ members) : members.lookup m.1 = some m.2 := by
  induction members with
  | nil => exact absurd hm List.not_mem_nil
  | cons m' members ih =>
    obtain ⟨name, v⟩ := m'
    obtain ⟨hlater, hrest⟩ := List.pairwise_cons.1 h
    rw [lookup_cons_member]
    rcases List.mem_cons.1 hm with rfl | hm
    · exact if_pos rfl
    · have hne : m.1 ≠ name := fun heq => String.lt_irrefl name (heq ▸ hlater m hm)
      rw [if_neg hne]
      exact ih hrest hm

/-! ## Storing members -/

/-- What stands under each name once a value has been put under one of them. -/
def putUnder (name : String) (v : Json) (look : String → Option Json) : String → Option Json :=
  fun k => if k = name then some v else look k

@[simp] theorem putUnder_self (name : String) (v : Json) (look : String → Option Json) :
    putUnder name v look name = some v :=
  if_pos rfl

/-- Under all other names nothing changes. -/
theorem putUnder_of_ne {name k : String} (h : k ≠ name) (v : Json) (look : String → Option Json) :
    putUnder name v look k = look k :=
  if_neg h

section Store

variable {shape : Shape δ α} {R : (String → Option Json) → δ → Prop}

/-- A relation between what stands under the names and the draft is kept while ordered members are
stored, if the fields keep it and members of other names do. -/
theorem Shape.storeMembers_keeps
    (hknown : ∀ {name f look d v d'}, shape.field? name = some f → R look d →
      f.store v d = .ok d' → R (putUnder name v look) d')
    (hunknown : ∀ {name look d} (v : Json), shape.field? name = none → R look d →
      R (putUnder name v look) d)
    {members : List (String × Json)} (hordered : Ordered members) {look : String → Option Json}
    (hfresh : ∀ m ∈ members, look m.1 = none) {d d' : δ} (hR : R look d)
    (h : shape.storeMembers members d = .ok d') :
    R (fun k => (members.lookup k).or (look k)) d' := by
  induction members generalizing look d with
  | nil =>
    cases h
    exact hR
  | cons m members ih =>
    obtain ⟨name, v⟩ := m
    have hfirst := hordered.lookup_tail
    obtain ⟨hlater, hrest⟩ := List.pairwise_cons.1 hordered
    -- What is stored first is not touched by the members after it.
    have hfresh' : ∀ m ∈ members, putUnder name v look m.1 = none := by
      intro m hm
      have hne : m.1 ≠ name := fun heq => String.lt_irrefl name (heq ▸ hlater m hm)
      rw [putUnder_of_ne hne]
      exact hfresh m (List.mem_cons_of_mem _ hm)
    have hlook : (fun k => (members.lookup k).or (putUnder name v look k)) =
        fun k => (((name, v) :: members).lookup k).or (look k) := by
      funext k
      rw [lookup_cons_member]
      by_cases hk : k = name
      · subst hk
        rw [hfirst, putUnder_self, if_pos rfl, Option.none_or, Option.some_or]
      · rw [putUnder_of_ne hk, if_neg hk]
    rw [← hlook]
    unfold Shape.storeMembers at h
    cases hfield : shape.field? name with
    | none =>
      rw [hfield] at h
      exact ih hrest hfresh' (hunknown v hfield hR) h
    | some f =>
      rw [hfield] at h
      dsimp only at h
      cases hstore : f.store v d with
      | error c =>
        rw [hstore] at h
        exact nomatch h
      | ok d1 =>
        rw [hstore] at h
        exact ih hrest hfresh' (hknown hfield hR hstore) h

/-- Members are stored if each of them can be, whatever the draft is. -/
theorem Shape.storeMembers_ok {members : List (String × Json)}
    (h : ∀ m ∈ members, ∀ f, shape.field? m.1 = some f → ∀ d, ∃ d', f.store m.2 d = .ok d')
    (d : δ) : ∃ d', shape.storeMembers members d = .ok d' := by
  induction members generalizing d with
  | nil => exact ⟨d, rfl⟩
  | cons m members ih =>
    obtain ⟨name, v⟩ := m
    have hrest := ih fun m hm => h m (List.mem_cons_of_mem _ hm)
    unfold Shape.storeMembers
    cases hfield : shape.field? name with
    | none => exact hrest d
    | some f =>
      obtain ⟨d1, hstore⟩ := h (name, v) List.mem_cons_self f hfield d
      dsimp only
      rw [hstore]
      exact hrest d1

end Store

section Form

variable {shape : Shape δ α}

/-- The field of a name is one of the record's. -/
theorem Shape.mem_of_field? {name : String} {f : Field δ} (h : shape.field? name = some f) :
    f ∈ shape.fields ∧ f.name = name := by
  unfold Shape.field? at h
  exact ⟨List.mem_of_find?_eq_some h, by simpa using List.find?_some h⟩

/-- A name without a field is not that of any of them. -/
theorem Shape.ne_of_field?_none {name : String} (h : shape.field? name = none) {f : Field δ}
    (hf : f ∈ shape.fields) : f.name ≠ name := by
  unfold Shape.field? at h
  simpa using List.find?_eq_none.1 h f hf

/-- A field is stored if its decoder takes the value. -/
theorem Field.of_store_ok_iff {name : String} {d : Decoder β} {get : δ → Option β}
    {set : β → δ → δ} {omissible : Bool} {v : Json} {draft draft' : δ} :
    (Field.of name d get set omissible).store v draft = .ok draft' ↔
      ∃ b, d.ofJson v = .ok b ∧ draft' = set b draft := by
  unfold Field.of
  dsimp only
  cases d.ofJson v with
  | error c => simp
  | ok b => simp [eq_comm]

/-- A record is made of an object by storing its members and finishing. -/
theorem Shape.ofJson_object_ok_iff {members : List (String × Json)} {a : α} :
    shape.decoder.ofJson (.object members) = .ok a ↔
      ∃ draft, shape.storeMembers members shape.blank = .ok draft ∧ shape.finish draft = .ok a := by
  unfold Shape.decoder
  dsimp only
  cases shape.storeMembers members shape.blank with
  | error c => simp
  | ok draft => simp

/-- In the list form no item may be left over. -/
theorem Shape.ofJson_array_ok_iff {items : List Json} {a : α} :
    shape.decoder.ofJson (.array items) = .ok a ↔
      ∃ draft, Shape.storeItems shape.describeList shape.fields 0 items shape.blank =
        .ok (draft, []) ∧ shape.finish draft = .ok a := by
  unfold Shape.decoder
  dsimp only
  cases Shape.storeItems shape.describeList shape.fields 0 items shape.blank with
  | error c => simp
  | ok r =>
    obtain ⟨draft, left⟩ := r
    cases left with
    | nil => cases hfinish : shape.finish draft <;> simp [hfinish]
    | cons v left => cases hfinish : shape.finish draft <;> simp [hfinish]

/-- A field that may not be left out of the list form takes the next item. -/
theorem Shape.storeItems_cons_ok_iff {expected : String} {f : Field δ} {fields : List (Field δ)}
    (hf : f.omissible = false) {index : Nat} {items : List Json} {draft : δ}
    {r : δ × List Json} :
    Shape.storeItems expected (f :: fields) index items draft = .ok r ↔
      ∃ v rest draft', items = v :: rest ∧ f.store v draft = .ok draft' ∧
        Shape.storeItems expected fields (index + 1) rest draft' = .ok r := by
  constructor
  · intro h
    -- If no item is left the field is missing, since it may not be left out.
    cases items with
    | nil => simp [Shape.storeItems, hf] at h
    | cons v rest =>
      rw [Shape.storeItems] at h
      cases hstore : f.store v draft with
      | error c =>
        rw [hstore] at h
        exact nomatch h
      | ok draft' =>
        rw [hstore] at h
        exact ⟨v, rest, draft', rfl, hstore, h⟩
  · rintro ⟨v, rest, draft', rfl, hstore, h⟩
    rw [Shape.storeItems, hstore]
    exact h

end Form

end VideoProbe.Json
