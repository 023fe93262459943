import Mathlib.Data.List.Forall2
import VideoProbe.Proofs.Skipping
import VideoProbe.Proofs.Times

/-!
# What a document depicts

A document is read straight from the octets that a probe has printed, without a tree between.  Where
the octets can be read as a tree as well, the document is the one that the tree depicts (`Depicts`):
every chapter stands for one item of the list of chapters, every text is the one under its name, and
whatever is missing is empty.

The crux is that the reader of a record and that of a free value go through the octets in step,
member by member or item by item (`Shape.Tracks.sees`).  The record passes over the members that it
has no field for, which a free value reads; that both come to the same end there is `sameEnd_value`.
A relation between what stands under the names so far and the draft so far is carried along.
-/

namespace VideoProbe

namespace Json

/-- Where a decoder and the reader of free values both read octets, they take the same of them, and
the value of the decoder is related to the tree. -/
def Decoder.Sees (d : Decoder α) (P : Json → α → Prop) : Prop :=
  ∀ nesting fuel s, Agree P (readValue nesting fuel s) (d.read nesting fuel s)

/-! ## The first octet

A decoder that expects a text, a list or a record looks at the first octet and refuses every other.
So where it does read something, the free value that was read from there is known to be of that
kind, and what is inside was read from the same octets. -/

section Opening

variable {inner : Option (Reader Json)} {fuel : Nat} {r rest : Octets} {v : Json}

/-- A value that begins with a quotation mark is a text. -/
theorem ValueRead.of_quote (h : ValueRead inner fuel (quoteMark :: r) v rest) :
    ∃ t, v = .str t ∧ readString fuel r = .ok (t, rest) := by
  generalize hs : quoteMark :: r = s at h
  cases h with
  | string h =>
    cases hs
    exact ⟨_, rfl, h⟩
  | number hb h =>
    cases hs
    exact absurd hb (by decide)
  | _ => exact nomatch hs

/-- A value that begins with a bracket is a list, and there was a level left for it. -/
theorem ValueRead.of_openList (h : ValueRead inner fuel (openList :: r) v rest) :
    ∃ reader items, inner = some reader ∧ v = .array items ∧
      readItems reader fuel r = .ok (items, rest) := by
  generalize hs : openList :: r = s at h
  cases h with
  | list hinner h =>
    cases hs
    exact ⟨_, _, hinner, rfl, h⟩
  | number hb h =>
    cases hs
    exact absurd hb (by decide)
  | _ => exact nomatch hs

/-- And one that begins with a brace is an object. -/
theorem ValueRead.of_openObject (h : ValueRead inner fuel (openObject :: r) v rest) :
    ∃ reader members, inner = some reader ∧ v = .object members ∧
      readMembers reader fuel r = .ok (members, rest) := by
  generalize hs : openObject :: r = s at h
  cases h with
  | object hinner h =>
    cases hs
    exact ⟨_, _, hinner, rfl, h⟩
  | number hb h =>
    cases hs
    exact absurd hb (by decide)
  | _ => exact nomatch hs

end Opening

/-! ## Texts and lists

Neither of the two readers accepts all that the other does.  A decoder refuses trees that are not of
its kind.  The reader of free values refuses some octets that a decoder takes, since a record passes
over what it has no field for, and does not mind how large a number is there. -/

/-- The decoder of texts and the reader of free values call the same reader behind the quotation
mark. -/
theorem Decoder.sees_string : Decoder.string.Sees fun v t => v = .str t := by
  intro nesting fuel s v rest t rest' hv ht
  -- A text takes no level, so it does not matter how many are left.
  obtain ⟨inner, hv⟩ : ∃ inner, readValueWith inner fuel s = .ok (v, rest) := by
    cases nesting <;> exact ⟨_, hv⟩
  have hread := valueRead_of_ok hv
  unfold Decoder.string Decoder.spelled at ht
  dsimp only at ht
  rcases hs : skipBlank s with _ | ⟨b, r⟩
  · rw [hs] at ht
    exact nomatch ht
  · rw [hs] at ht hread
    dsimp only at ht
    by_cases hb : b = quoteMark
    · subst hb
      obtain ⟨t', rfl, hstring⟩ := hread.of_quote
      rw [if_pos rfl, hstring] at ht
      cases ht
      exact ⟨rfl, rfl⟩
    · rw [if_neg hb] at ht
      exact absurd ht (wrongType_ne_ok _ _ _ _)

section List

variable {P : Json → α → Prop}

/-- Two readers that go through a list in step, by induction on the rounds.  What has been read so
far is related item by item, and both have come to the same octet. -/
theorem agree_itemsLoop {item : Reader Json} {item' : Reader α} {fuel : Nat}
    (h : ∀ s, Agree P (item fuel s) (item' fuel s)) (rounds : Nat) (first : Bool)
    {done : List Json} {done' : List α} (hdone : List.Forall₂ P done done') (s : Octets) :
    Agree (List.Forall₂ P) (itemsLoop item fuel rounds first done s)
      (itemsLoop item' fuel rounds first done' s) := by
  induction rounds generalizing first done done' s with
  | zero => exact agree_of_error_left
  | succ rounds ih =>
    unfold itemsLoop
    rcases nextItem first s with f | ⟨_ | _, s⟩
    · exact agree_of_error_left
    · -- The list ends here for both; they kept their items last one first.
      exact agree_of_ok (List.rel_reverse hdone)
    · dsimp only
      exact (h s).andThen fun v a rest hva => ih false (.cons hva hdone) rest

/-- Behind the contents both readers look for the same end, so they agree if the contents do. -/
theorem agree_enclosed {R : α → β → Prop} {x : Reading α} {y : Reading β} (h : Agree R x y)
    (close : UInt8) (ending : Octets → Reading Unit) :
    Agree R (enclosed close ending x) (enclosed close ending y) := by
  intro a rest b rest' ha hb
  obtain ⟨s, u, hx, hend⟩ := contents_of_enclosed ha
  obtain ⟨s', u', hy, hend'⟩ := contents_of_enclosed hb
  obtain ⟨rfl, hab⟩ := h a s b s' hx hy
  cases hend.symm.trans hend'
  exact ⟨rfl, hab⟩

/-- A list is seen item by item. -/
theorem Decoder.Sees.list {d : Decoder α} (h : d.Sees P) :
    (Decoder.list d).Sees fun v as => ∃ items, v = .array items ∧ List.Forall₂ P items as := by
  intro nesting fuel s v rest as rest' hv has
  unfold Decoder.list at has
  dsimp only at has
  rcases hs : skipBlank s with _ | ⟨b, r⟩
  · rw [hs] at has
    exact nomatch has
  · rw [hs] at has
    dsimp only at has
    by_cases hb : b = openList
    · subst hb
      rw [if_pos rfl] at has
      -- Inside the list both have one level less.
      cases nesting with
      | zero => exact nomatch has
      | succ inner =>
        have hread := valueRead_of_ok hv
        rw [hs] at hread
        obtain ⟨reader, items, hreader, rfl, hitems⟩ := hread.of_openList
        cases hreader
        have hloop := agree_itemsLoop (h inner fuel) fuel true .nil r
        obtain ⟨rfl, hall⟩ := agree_enclosed hloop closeList endList _ _ _ _ hitems has
        exact ⟨rfl, items, rfl, hall⟩
    · rw [if_neg hb] at has
      exact absurd has (wrongType_ne_ok _ _ _ _)

end List

/-! ## Records

A record may be given as an object or as a list of its fields in order.  In both forms it is read
into a draft, one field after the other, and made from it in the end.  The free value is kept by
names in the one form and by places in the other; `part?` asks both of them for what stands under a
name, and this is what the draft is related to.

Every record has its own draft, so the relation is a parameter of the lemmas, and what it has to
obey is collected in `Shape.Tracks`.  For a given record those are a few facts about its fields,
without an octet in them. -/

/-- What stands in a record under a name: in the object form the member of that name, in the list
form, where the names are given in order, the item in its place. -/
def part? (names : List String) (v : Json) (name : String) : Option Json :=
  match v with
  | .object members => members.lookup name
  | .array items => (names.zip items).lookup name
  | _ => none

/-- The two forms of a record. -/
inductive IsRecord (names : List String) : Json → Prop
  | object (members : List (String × Json)) : IsRecord names (.object members)
  | array {items : List Json} (h : items.length ≤ names.length) : IsRecord names (.array items)

/-- A field adds to the draft what the tree has under its name. -/
def Field.Sees (R : (String → Option Json) → δ → Prop) (f : Field δ) : Prop :=
  ∀ nesting fuel look draft s, R look draft →
    Agree (fun v draft => R (putUnder f.name v look) draft) (readValue nesting fuel s)
      (f.read nesting draft fuel s)

/-- A field that stores what a decoder reads adds it to the draft, if the relation allows for it. -/
theorem Field.sees_of {R : (String → Option Json) → δ → Prop} {name : String} {d : Decoder β}
    {get : δ → Option β} {set : β → δ → δ} {omissible : Bool} {P : Json → β → Prop}
    (hd : d.Sees P)
    (hset : ∀ look draft v b, R look draft → P v b → R (putUnder name v look) (set b draft)) :
    Field.Sees R (.of name d get set omissible) := by
  intro nesting fuel look draft s hR v rest draft' rest' hv hdraft
  unfold Field.of at hdraft
  dsimp only at hdraft
  rcases hb : d.read nesting fuel s with f | ⟨b, r⟩
  · rw [hb] at hdraft
    exact nomatch hdraft
  · rw [hb] at hdraft
    cases hdraft
    obtain ⟨rfl, hP⟩ := hd nesting fuel s v rest b _ hv hb
    exact ⟨rfl, hset look draft v b hR hP⟩

/-- A relation between what stands under the names and the draft that a record keeps while it is
read, and what it says of the record that is made of the draft in the end. -/
structure Shape.Tracks (R : (String → Option Json) → δ → Prop) (P : Json → α → Prop)
    (shape : Shape δ α) : Prop where
  blank : R (fun _ => none) shape.blank
  fields : ∀ f ∈ shape.fields, f.Sees R
  /-- What stands under another name does not matter. -/
  unknown : ∀ name look draft v, (∀ f ∈ shape.fields, f.name ≠ name) → R look draft →
    R (putUnder name v look) draft
  names : (shape.fields.map Field.name).Nodup
  finish : ∀ v draft a, IsRecord (shape.fields.map Field.name) v →
    R (part? (shape.fields.map Field.name) v) draft → shape.finish draft = .ok a → P v a

section Record

variable {shape : Shape δ α} {R : (String → Option Json) → δ → Prop} {P : Json → α → Prop}

/-- The members of the object form, by induction on the rounds.  The relation holds between the
members that the free value has so far and the draft that the record has so far. -/
theorem Shape.Tracks.membersLoop (h : shape.Tracks R P) (nesting fuel rounds : Nat) (first : Bool)
    {done : List (String × Json)} {draft : δ} (hR : R (fun k => done.lookup k) draft) (s : Octets) :
    Agree (fun members draft => R (fun k => members.lookup k) draft)
      (Json.membersLoop (readValue nesting) fuel rounds first done s)
      (shape.membersLoop nesting fuel rounds first draft s) := by
  -- One more member is one more entry of what stands under the names.
  have hput : ∀ name v (members : List (String × Json)),
      putUnder name v (fun k => members.lookup k) =
        fun k => (insertMember name v members).lookup k := by
    intro name v members
    funext k
    exact (lookup_insertMember name v members k).symm
  induction rounds generalizing first done draft s with
  | zero => exact agree_of_error_left
  | succ rounds ih =>
    unfold Json.membersLoop Shape.membersLoop
    rcases nextMember first s with f | ⟨_ | _, s⟩
    · exact agree_of_error_left
    · exact agree_of_ok hR
    dsimp only
    rcases readString fuel s with f | ⟨name, s⟩
    · exact agree_of_error_left
    dsimp only
    cases hfield : shape.field? name with
    | none =>
      -- The value is read into the tree and passed over by the record.
      have hname : ∀ f ∈ shape.fields, f.name ≠ name :=
        fun f hf => Shape.ne_of_field?_none hfield hf
      dsimp only
      rcases takeColon s with f | ⟨-, s⟩
      · exact agree_of_error_left
      dsimp only
      rcases hv : readValue nesting fuel s with f | ⟨v, r⟩
      · exact agree_of_error_left
      rcases hskip : skipValue fuel s with f | ⟨u, r'⟩
      · exact agree_of_error_right
      obtain ⟨rfl, -⟩ := sameEnd_value nesting s v r u r' hv hskip
      have hR' := h.unknown name _ draft v hname hR
      rw [hput] at hR'
      exact ih false hR' r'
    | some field =>
      obtain ⟨hmem, rfl⟩ := Shape.mem_of_field? hfield
      dsimp only
      -- A field that is there for the second time is refused by the record.
      by_cases hset : field.isSet draft = true
      · rw [if_pos hset]
        exact agree_of_error_right
      rw [if_neg hset]
      rcases takeColon s with f | ⟨-, s⟩
      · exact agree_of_error_left
      dsimp only
      rcases hv : readValue nesting fuel s with f | ⟨v, r⟩
      · exact agree_of_error_left
      rcases hdraft : field.read nesting draft fuel s with f | ⟨draft', r'⟩
      · exact agree_of_error_right
      obtain ⟨rfl, hR'⟩ := h.fields field hmem nesting fuel _ draft s hR v r draft' r' hv hdraft
      rw [hput] at hR'
      exact ih false hR' r'

/-- A record that is finished without a fault was made of a draft. -/
theorem Shape.ok_of_finishAt {x : Reading δ} {a : α} {s : Octets}
    (h : shape.finishAt x = .ok (a, s)) :
    ∃ draft, x = .ok (draft, s) ∧ shape.finish draft = .ok a := by
  rcases x with f | ⟨draft, s'⟩
  · exact nomatch h
  · unfold Shape.finishAt at h
    dsimp only at h
    rcases hfinish : shape.finish draft with c | a'
    · rw [hfinish] at h
      exact nomatch h
    · rw [hfinish] at h
      cases h
      exact ⟨draft, rfl, hfinish⟩

/-- The end of a list that has been come to. -/
theorem endList_ok {s rest : Octets} {u : Unit} (h : endList s = .ok (u, rest)) :
    skipBlank s = closeList :: rest := by
  unfold endList at h
  rcases hs : skipBlank s with _ | ⟨b, r⟩
  · rw [hs] at h
    exact nomatch h
  · rw [hs] at h
    dsimp only at h
    by_cases hb : b = closeList
    · rw [if_pos hb] at h
      cases h
      rw [hb]
    · rw [if_neg hb] at h
      split at h
      · split at h
        · exact nomatch h
        · split at h <;> exact nomatch h
      · exact nomatch h

/-- At its end a list has no further item. -/
theorem nextItem_end {s r : Octets} (h : skipBlank s = closeList :: r) (first : Bool) :
    nextItem first s = .ok (false, closeList :: r) := by
  unfold nextItem
  rw [h]
  exact if_pos rfl

/-- The items of the list form, by induction on the fields.  The record stops after the last field,
where the list has to end; a free value reads on until it does. -/
theorem Shape.items_of_itemsLoop {fields : List (Field δ)} (hfields : ∀ f ∈ fields, f.Sees R)
    (hnames : (fields.map Field.name).Nodup) {expected : String} {nesting fuel rounds index : Nat}
    {first : Bool} {done items : List Json} {look : String → Option Json} {draft draft' : δ}
    {s s1 s2 rest rest' : Octets} {u u' : Unit} (hR : R look draft)
    (hread : Json.itemsLoop (readValue nesting) fuel rounds first done s = .ok (items, s1))
    (hrecord : Shape.itemsLoop expected nesting fuel fields index first draft s = .ok (draft', s2))
    (hend : endList s1 = .ok (u, rest)) (hend' : endList s2 = .ok (u', rest')) :
    rest' = rest ∧ ∃ new, items = done.reverse ++ new ∧ new.length ≤ fields.length ∧
      R (fun k => (((fields.map Field.name).zip new).lookup k).or (look k)) draft' := by
  induction fields generalizing rounds index first done look draft s with
  | nil =>
    -- No field is left, so the record has ended the list, and the free value finds nothing more.
    cases hrecord
    have hclose := endList_ok hend'
    cases rounds with
    | zero => cases hread
    | succ rounds =>
      unfold Json.itemsLoop at hread
      rw [nextItem_end hclose] at hread
      cases hread
      cases hend
      exact ⟨rfl, [], (List.append_nil _).symm, Nat.le_refl _, hR⟩
  | cons f fields ih =>
    obtain ⟨hf, hfields⟩ := List.forall_mem_cons.1 hfields
    rw [List.map_cons, List.nodup_cons] at hnames
    obtain ⟨hname, hnames⟩ := hnames
    unfold Shape.itemsLoop at hrecord
    cases rounds with
    | zero => cases hread
    | succ rounds =>
      unfold Json.itemsLoop at hread
      rcases hnext : nextItem first s with f' | ⟨_ | _, s'⟩
      · rw [hnext] at hrecord
        cases hrecord
      · -- The list has ended, and so it has for the fields that are left.
        rw [hnext] at hread hrecord
        dsimp only at hrecord
        by_cases homissible : f.omissible = true
        · rw [if_pos homissible] at hrecord
          obtain ⟨-, r, -, rfl⟩ | ⟨hmore, -⟩ | ⟨hmore, -⟩ := nextItem_cases hnext
          case inr.inl | inr.inr => cases hmore
          -- The reader of free values has stopped as well; asked once more, it stops again.
          have hagain : Json.itemsLoop (readValue nesting) fuel 1 first done (closeList :: r) =
              .ok (items, s1) := by
            unfold Json.itemsLoop
            rw [nextItem_end rfl]
            exact hread
          obtain ⟨hrest, new, hnew, hlength, hR'⟩ := ih hfields hnames hR hagain hrecord
          cases hread
          have hnil : new = [] := List.append_right_eq_self.1 hnew.symm
          subst hnil
          rw [List.zip_nil_right] at hR'
          exact ⟨hrest, [], hnew, Nat.zero_le _, hR'⟩
        · rw [if_neg homissible] at hrecord
          cases hrecord
      · -- Both read one item, and go on with the next field.
        rw [hnext] at hread hrecord
        dsimp only at hread hrecord
        rcases hv : readValue nesting fuel s' with f' | ⟨v, s3⟩
        · rw [hv] at hread
          cases hread
        rcases hdraft : f.read nesting draft fuel s' with f' | ⟨draft1, s4⟩
        · rw [hdraft] at hrecord
          cases hrecord
        rw [hv] at hread
        rw [hdraft] at hrecord
        obtain ⟨rfl, hR1⟩ := hf nesting fuel look draft s' hR v s3 draft1 s4 hv hdraft
        obtain ⟨hrest, new, hnew, hlength, hR'⟩ := ih hfields hnames hR1 hread hrecord
        refine ⟨hrest, v :: new, ?_, Nat.succ_le_succ hlength, ?_⟩
        · rw [hnew, List.reverse_cons, List.append_assoc, List.singleton_append]
        · -- No later field has the name of this one.
          have hlook : (fun k => (((fields.map Field.name).zip new).lookup k).or
              (putUnder f.name v look k)) = fun k =>
                ((((f :: fields).map Field.name).zip (v :: new)).lookup k).or (look k) := by
            funext k
            rw [List.map_cons, List.zip_cons_cons, lookup_cons_member]
            by_cases hk : k = f.name
            · have hlater : ((fields.map Field.name).zip new).lookup k = none := by
                rw [List.lookup_eq_none_iff]
                intro m hm
                refine bne_iff_ne.2 fun heq => hname ?_
                rw [← hk, heq]
                exact (List.of_mem_zip hm).1
              rw [hlater, if_pos hk, hk, putUnder_self, Option.none_or, Option.some_or]
            · rw [if_neg hk, putUnder_of_ne hk]
          rw [← hlook]
          exact hR'

/-- The object form, whose draft is blank where no member has been read. -/
theorem Shape.Tracks.object (h : shape.Tracks R P) (nesting fuel : Nat) (s : Octets) :
    Agree (fun members a => P (.object members) a) (readMembers (readValue nesting) fuel s)
      (enclosed closeObject endObject
        (shape.finishAt (shape.membersLoop nesting fuel fuel true shape.blank s))) := by
  have hblank : R (fun k => ([] : List (String × Json)).lookup k) shape.blank := h.blank
  have hloop := h.membersLoop nesting fuel fuel true hblank s
  refine agree_enclosed ?_ closeObject endObject
  intro members rest a rest' hmembers ha
  obtain ⟨draft, hdraft, hmade⟩ := Shape.ok_of_finishAt ha
  obtain ⟨rfl, hR⟩ := hloop members rest draft rest' hmembers hdraft
  exact ⟨rfl, h.finish _ draft a (.object members) hR hmade⟩

/-- The list form, which has no more items than the record has fields. -/
theorem Shape.Tracks.array (h : shape.Tracks R P) (expected : String) (nesting fuel : Nat)
    (s : Octets) :
    Agree (fun items a => P (.array items) a) (readItems (readValue nesting) fuel s)
      (enclosed closeList endList
        (shape.finishAt
          (Shape.itemsLoop expected nesting fuel shape.fields 0 true shape.blank s))) := by
  intro items rest a rest' hitems ha
  obtain ⟨s1, u, hloop, hend⟩ := contents_of_enclosed hitems
  obtain ⟨s2, u', hrecord, hend'⟩ := contents_of_enclosed ha
  obtain ⟨draft, hdraft, hmade⟩ := Shape.ok_of_finishAt hrecord
  obtain ⟨rfl, new, rfl, hlength, hR⟩ :=
    Shape.items_of_itemsLoop h.fields h.names h.blank hloop hdraft hend hend'
  simp only [Option.or_none] at hR
  have hrecord' : IsRecord (shape.fields.map Field.name) (.array items) :=
    .array (by rwa [List.length_map])
  exact ⟨rfl, h.finish _ draft a hrecord' hR hmade⟩

/-- **A record sees what stands under the names of its fields**, in the order of its declaration if
it is read from a list, and nothing else. -/
theorem Shape.Tracks.sees (h : shape.Tracks R P) : shape.decoder.Sees P := by
  -- The first octet tells the record which form it is, and the free value what it is.
  intro nesting fuel s v rest a rest' hv ha
  unfold Shape.decoder at ha
  dsimp only at ha
  rcases hs : skipBlank s with _ | ⟨b, r⟩
  · rw [hs] at ha
    exact nomatch ha
  rw [hs] at ha
  dsimp only at ha
  by_cases hobject : b = openObject
  · subst hobject
    rw [if_pos rfl] at ha
    cases nesting with
    | zero => exact nomatch ha
    | succ inner =>
      have hread := valueRead_of_ok hv
      rw [hs] at hread
      obtain ⟨reader, members, hreader, rfl, hmembers⟩ := hread.of_openObject
      cases hreader
      exact h.object inner fuel r members rest a rest' hmembers ha
  rw [if_neg hobject] at ha
  by_cases hlist : b = openList
  · subst hlist
    rw [if_pos rfl] at ha
    cases nesting with
    | zero => exact nomatch ha
    | succ inner =>
      have hread := valueRead_of_ok hv
      rw [hs] at hread
      obtain ⟨reader, items, hreader, rfl, hitems⟩ := hread.of_openList
      cases hreader
      exact h.array _ inner fuel r items rest a rest' hitems ha
  · rw [if_neg hlist] at ha
    exact absurd ha (wrongType_ne_ok _ _ _ _)

end Record

/-- Of a whole text too: both start with the same levels and the same fuel. -/
theorem Decoder.Sees.ofOctets {d : Decoder α} {P : Json → α → Prop} (h : d.Sees P) {text : Octets}
    {v : Json} {a : α} (hv : Decoder.value.ofOctets text = .ok v) (ha : d.ofOctets text = .ok a) :
    P v a := by
  unfold Decoder.ofOctets at hv ha
  rcases hv' : Decoder.value.read nestingLimit (text.length + 1) text with f | ⟨v', rest⟩
  · rw [hv'] at hv
    exact nomatch hv
  rcases ha' : d.read nestingLimit (text.length + 1) text with f | ⟨a', rest'⟩
  · rw [ha'] at ha
    exact nomatch ha
  obtain ⟨-, hP⟩ := h nestingLimit (text.length + 1) text v' rest a' rest' hv' ha'
  rw [hv'] at hv
  rw [ha'] at ha
  dsimp only at hv ha
  split at hv
  · split at ha
    · cases hv
      cases ha
      exact hP
    · exact nomatch ha
  · exact nomatch hv

/-- What stands under a name, or what counts for it where nothing does. -/
def Stands (P : Json → α → Prop) (default : α) (part : Option Json) (a : α) : Prop :=
  (part = none ∧ a = default) ∨ ∃ v, part = some v ∧ P v a

/-- Where there is a part, the draft has what it stands for; where there is none, the default
counts. -/
theorem stands_of_rel {P : Json → α → Prop} {part : Option Json} {o : Option α}
    (h : Option.Rel P part o) (default : α) : Stands P default part (o.getD default) := by
  cases h with
  | none => exact Or.inl ⟨rfl, rfl⟩
  | some h => exact Or.inr ⟨_, rfl, h⟩

end Json

open Json

namespace Probe

/-! ## Documents

What a document stands for is said here without its decoder: a chapter is a record of two texts, a
format a record of one, and the document a record of a format and a list of chapters.  Where a part
is missing, an empty text or an empty list counts for it. -/

/-- A tree that is a text. -/
def IsText (v : Json) (t : String) : Prop :=
  v = .str t

/-- A tree that depicts a chapter. -/
structure ChapterTimes.Depicts (v : Json) (c : ChapterTimes) : Prop where
  record : IsRecord ["start_time", "end_time"] v
  start : Stands IsText "" (part? ["start_time", "end_time"] v "start_time") c.start
  stop : Stands IsText "" (part? ["start_time", "end_time"] v "end_time") c.stop

/-- A tree that depicts the part of the document about the whole video. -/
structure FormatDepicts (v : Json) (duration : String) : Prop where
  record : IsRecord ["duration"] v
  duration : Stands IsText "" (part? ["duration"] v "duration") duration

/-- A list that depicts chapters, one item each. -/
def ChaptersDepict (v : Json) (cs : List ChapterTimes) : Prop :=
  ∃ items, v = .array items ∧ List.Forall₂ ChapterTimes.Depicts items cs

/-- A tree that depicts a document. -/
structure Depicts (v : Json) (d : Document) : Prop where
  record : IsRecord ["format", "chapters"] v
  duration : Stands FormatDepicts "" (part? ["format", "chapters"] v "format") d.duration
  chapters : Stands ChaptersDepict [] (part? ["format", "chapters"] v "chapters") d.chapters

/-- The draft of a chapter has the texts under the names of its two times. -/
theorem ChapterTimes.tracks : ChapterTimes.shape.Tracks
    (fun look draft => Option.Rel IsText (look "start_time") draft.start ∧
      Option.Rel IsText (look "end_time") draft.stop) ChapterTimes.Depicts := by
  refine ⟨?blank, ?fields, ?unknown, ?names, ?finish⟩
  case blank => exact ⟨.none, .none⟩
  case fields =>
    intro f hf
    rcases List.mem_cons.1 hf with rfl | hf
    · refine Field.sees_of Decoder.sees_string ?_
      rintro look draft v b ⟨-, hstop⟩ hb
      rw [putUnder_self, putUnder_of_ne (by decide)]
      exact ⟨.some hb, hstop⟩
    · rw [List.mem_singleton.1 hf]
      refine Field.sees_of Decoder.sees_string ?_
      rintro look draft v b ⟨hstart, -⟩ hb
      rw [putUnder_self, putUnder_of_ne (by decide)]
      exact ⟨hstart, .some hb⟩
  case unknown =>
    intro name look draft v hname hR
    have hstart : "start_time" ≠ name := hname _ List.mem_cons_self
    have hstop : "end_time" ≠ name := hname _ (List.mem_cons_of_mem _ List.mem_cons_self)
    rw [putUnder_of_ne hstart, putUnder_of_ne hstop]
    exact hR
  case names => decide
  case finish =>
    rintro v draft c hrecord ⟨hstart, hstop⟩ hmade
    cases hmade
    exact ⟨hrecord, stands_of_rel hstart "", stands_of_rel hstop ""⟩

/-- That of the part about the whole video has the text of the duration. -/
theorem tracks_format : formatShape.Tracks
    (fun look draft => Option.Rel IsText (look "duration") draft) FormatDepicts := by
  refine ⟨?blank, ?fields, ?unknown, ?names, ?finish⟩
  case blank => exact .none
  case fields =>
    intro f hf
    rw [List.mem_singleton.1 hf]
    refine Field.sees_of Decoder.sees_string ?_
    intro look draft v b _ hb
    rw [putUnder_self]
    exact .some hb
  case unknown =>
    intro name look draft v hname hR
    have hduration : "duration" ≠ name := hname _ List.mem_cons_self
    rw [putUnder_of_ne hduration]
    exact hR
  case names => decide
  case finish =>
    intro v draft duration hrecord hR hmade
    cases hmade
    exact ⟨hrecord, stands_of_rel hR ""⟩

/-- **That of the document** has what its two parts depict, the list of chapters item by item. -/
theorem Document.tracks : Document.shape.Tracks
    (fun look draft => Option.Rel FormatDepicts (look "format") draft.duration ∧
      Option.Rel ChaptersDepict (look "chapters") draft.chapters) Depicts := by
  refine ⟨?blank, ?fields, ?unknown, ?names, ?finish⟩
  case blank => exact ⟨.none, .none⟩
  case fields =>
    intro f hf
    rcases List.mem_cons.1 hf with rfl | hf
    · refine Field.sees_of tracks_format.sees ?_
      rintro look draft v b ⟨-, hchapters⟩ hb
      rw [putUnder_self, putUnder_of_ne (by decide)]
      exact ⟨.some hb, hchapters⟩
    · rw [List.mem_singleton.1 hf]
      refine Field.sees_of ChapterTimes.tracks.sees.list ?_
      rintro look draft v b ⟨hduration, -⟩ hb
      rw [putUnder_self, putUnder_of_ne (by decide)]
      exact ⟨hduration, .some hb⟩
  case unknown =>
    intro name look draft v hname hR
    have hformat : "format" ≠ name := hname _ List.mem_cons_self
    have hchapters : "chapters" ≠ name := hname _ (List.mem_cons_of_mem _ List.mem_cons_self)
    rw [putUnder_of_ne hformat, putUnder_of_ne hchapters]
    exact hR
  case names => decide
  case finish =>
    rintro v draft d hrecord ⟨hduration, hchapters⟩ hmade
    cases hmade
    exact ⟨hrecord, stands_of_rel hduration "", stands_of_rel hchapters []⟩

end Probe

end VideoProbe
