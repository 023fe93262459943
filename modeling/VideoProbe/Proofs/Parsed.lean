import Mathlib.Data.List.Forall2
import VideoProbe.Proofs.Members
import VideoProbe.Proofs.Numerals

/-!
# Lists, optional values and free values are read

The text of a list is read item by item, and that of a free value as the tree it was written from,
with the members of every object sorted by name (`Legible.readsBack`).  Both rest on one loop, in
which each item is taken by the same reader (`Takes`); what has to be known of an item besides is
that its text does not look like the end of a list (`Opens`).

A tree is legible if its numbers are and if not too many of its lists and objects stand inside each
other; so the induction on a legible tree is also the one on the levels that the reader allows.
-/

namespace VideoProbe.Json

/-- The text of a value begins, without a blank, with something else than the end of a list. -/
def Opens (v : Json) : Prop :=
  ∃ b r, v.octets = b :: r ∧ isBlankOctet b = false ∧ b ≠ closeList

/-- The reader takes the text of a tree for a value, and stops where the text ends. -/
def Takes (read : Reader α) (fuel : Nat) (v : Json) (a : α) : Prop :=
  ∀ rest, Ends rest → read fuel (v.octets ++ rest) = .ok (a, rest)

/-- So there are no blanks to skip in front of it. -/
theorem skipBlank_of_opens {v : Json} (h : Opens v) (rest : Octets) :
    skipBlank (v.octets ++ rest) = v.octets ++ rest := by
  obtain ⟨b, r, hv, hb, -⟩ := h
  rw [hv, List.cons_append, skipBlank, hb]
  rfl

/-- A text begins with its quotation mark. -/
theorem opens_str (s : String) : Opens (.str s) := by
  rw [Opens, octets_str]
  exact ⟨_, _, rfl, rfl, by decide⟩

/-- A list begins with its own bracket, also where it is empty. -/
theorem opens_array (items : List Json) : Opens (.array items) := by
  cases items with
  | nil => exact ⟨_, _, rfl, rfl, by decide⟩
  | cons v rest => exact ⟨_, _, rfl, rfl, by decide⟩

/-- An object begins with its brace. -/
theorem opens_object (members : List (String × Json)) : Opens (.object members) := by
  cases members with
  | nil => exact ⟨_, _, rfl, rfl, by decide⟩
  | cons m members =>
    rw [Opens, octets_object_cons]
    exact ⟨_, _, rfl, rfl, by decide⟩

/-! ## Lists

A list is written with a comma before every item but the first, and read by a loop that expects it
there.  The text of the later items is a definition of its own (`itemOctets`), because that is what
the loop has before it once the first item is gone, and the induction is on these items. -/

/-- The octets of the items after the first. -/
def itemOctets (items : List Json) : Octets :=
  Text.Utf8.encode (itemsChars items)

/-- The next item stands behind a comma. -/
theorem itemOctets_cons (v : Json) (items : List Json) :
    itemOctets (v :: items) = comma :: (v.octets ++ itemOctets items) := by
  show Text.Utf8.encode (',' :: (v.chars ++ itemsChars items)) = _
  rw [Text.Utf8.encode_cons, Text.Utf8.encode_append]
  rfl

/-- The first item stands behind the bracket, and what follows it has the form of later items. -/
theorem octets_array_cons (v : Json) (items : List Json) :
    (Json.array (v :: items)).octets =
      openList :: (v.octets ++ (itemOctets items ++ [closeList])) := by
  show Text.Utf8.encode ('[' :: (v.chars ++ (itemsChars items ++ [']']))) = _
  rw [Text.Utf8.encode_cons, Text.Utf8.encode_append, Text.Utf8.encode_append]
  rfl

/-- Behind an item there is a comma or the end of the list, and at either one a number ends. -/
theorem ends_items (items : List Json) (rest : Octets) :
    Ends (itemOctets items ++ closeList :: rest) := by
  intro b r h
  cases items with
  | nil =>
    obtain ⟨rfl, -⟩ := List.cons.inj h
    exact Or.inr (Or.inl rfl)
  | cons v items =>
    rw [itemOctets_cons] at h
    obtain ⟨rfl, -⟩ := List.cons.inj h
    exact Or.inl rfl

/-- An item takes at least one octet. -/
theorem length_le_itemOctets (items : List Json) : items.length ≤ (itemOctets items).length := by
  induction items with
  | nil => exact Nat.le_refl 0
  | cons v items ih =>
    rw [itemOctets_cons, List.length_cons, List.length_cons, List.length_append]
    omega

/-- No item is longer than the whole list. -/
theorem length_le_array {items : List Json} {v : Json} (h : v ∈ items) :
    v.octets.length ≤ (Json.array items).octets.length := by
  have hlater : ∀ items : List Json, v ∈ items → v.octets.length ≤ (itemOctets items).length := by
    intro items h
    induction items with
    | nil => exact nomatch h
    | cons w items ih =>
      rw [itemOctets_cons, List.length_cons, List.length_append]
      rcases List.mem_cons.1 h with rfl | h
      · omega
      · have := ih h
        omega
  cases items with
  | nil => exact nomatch h
  | cons w items =>
    rw [octets_array_cons, List.length_cons, List.length_append, List.length_append]
    rcases List.mem_cons.1 h with rfl | h
    · omega
    · have := hlater items h
      omega

/-- What every item of a list has to be for the list to be read. -/
def Item (read : Reader α) (fuel : Nat) (v : Json) (a : α) : Prop :=
  Opens v ∧ Takes read fuel v a

/-- One round of the loop takes one item, behind a comma unless it is the first. -/
theorem itemsLoop_item {read : Reader α} {fuel : Nat} {v : Json} {a : α} (h : Item read fuel v a)
    {more : Octets} (hends : Ends more) (first : Bool) (rounds : Nat) (done : List α) :
    itemsLoop read fuel (rounds + 1) first done ((if first then [] else [comma]) ++
        (v.octets ++ more)) =
      itemsLoop read fuel rounds false (a :: done) more := by
  obtain ⟨hopens, htakes⟩ := h
  have hskip := skipBlank_of_opens hopens more
  obtain ⟨b, r, hv, hb, hclose⟩ := hopens
  have hread := htakes more hends
  rw [hv, List.cons_append] at hskip hread ⊢
  -- The loop sees that there is an item, since its first octet does not end the list.
  have hnext : nextItem first ((if first then [] else [comma]) ++ (b :: (r ++ more))) =
      .ok (true, b :: (r ++ more)) := by
    cases first with
    | true =>
      show nextItem true (b :: (r ++ more)) = _
      unfold nextItem
      rw [hskip]
      dsimp only
      rw [if_neg hclose]
      rfl
    | false =>
      have hcomma : skipBlank (comma :: b :: (r ++ more)) = comma :: b :: (r ++ more) := rfl
      show nextItem false (comma :: b :: (r ++ more)) = _
      unfold nextItem
      rw [hcomma]
      dsimp only
      rw [if_neg (by decide), if_neg (by decide), if_pos rfl, hskip]
      dsimp only
      rw [if_neg hclose]
  rw [itemsLoop, hnext]
  dsimp only
  rw [hread]

/-- The items after the first are read back, by induction on the items.  Each takes one round, and
one more is needed to see that the list ends. -/
theorem itemsLoop_items {read : Reader α} {fuel : Nat} {vs : List Json} {as : List α}
    (h : List.Forall₂ (Item read fuel) vs as) (rounds : Nat) (hrounds : vs.length < rounds)
    (done : List α) (rest : Octets) :
    itemsLoop read fuel rounds false done (itemOctets vs ++ closeList :: rest) =
      .ok (done.reverse ++ as, closeList :: rest) := by
  induction h generalizing rounds done with
  | nil =>
    obtain ⟨rounds, rfl⟩ : ∃ n, rounds = n + 1 := ⟨rounds - 1, by simp at hrounds; omega⟩
    rw [List.append_nil]
    rfl
  | @cons v a vs as hitem _ ih =>
    rw [List.length_cons] at hrounds
    obtain ⟨rounds, rfl⟩ : ∃ n, rounds = n + 1 := ⟨rounds - 1, by omega⟩
    have hone := itemsLoop_item hitem (ends_items vs rest) false rounds done
    have hmore := ih rounds (by omega) (a :: done)
    rw [itemOctets_cons, List.cons_append, List.append_assoc]
    refine hone.trans (hmore.trans ?_)
    simp

/-- All items of a list are read back, and its end is taken. -/
theorem readItems_array {read : Reader α} {fuel : Nat} {vs : List Json} {as : List α}
    (h : List.Forall₂ (Item read fuel) vs as) (hfuel : (Json.array vs).octets.length < fuel)
    (rest : Octets) :
    ∃ s, (Json.array vs).octets ++ rest = openList :: s ∧
      readItems read fuel s = .ok (as, rest) := by
  have hloop : ∃ s, (Json.array vs).octets ++ rest = openList :: s ∧
      itemsLoop read fuel fuel true [] s = .ok (as, closeList :: rest) := by
    -- The fuel pays for the rounds as well, as an item takes an octet at least.
    obtain ⟨rounds, hrounds⟩ : ∃ n, fuel = n + 1 := ⟨fuel - 1, by omega⟩
    cases h with
    | nil =>
      refine ⟨closeList :: rest, rfl, ?_⟩
      rw [hrounds]
      rfl
    | @cons v a vs as hitem hitems =>
      have hlength := length_le_itemOctets vs
      rw [octets_array_cons] at hfuel ⊢
      simp only [List.length_cons, List.length_append, List.length_nil] at hfuel
      refine ⟨v.octets ++ (itemOctets vs ++ closeList :: rest), ?_, ?_⟩
      · simp only [List.cons_append, List.append_assoc, List.nil_append]
      · have hone := itemsLoop_item hitem (ends_items vs rest) true rounds []
        have hmore := itemsLoop_items hitems rounds (by omega) [a] rest
        rw [← hrounds] at hone
        exact hone.trans hmore
  obtain ⟨s, hs, hread⟩ := hloop
  refine ⟨s, hs, ?_⟩
  unfold readItems
  rw [hread]
  rfl

namespace Decoder

/-- **A list is read back** if its items are. -/
theorem readsBack_items {d : Decoder α} {levels : Nat} {vs : List Json} {as : List α}
    (h : List.Forall₂ (fun v a => Opens v ∧ d.ReadsBack levels v a) vs as) :
    d.list.ReadsBack (levels + 1) (.array vs) as := by
  intro nesting fuel rest hlevels hfuel _
  obtain ⟨inner, rfl⟩ : ∃ n, nesting = n + 1 := ⟨nesting - 1, by omega⟩
  -- What is fuel enough for the list is enough for each item.
  have hall : ∀ v ∈ vs, v.octets.length < fuel := by
    intro v hv
    have hlength := length_le_array hv
    omega
  have hitems : List.Forall₂ (Item (d.read inner) fuel) vs as := by
    clear hfuel
    induction h with
    | nil => exact .nil
    | cons hva _ ih =>
      obtain ⟨hv, hall⟩ := List.forall_mem_cons.1 hall
      exact .cons ⟨hva.1, fun rest => hva.2 inner fuel rest (by omega) hv⟩ (ih hall)
  obtain ⟨s, hs, hread⟩ := readItems_array hitems hfuel rest
  rw [hs]
  exact hread

/-- A list that was written item by item is read back. -/
theorem readsBack_list {d : Decoder α} {levels : Nat} {f : α → Json} {as : List α}
    (h : ∀ a ∈ as, Opens (f a) ∧ d.ReadsBack levels (f a) a) :
    d.list.ReadsBack (levels + 1) (.array (as.map f)) as := by
  apply readsBack_items
  rw [List.forall₂_map_left_iff, List.forall₂_same]
  exact h

end Decoder

/-! ## Optional values, alternatives and values made from others

These decoders look at no more than the first octets of a value, or at the value once it is read.
So each of them reads a value back if the one that it is made from does. -/

namespace Decoder

/-- **An optional value is read back** if its text does not look like null. -/
theorem readsBack_optional {d : Decoder α} {levels : Nat} {v : Json} {a : α}
    (hopens : Opens v) (hnull : v.octets.head? ≠ some 0x6E) (h : d.ReadsBack levels v a) :
    d.optional.ReadsBack levels v (some a) := by
  intro nesting fuel rest hlevels hfuel hends
  have hread := h nesting fuel rest hlevels hfuel hends
  have hskip := skipBlank_of_opens hopens rest
  obtain ⟨b, r, hv, -, -⟩ := hopens
  -- The first octet is not the n of null, so the value itself is read.
  rw [hv, List.head?_cons, Ne, Option.some.injEq] at hnull
  unfold Decoder.optional
  dsimp only
  rw [hskip]
  rw [hv, List.cons_append] at hread ⊢
  dsimp only
  rw [if_neg hnull, hread]

/-- What is made of a value is read back if the value is. -/
theorem readsBack_map {d : Decoder α} {levels : Nat} {v : Json} {a : α} (f : α → β)
    (h : d.ReadsBack levels v a) : (d.map f).ReadsBack levels v (f a) := by
  intro nesting fuel rest hlevels hfuel hends
  unfold Decoder.map
  dsimp only
  rw [h nesting fuel rest hlevels hfuel hends]

/-- The same where making it may fail, if here it does not. -/
theorem readsBack_refine {d : Decoder α} {levels : Nat} {v : Json} {a : α} {b : β}
    {f : α → Except String β} (hf : f a = .ok b) (h : d.ReadsBack levels v a) :
    (d.refine f).ReadsBack levels v b := by
  intro nesting fuel rest hlevels hfuel hends
  unfold Decoder.refine
  dsimp only
  rw [h nesting fuel rest hlevels hfuel hends]
  dsimp only
  rw [hf]

end Decoder

/-- **An alternative is read back** from its one member if what it carries is. -/
theorem Choice.readsBack {choice : Choice α} {name : String} {p : Payload α} {levels : Nat}
    {v : Json} {a : α} (hp : choice.payload name = .ok p) (h : p.decoder.ReadsBack levels v a) :
    choice.decoder.ReadsBack (levels + 1) (.object [(name, v)]) a := by
  intro nesting fuel rest hlevels hfuel _
  obtain ⟨inner, rfl⟩ : ∃ n, nesting = n + 1 := ⟨nesting - 1, by omega⟩
  rw [octets_object_cons] at hfuel ⊢
  simp only [List.length_cons, List.length_append] at hfuel
  have hends : Ends (closeObject :: rest) := ends_members [] rest
  have hvalue := h inner fuel (closeObject :: rest) (by omega) (by omega) hends
  have hname := readString_written name fuel (colon :: (v.octets ++ closeObject :: rest)) (by omega)
  have hnext := nextMember_written true name (colon :: (v.octets ++ closeObject :: rest))
  have hskip (s : Octets) : skipBlank (openObject :: s) = openObject :: s := rfl
  have hcolon : takeColon (colon :: (v.octets ++ closeObject :: rest)) =
    .ok ((), v.octets ++ closeObject :: rest) := rfl
  have hclose : skipBlank (closeObject :: rest) = closeObject :: rest := rfl
  have hwhole : openObject :: ((Json.str name).octets ++ colon :: (v.octets ++
      (memberOctets [] ++ [closeObject]))) ++ rest =
        openObject :: ((Json.str name).octets ++ colon :: (v.octets ++ closeObject :: rest)) := by
    have hnothing : memberOctets [] = [] := rfl
    simp only [hnothing, List.cons_append, List.append_assoc, List.nil_append]
  rw [hwhole]
  -- The brace, the name, the colon, the value and the other brace, in this order.
  unfold Choice.decoder
  dsimp only
  rw [hskip]
  dsimp only
  rw [if_pos rfl]
  rw [if_pos rfl, List.nil_append] at hnext
  rw [hnext]
  dsimp only
  unfold Choice.readMember
  rw [hname]
  dsimp only
  rw [hp]
  dsimp only
  rw [hcolon]
  dsimp only
  rw [hvalue]
  dsimp only
  rw [hclose]
  dsimp only
  rw [if_pos rfl]

/-! ## Free values

The members of an object are read as the items of a list are, with a name and a colon before each.
What is different is that each is put in its place by name, so the tree that comes back has them in
order, and the last of two with the same name counts. -/

/-- What every member of an object has to be for the object to be read. -/
def Member (read : Reader Json) (fuel : Nat) (m m' : String × Json) : Prop :=
  m.1 = m'.1 ∧ (Json.str m.1).octets.length < fuel ∧ Takes read fuel m.2 m'.2

/-- One round of the loop takes one member, behind a comma unless it is the first. -/
theorem membersLoop_one {read : Reader Json} {fuel : Nat} {name : String} {v v' : Json}
    (h : Member read fuel (name, v) (name, v')) {more : Octets} (hends : Ends more) (first : Bool)
    (rounds : Nat) (done : List (String × Json)) :
    membersLoop read fuel (rounds + 1) first done ((if first then [] else [comma]) ++
        ((Json.str name).octets ++ colon :: (v.octets ++ more))) =
      membersLoop read fuel rounds false (insertMember name v' done) more := by
  obtain ⟨-, hname, htakes⟩ := h
  have hstring := readString_written name fuel (colon :: (v.octets ++ more)) hname
  have hcolon : takeColon (colon :: (v.octets ++ more)) = .ok ((), v.octets ++ more) := rfl
  have hnext := nextMember_written first name (colon :: (v.octets ++ more))
  rw [membersLoop, hnext]
  dsimp only
  rw [hstring]
  dsimp only
  rw [hcolon]
  dsimp only
  rw [htakes more hends]

/-- The members after the first are read back, each put in its place, by induction on them. -/
theorem membersLoop_rest {read : Reader Json} {fuel : Nat} {ms ms' : List (String × Json)}
    (h : List.Forall₂ (Member read fuel) ms ms') (rounds : Nat) (hrounds : ms.length < rounds)
    (done : List (String × Json)) (rest : Octets) :
    membersLoop read fuel rounds false done (memberOctets ms ++ closeObject :: rest) =
      .ok (ms'.foldl (fun done m => insertMember m.1 m.2 done) done, closeObject :: rest) := by
  induction h generalizing rounds done with
  | nil =>
    obtain ⟨rounds, rfl⟩ : ∃ n, rounds = n + 1 := ⟨rounds - 1, by simp at hrounds; omega⟩
    rfl
  | @cons m m' ms ms' hmember _ ih =>
    obtain ⟨name, v⟩ := m
    obtain ⟨name', v'⟩ := m'
    obtain rfl : name = name' := hmember.1
    rw [List.length_cons] at hrounds
    obtain ⟨rounds, rfl⟩ : ∃ n, rounds = n + 1 := ⟨rounds - 1, by omega⟩
    have hone := membersLoop_one hmember (ends_members ms rest) false rounds done
    have hmore := ih rounds (by omega) (insertMember name v' done)
    rw [memberOctets_cons]
    simp only [List.cons_append, List.append_assoc]
    exact hone.trans hmore

/-- All members of an object are read back, sorted by name, and its end is taken. -/
theorem readMembers_object {read : Reader Json} {fuel : Nat} {ms ms' : List (String × Json)}
    (h : List.Forall₂ (Member read fuel) ms ms')
    (hfuel : (Json.object ms).octets.length < fuel) (rest : Octets) :
    ∃ s, (Json.object ms).octets ++ rest = openObject :: s ∧
      readMembers read fuel s = .ok (sortMembers ms', rest) := by
  have hloop : ∃ s, (Json.object ms).octets ++ rest = openObject :: s ∧
      membersLoop read fuel fuel true [] s = .ok (sortMembers ms', closeObject :: rest) := by
    -- As with lists, the fuel pays for the rounds as well.
    obtain ⟨rounds, hrounds⟩ : ∃ n, fuel = n + 1 := ⟨fuel - 1, by omega⟩
    cases h with
    | nil =>
      refine ⟨closeObject :: rest, rfl, ?_⟩
      rw [hrounds]
      rfl
    | @cons m m' ms ms' hmember hmembers =>
      obtain ⟨name, v⟩ := m
      obtain ⟨name', v'⟩ := m'
      obtain rfl : name = name' := hmember.1
      have hlength := length_le_memberOctets ms
      rw [octets_object_cons] at hfuel ⊢
      simp only [List.length_cons, List.length_append, List.length_nil] at hfuel
      refine ⟨(Json.str name).octets ++ colon :: (v.octets ++ (memberOctets ms ++
        closeObject :: rest)), ?_, ?_⟩
      · simp only [List.cons_append, List.append_assoc, List.nil_append]
      · have hone := membersLoop_one hmember (ends_members ms rest) true rounds []
        have hmore := membersLoop_rest hmembers rounds (by omega) (insertMember name v' []) rest
        rw [← hrounds] at hone
        exact hone.trans hmore
  obtain ⟨s, hs, hread⟩ := hloop
  refine ⟨s, hs, ?_⟩
  unfold readMembers
  rw [hread]
  rfl

/-- No member is longer than the whole object. -/
theorem length_le_object {ms : List (String × Json)} {m : String × Json} (h : m ∈ ms) :
    (Json.str m.1).octets.length ≤ (Json.object ms).octets.length ∧
      m.2.octets.length ≤ (Json.object ms).octets.length := by
  have hlater : ∀ ms : List (String × Json), m ∈ ms →
      (Json.str m.1).octets.length ≤ (memberOctets ms).length ∧
        m.2.octets.length ≤ (memberOctets ms).length := by
    intro ms h
    induction ms with
    | nil => exact nomatch h
    | cons m' ms ih =>
      rw [memberOctets_cons, List.length_cons, List.length_append, List.length_cons,
        List.length_append]
      rcases List.mem_cons.1 h with rfl | h
      · omega
      · have := ih h
        omega
  cases ms with
  | nil => exact nomatch h
  | cons m' ms =>
    rw [octets_object_cons, List.length_cons, List.length_append, List.length_cons,
      List.length_append, List.length_append]
    rcases List.mem_cons.1 h with rfl | h
    · omega
    · have := hlater ms h
      omega

/-- A tree whose numbers are read back from their own texts, and in which at most some number of
lists and objects stand inside each other. -/
inductive Legible : Nat → Json → Prop
  | null (levels : Nat) : Legible levels .null
  | bool (levels : Nat) (b : Bool) : Legible levels (.bool b)
  | int (levels : Nat) {n : Int} (h : readNumeral (Json.int n).octets = .ok (.whole n, [])) :
      Legible levels (.int n)
  | real (levels : Nat) {x : Float} (h : readNumeral (Json.real x).octets = .ok (.real x, [])) :
      Legible levels (.real x)
  | str (levels : Nat) (s : String) : Legible levels (.str s)
  | array {levels : Nat} {items : List Json} (h : ∀ v ∈ items, Legible levels v) :
      Legible (levels + 1) (.array items)
  | object {levels : Nat} {members : List (String × Json)} (h : ∀ m ∈ members, Legible levels m.2) :
      Legible (levels + 1) (.object members)

/-- A number begins with none of the octets by which anything else is told. -/
theorem ne_of_startsNumber {b : UInt8} (h : startsNumber b = true) :
    isBlankOctet b = false ∧ b ≠ closeList ∧ b ≠ 0x6E ∧ b ≠ 0x74 ∧ b ≠ 0x66 := by
  -- The last three are the first letters of null, true and false.
  refine ⟨?_, ?_, ?_, ?_, ?_⟩
  · cases hb : isBlankOctet b with
    | false => rfl
    | true =>
      simp only [isBlankOctet, Bool.or_eq_true, beq_iff_eq] at hb
      rcases hb with ((rfl | rfl) | rfl) | rfl <;> exact absurd h (by decide)
  all_goals
    rintro rfl
    exact absurd h (by decide)

/-- The octets of a number that is read back. -/
theorem octets_of_readNumeral {v : Json} {n : Numeral × Octets} (h : readNumeral v.octets = .ok n) :
    ∃ b r, v.octets = b :: r ∧ startsNumber b = true := by
  cases hv : v.octets with
  | nil =>
    rw [hv] at h
    exact nomatch h
  | cons b r =>
    rw [hv] at h
    exact ⟨b, r, rfl, startsNumber_of_readNumeral h⟩

/-- A number opens the text it stands in. -/
theorem opens_of_readNumeral {v : Json} {n : Numeral × Octets} (h : readNumeral v.octets = .ok n) :
    Opens v := by
  obtain ⟨b, r, hv, hb⟩ := octets_of_readNumeral h
  obtain ⟨hblank, hclose, -⟩ := ne_of_startsNumber hb
  exact ⟨b, r, hv, hblank, hclose⟩

/-- So does every legible tree. -/
theorem Legible.opens {levels : Nat} {v : Json} (h : Legible levels v) : Opens v := by
  cases h with
  | null => exact ⟨_, _, rfl, rfl, by decide⟩
  | bool levels b => cases b <;> exact ⟨_, _, rfl, rfl, by decide⟩
  | int levels h => exact opens_of_readNumeral h
  | real levels h => exact opens_of_readNumeral h
  | str levels s => exact opens_str s
  | array h => exact opens_array _
  | object h => exact opens_object _

/-- A number as a tree. -/
def Numeral.json : Numeral → Json
  | whole n => .int n
  | real x => .real x

/-- A number that is read back from its own text is read back inside a longer one, if what follows
is no part of a number. -/
theorem readValueWith_number {v : Json} {n : Numeral} (h : readNumeral v.octets = .ok (n, []))
    (inner : Option (Reader Json)) (fuel : Nat) {rest : Octets} (hends : Ends rest) :
    readValueWith inner fuel (v.octets ++ rest) = .ok (n.json, rest) := by
  have hread := extends_readNumeral _ _ rest h hends
  have hskip := skipBlank_of_opens (opens_of_readNumeral h) rest
  obtain ⟨b, r, hv, hb⟩ := octets_of_readNumeral h
  obtain ⟨-, -, hnull, htrue, hfalse⟩ := ne_of_startsNumber hb
  unfold readValueWith
  rw [hskip]
  rw [hv, List.cons_append] at hread ⊢
  dsimp only
  rw [if_neg hnull, if_neg htrue, if_neg hfalse, if_pos hb, hread]
  cases n <;> rfl

/-- A text is read back as a value, whatever stands behind it. -/
theorem readValueWith_str (s : String) (inner : Option (Reader Json)) {fuel : Nat}
    (hfuel : (Json.str s).octets.length < fuel) (rest : Octets) :
    readValueWith inner fuel ((Json.str s).octets ++ rest) = .ok (.str s, rest) := by
  have hread := readString_written s fuel rest hfuel
  have hskip := skipBlank_of_opens (opens_str s) rest
  unfold readValueWith
  rw [hskip, octets_str, List.cons_append, List.append_assoc, List.singleton_append]
  dsimp only
  rw [if_neg (by decide), if_neg (by decide), if_neg (by decide), if_neg (by decide), if_pos rfl,
    hread]

/-- Behind a bracket the reader of a value takes items. -/
theorem readValueWith_list {inner : Reader Json} {fuel : Nat} {s rest : Octets} {items : List Json}
    (h : readItems inner fuel s = .ok (items, rest)) :
    readValueWith (some inner) fuel (openList :: s) = .ok (.array items, rest) := by
  have hskip : skipBlank (openList :: s) = openList :: s := rfl
  unfold readValueWith
  rw [hskip]
  dsimp only
  rw [if_neg (by decide), if_neg (by decide), if_neg (by decide), if_neg (by decide),
    if_neg (by decide), if_pos rfl, h]

/-- And behind a brace it takes members. -/
theorem readValueWith_object {inner : Reader Json} {fuel : Nat} {s rest : Octets}
    {members : List (String × Json)} (h : readMembers inner fuel s = .ok (members, rest)) :
    readValueWith (some inner) fuel (openObject :: s) = .ok (.object members, rest) := by
  have hskip : skipBlank (openObject :: s) = openObject :: s := rfl
  unfold readValueWith
  rw [hskip]
  dsimp only
  rw [if_neg (by decide), if_neg (by decide), if_neg (by decide), if_neg (by decide),
    if_neg (by decide), if_neg (by decide), if_pos rfl, h]

/-- What has no levels is read in the same way on every level. -/
theorem readsBack_scalar {v v' : Json} (levels : Nat)
    (h : ∀ inner fuel rest, v.octets.length < fuel → Ends rest →
      readValueWith inner fuel (v.octets ++ rest) = .ok (v', rest)) :
    Decoder.value.ReadsBack levels v v' := by
  intro nesting fuel rest _ hfuel hends
  cases nesting with
  | zero => exact h none fuel rest hfuel hends
  | succ nesting => exact h (some (readValue nesting)) fuel rest hfuel hends

/-- **A legible tree is read back**, with the members of its objects sorted. -/
theorem Legible.readsBack {levels : Nat} {v : Json} (h : Legible levels v) :
    Decoder.value.ReadsBack levels v v.sorted := by
  -- The levels of the tree are those that the reader has left, so inside a list or an object both
  -- go down by one.
  induction h with
  | null levels => exact readsBack_scalar levels fun _ _ _ _ _ => rfl
  | bool levels b => cases b <;> exact readsBack_scalar levels fun _ _ _ _ _ => rfl
  | int levels h =>
    exact readsBack_scalar levels fun inner fuel _ _ hends =>
      readValueWith_number h inner fuel hends
  | real levels h =>
    exact readsBack_scalar levels fun inner fuel _ _ hends =>
      readValueWith_number h inner fuel hends
  | str levels s =>
    exact readsBack_scalar levels fun inner _ rest hfuel _ => readValueWith_str s inner hfuel rest
  | @array levels items h ih =>
    intro nesting fuel rest hlevels hfuel _
    obtain ⟨inner, rfl⟩ : ∃ n, nesting = n + 1 := ⟨nesting - 1, by omega⟩
    have hitems : List.Forall₂ (Item (readValue inner) fuel) items (items.map sorted) := by
      rw [List.forall₂_map_right_iff, List.forall₂_same]
      intro v hv
      have hlength := length_le_array hv
      exact ⟨(h v hv).opens, fun rest => ih v hv inner fuel rest (by omega) (by omega)⟩
    obtain ⟨s, hs, hread⟩ := readItems_array hitems hfuel rest
    rw [hs, Json.sorted, sortedItems_eq_map]
    exact readValueWith_list hread
  | @object levels members h ih =>
    intro nesting fuel rest hlevels hfuel _
    obtain ⟨inner, rfl⟩ : ∃ n, nesting = n + 1 := ⟨nesting - 1, by omega⟩
    have hmembers : List.Forall₂ (Member (readValue inner) fuel) members
        (members.map fun m => (m.1, m.2.sorted)) := by
      rw [List.forall₂_map_right_iff, List.forall₂_same]
      intro m hm
      have hlength := length_le_object hm
      exact ⟨rfl, by omega, fun rest => ih m hm inner fuel rest (by omega) (by omega)⟩
    obtain ⟨s, hs, hread⟩ := readMembers_object hmembers hfuel rest
    rw [hs, Json.sorted, sortedMembers_eq_map]
    exact readValueWith_object hread

end VideoProbe.Json
