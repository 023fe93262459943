import VideoProbe.Proofs.Agreeing
import VideoProbe.Proofs.Parsed

/-!
# Values that are passed over

A member that nobody asked for is passed over without being read, and less is checked of it than of
a value that is read.  Where the two do agree that there is a value, they agree on where it ends
(`sameEnd_value`): so what stands after a member does not depend on whether somebody asked for it.

The loop that passes over a value keeps the open lists and objects on a stack, while a reader calls
itself.  The crux is therefore about the loop in the middle of its work: where a reader has read a
value, the loop, whatever is on its stack, comes to the point behind that value (`resumes_of_read`,
by induction on how many levels the reader may enter).
-/

namespace VideoProbe.Json

/-! ## How a value was read

The reader of values looks at one octet after the other until one of them fits.  Here that is undone
once: from a value that was read comes the octet it began with and the reader that took the rest, as
one of seven cases.  The comparison with the loop below, and that with the decoders of records, are
case analyses on them. -/

/-- How a value was read, by its first octet.  This is the reader of values as a relation, with one
line for each kind of value; what is inside a list or an object is read by `inner`, if the reader
may go there at all. -/
inductive ValueRead (inner : Option (Reader Json)) (fuel : Nat) : Octets → Json → Octets → Prop
  | null {r rest : Octets} {u : Unit} (h : takeWord nullTail r = .ok (u, rest)) :
      ValueRead inner fuel (0x6E :: r) .null rest
  | true {r rest : Octets} {u : Unit} (h : takeWord trueTail r = .ok (u, rest)) :
      ValueRead inner fuel (0x74 :: r) (.bool true) rest
  | false {r rest : Octets} {u : Unit} (h : takeWord falseTail r = .ok (u, rest)) :
      ValueRead inner fuel (0x66 :: r) (.bool false) rest
  | number {b : UInt8} {r rest : Octets} {n : Numeral} (hb : startsNumber b = true)
      (h : readNumeral (b :: r) = .ok (n, rest)) : ValueRead inner fuel (b :: r) n.json rest
  | string {r rest : Octets} {t : String} (h : readString fuel r = .ok (t, rest)) :
      ValueRead inner fuel (quoteMark :: r) (.str t) rest
  | list {reader : Reader Json} {r rest : Octets} {items : List Json} (hinner : inner = some reader)
      (h : readItems reader fuel r = .ok (items, rest)) :
      ValueRead inner fuel (openList :: r) (.array items) rest
  | object {reader : Reader Json} {r rest : Octets} {members : List (String × Json)}
      (hinner : inner = some reader) (h : readMembers reader fuel r = .ok (members, rest)) :
      ValueRead inner fuel (openObject :: r) (.object members) rest

/-- A value that was read was read in one of these ways.  The tests of the reader are followed in
their order: each of them decides, or it is out of the way from there on. -/
theorem valueRead_of_ok {inner : Option (Reader Json)} {fuel : Nat} {s rest : Octets} {v : Json}
    (h : readValueWith inner fuel s = .ok (v, rest)) :
    ValueRead inner fuel (skipBlank s) v rest := by
  unfold readValueWith at h
  rcases hs : skipBlank s with _ | ⟨b, r⟩
  · rw [hs] at h
    exact nomatch h
  · rw [hs] at h
    dsimp only at h
    by_cases hnull : b = 0x6E
    · subst hnull
      rcases hword : takeWord nullTail r with f | ⟨u, r'⟩
      · rw [if_pos rfl, hword] at h
        exact nomatch h
      · rw [if_pos rfl, hword] at h
        cases h
        exact .null hword
    rw [if_neg hnull] at h
    by_cases htrue : b = 0x74
    · subst htrue
      rcases hword : takeWord trueTail r with f | ⟨u, r'⟩
      · rw [if_pos rfl, hword] at h
        exact nomatch h
      · rw [if_pos rfl, hword] at h
        cases h
        exact .true hword
    rw [if_neg htrue] at h
    by_cases hfalse : b = 0x66
    · subst hfalse
      rcases hword : takeWord falseTail r with f | ⟨u, r'⟩
      · rw [if_pos rfl, hword] at h
        exact nomatch h
      · rw [if_pos rfl, hword] at h
        cases h
        exact .false hword
    rw [if_neg hfalse] at h
    by_cases hnumber : startsNumber b = true
    · rcases hn : readNumeral (b :: r) with f | ⟨n, r'⟩
      · rw [if_pos hnumber, hn] at h
        exact nomatch h
      · rw [if_pos hnumber, hn] at h
        cases n <;> (cases h; exact .number hnumber hn)
    rw [if_neg hnumber] at h
    by_cases hquote : b = quoteMark
    · subst hquote
      rcases ht : readString fuel r with f | ⟨t, r'⟩
      · rw [if_pos rfl, ht] at h
        exact nomatch h
      · rw [if_pos rfl, ht] at h
        cases h
        exact .string ht
    rw [if_neg hquote] at h
    by_cases hlist : b = openList
    · subst hlist
      rw [if_pos rfl] at h
      cases inner with
      | none => exact nomatch h
      | some reader =>
        dsimp only at h
        rcases hitems : readItems reader fuel r with f | ⟨items, r'⟩
        · rw [hitems] at h
          exact nomatch h
        · rw [hitems] at h
          cases h
          exact .list rfl hitems
    rw [if_neg hlist] at h
    by_cases hobject : b = openObject
    · subst hobject
      rw [if_pos rfl] at h
      cases inner with
      | none => exact nomatch h
      | some reader =>
        dsimp only at h
        rcases hmembers : readMembers reader fuel r with f | ⟨members, r'⟩
        · rw [hmembers] at h
          exact nomatch h
        · rw [hmembers] at h
          cases h
          exact .object rfl hmembers
    -- No value begins with any other octet.
    rw [if_neg hobject] at h
    exact nomatch h

/-! ## The loop in the middle of its work

`skipLoop` is entered before a value, with the enclosures that are still open on a stack.  Behind a
value it closes as many of them as end there, and goes on with the next value or is done.  Both
halves of a round have a name here, so that the loop can be spoken of at any point: `resumeAt`
stands before a value or the name of a member, `resume` wherever an enclosure may end.

What is proved about it leaves the stack open.  A loop that is done with a value has the stack it
began with, but it has been deeper in between, and the values inside are where the induction
hypothesis is used. -/

section Values

variable {fuel : Nat}

/-- The loop that passes over a value goes on with the next value inside some enclosures. -/
def resumeAt (fuel rounds : Nat) (stack : List Enclosure) (s : Octets) : Reading Unit :=
  match skipName fuel stack s with
  | .error f => .error f
  | .ok (_, rest) => skipLoop fuel rounds stack rest

/-- It goes on before or after a value inside some enclosures: there is an end, or a next value. -/
def resume (fuel rounds : Nat) (afterValue : Bool) (stack : List Enclosure) (s : Octets) :
    Reading Unit :=
  match unwind afterValue stack s with
  | .error f => .error f
  | .ok (none, rest) => .ok ((), rest)
  | .ok (some stack, rest) => resumeAt fuel rounds stack rest

/-- After a value that the loop has come to the end of, or not. -/
def resumeAfter (fuel rounds : Nat) (stack : List Enclosure) (r : Reading Unit) : Reading Unit :=
  match r with
  | .ok (_, rest) => resume fuel rounds true stack rest
  | .error f => .error f

/-- One round of the loop: a value without parts is passed over at once, and of a list or an object
only the opening, which goes on the stack. -/
theorem skipLoop_succ {s r : Octets} {b : UInt8} (hs : skipBlank s = b :: r) (rounds : Nat)
    (stack : List Enclosure) :
    skipLoop fuel (rounds + 1) stack s =
      if b = 0x6E then resumeAfter fuel rounds stack (takeWord nullTail r)
      else if b = 0x74 then resumeAfter fuel rounds stack (takeWord trueTail r)
      else if b = 0x66 then resumeAfter fuel rounds stack (takeWord falseTail r)
      else if b = minusSign then resumeAfter fuel rounds stack (skipNumber r)
      else if isDigitOctet b then resumeAfter fuel rounds stack (skipNumber (b :: r))
      else if b = quoteMark then resumeAfter fuel rounds stack (skipString fuel r)
      else if b = openList then resume fuel rounds false (.list :: stack) r
      else if b = openObject then resume fuel rounds false (.object :: stack) r
      else faultAt .expectedValue r := by
  unfold skipLoop
  rw [hs]
  rfl

/-- The end of an enclosure leads out of it. -/
theorem resume_close {e : Enclosure} {s r : Octets} (hs : skipBlank s = e.close :: r)
    (rounds : Nat) (afterValue : Bool) (outer : List Enclosure) :
    resume fuel rounds afterValue (e :: outer) s = resume fuel rounds true outer r := by
  have hunwind : unwind afterValue (e :: outer) s = unwind true outer r := by
    -- A comma is looked for before the end of an enclosure, and no end is one.
    have hcomma : ¬ (e.close = comma ∧ afterValue = true) := by
      cases e <;> exact fun h => absurd h.1 (by decide)
    rw [unwind, hs]
    dsimp only
    rw [if_neg hcomma, if_pos rfl]
    cases outer <;> rfl
  unfold resume
  rw [hunwind]

/-- A comma leads to the next value. -/
theorem resume_comma {e : Enclosure} {s r : Octets} (hs : skipBlank s = comma :: r) (rounds : Nat)
    (outer : List Enclosure) :
    resume fuel rounds true (e :: outer) s =
      resumeAt fuel rounds (e :: outer) r := by
  have hunwind : unwind true (e :: outer) s = .ok (some (e :: outer), r) := by
    rw [unwind, hs]
    rfl
  unfold resume
  rw [hunwind]

/-- Where an enclosure is not empty, its first value follows. -/
theorem resume_first {e : Enclosure} {s r : Octets} {b : UInt8} (hs : skipBlank s = b :: r)
    (hb : b ≠ e.close) (rounds : Nat) (outer : List Enclosure) :
    resume fuel rounds false (e :: outer) s = resumeAt fuel rounds (e :: outer) (b :: r) := by
  have hunwind : unwind false (e :: outer) s = .ok (some (e :: outer), b :: r) := by
    rw [unwind, hs]
    dsimp only
    rw [if_neg (by simp), if_neg hb, if_neg (by simp)]
  unfold resume
  rw [hunwind]

/-- In an object the next value is that of the next member. -/
theorem resumeAt_object {s s' t t' : Octets} {name : String} {u : Unit} {rounds : Nat}
    {outer : List Enclosure} {out : Octets} (hs : skipBlank s = quoteMark :: s')
    (hname : readString fuel s' = .ok (name, t)) (hcolon : takeColon t = .ok (u, t'))
    (h : resumeAt fuel rounds (.object :: outer) s = .ok ((), out)) :
    skipLoop fuel rounds (.object :: outer) t' = .ok ((), out) := by
  unfold resumeAt skipName at h
  rw [hs] at h
  dsimp only at h
  rw [if_pos rfl] at h
  rcases hskip : skipString fuel s' with f | ⟨u', r⟩
  · rw [hskip] at h
    exact nomatch h
  · -- The name is not read but passed over, and it ends at the same place.
    obtain ⟨rfl, -⟩ := sameEnd_string fuel s' name t u' r hname hskip
    rw [hskip] at h
    dsimp only at h
    rw [hcolon] at h
    exact h

/-- White space before a value does not matter. -/
theorem skipLoop_skipBlank {rounds : Nat} {stack : List Enclosure} {s : Octets}
    {x : Unit × Octets} (h : skipLoop fuel rounds stack s = .ok x) :
    skipLoop fuel rounds stack (skipBlank s) = .ok x := by
  cases rounds with
  | zero => exact nomatch h
  | succ rounds =>
    unfold skipLoop at h ⊢
    rw [skipBlank_skipBlank]
    exact h

/-! ## From a reader to the loop

A reader of a value calls itself for the values inside, and a loop of its own takes it from one item
or member to the next.  So there are two inductions: on the rounds of that loop (`resume_items`,
`resume_members`), where the hypothesis about the values inside is an assumption, and on the levels
that the reader may enter (`resumes_of_read`), which provides it.  The loop that passes over the
value has rounds as well.  They are not counted: what is claimed is only that some number of them is
left. -/

/-- The loop comes to the point behind what a reader has read: if it comes to an end from before the
value, whatever is on its stack, it comes to the same end from behind it.  How many rounds it has
left there is not said; they are not the reader's. -/
def Resumes (fuel : Nat) (s rest : Octets) : Prop :=
  ∀ rounds stack out, skipLoop fuel rounds stack s = .ok ((), out) →
    ∃ rounds, resume fuel rounds true stack rest = .ok ((), out)

/-- What comes next in a list: its end, or the first item if none was read before, or a comma and
one more item. -/
theorem nextItem_cases {first more : Bool} {s s' : Octets} (h : nextItem first s = .ok (more, s')) :
    (more = false ∧ ∃ r, skipBlank s = closeList :: r ∧ s' = closeList :: r) ∨
      (more = true ∧ first = true ∧ ∃ b r, skipBlank s = b :: r ∧ b ≠ closeList ∧ s' = b :: r) ∨
      (more = true ∧ first = false ∧ ∃ r, skipBlank s = comma :: r ∧ s' = skipBlank r) := by
  unfold nextItem at h
  rcases hs : skipBlank s with _ | ⟨b, r⟩
  · rw [hs] at h
    exact nomatch h
  · rw [hs] at h
    dsimp only at h
    by_cases hclose : b = closeList
    · rw [if_pos hclose] at h
      cases h
      exact Or.inl ⟨rfl, r, by rw [hclose], by rw [hclose]⟩
    · rw [if_neg hclose] at h
      cases first with
      | true =>
        cases h
        exact Or.inr (Or.inl ⟨rfl, rfl, b, r, rfl, hclose, rfl⟩)
      | false =>
        rw [if_neg (by simp)] at h
        by_cases hcomma : b = comma
        · rw [if_pos hcomma] at h
          subst hcomma
          rcases hr : skipBlank r with _ | ⟨c, r'⟩
          · rw [hr] at h
            exact nomatch h
          · rw [hr] at h
            dsimp only at h
            -- A comma at the end is a fault, so another item follows.
            by_cases hend : c = closeList
            · rw [if_pos hend] at h
              exact nomatch h
            · rw [if_neg hend] at h
              cases h
              exact Or.inr (Or.inr ⟨rfl, rfl, r, rfl, hr.symm⟩)
        · rw [if_neg hcomma] at h
          exact nomatch h

/-- What comes next in an object: its end, or the name of a member.  The mark before the name has
been taken along. -/
theorem nextMember_cases {first more : Bool} {s s' : Octets}
    (h : nextMember first s = .ok (more, s')) :
    (more = false ∧ ∃ r, skipBlank s = closeObject :: r ∧ s' = closeObject :: r) ∨
      (more = true ∧ first = true ∧ skipBlank s = quoteMark :: s') ∨
      (more = true ∧ first = false ∧ ∃ r, skipBlank s = comma :: r ∧
        skipBlank r = quoteMark :: s') := by
  unfold nextMember at h
  rcases hs : skipBlank s with _ | ⟨b, r⟩
  · rw [hs] at h
    exact nomatch h
  · rw [hs] at h
    dsimp only at h
    by_cases hclose : b = closeObject
    · rw [if_pos hclose] at h
      cases h
      exact Or.inl ⟨rfl, r, by rw [hclose], by rw [hclose]⟩
    · rw [if_neg hclose] at h
      -- A comma is looked for only where a member has been read before.
      cases first with
      | true =>
        rw [if_pos rfl] at h
        by_cases hquote : b = quoteMark
        · rw [if_pos hquote] at h
          cases h
          exact Or.inr (Or.inl ⟨rfl, rfl, by rw [hquote]⟩)
        · rw [if_neg hquote] at h
          exact nomatch h
      | false =>
        rw [if_neg (by simp)] at h
        by_cases hcomma : b = comma
        · rw [if_pos hcomma] at h
          subst hcomma
          rcases hr : skipBlank r with _ | ⟨c, r'⟩
          · rw [hr] at h
            exact nomatch h
          · rw [hr] at h
            dsimp only at h
            by_cases hquote : c = quoteMark
            · rw [if_pos hquote] at h
              cases h
              exact Or.inr (Or.inr ⟨rfl, rfl, r, rfl, by rw [hr, hquote]⟩)
            · rw [if_neg hquote] at h
              split at h <;> exact nomatch h
        · rw [if_neg hcomma] at h
          exact nomatch h

section Inside

variable {inner : Reader Json}
  (hinner : ∀ s v rest, inner fuel s = .ok (v, rest) → Resumes fuel s rest)

include hinner

/-- The items of a list, by induction on the rounds of its loop. -/
theorem resume_items {rounds : Nat} {first : Bool} {done items : List Json} {s s1 : Octets}
    (hread : itemsLoop inner fuel rounds first done s = .ok (items, s1)) {n : Nat}
    {outer : List Enclosure} {out : Octets}
    (h : resume fuel n (!first) (.list :: outer) s = .ok ((), out)) :
    ∃ n r, s1 = closeList :: r ∧ resume fuel n true outer r = .ok ((), out) := by
  -- The rounds are the reader's.  Those of the loop, `n`, are only carried along.
  induction rounds generalizing first done s n with
  | zero => cases hread
  | succ rounds ih =>
    unfold itemsLoop at hread
    rcases hnext : nextItem first s with f | ⟨more, s'⟩
    · rw [hnext] at hread
      cases hread
    · rw [hnext] at hread
      rcases nextItem_cases hnext with ⟨rfl, r, hs, rfl⟩ | ⟨rfl, rfl, b, r, hs, hb, rfl⟩ |
        ⟨rfl, rfl, r, hs, rfl⟩
      · -- The list is over for both.
        cases hread
        have hs' : skipBlank s = Enclosure.list.close :: r := hs
        rw [resume_close hs'] at h
        exact ⟨n, r, rfl, h⟩
      · -- The first item: the loop stands before it, and comes to the point behind it.
        dsimp only at hread
        rcases hv : inner fuel (b :: r) with f | ⟨v, s2⟩
        · rw [hv] at hread
          cases hread
        · rw [hv] at hread
          have hb' : b ≠ Enclosure.list.close := hb
          rw [Bool.not_true, resume_first hs hb'] at h
          obtain ⟨n', h'⟩ := hinner _ v s2 hv n (.list :: outer) out h
          exact ih hread h'
      · -- One more item: the reader has dropped the white space before it, the loop has not.
        dsimp only at hread
        rcases hv : inner fuel (skipBlank r) with f | ⟨v, s2⟩
        · rw [hv] at hread
          cases hread
        · rw [hv] at hread
          rw [Bool.not_false, resume_comma hs] at h
          obtain ⟨n', h'⟩ := hinner _ v s2 hv n (.list :: outer) out (skipLoop_skipBlank h)
          exact ih hread h'

/-- The members of an object, by induction on the rounds of its loop. -/
theorem resume_members {rounds : Nat} {first : Bool} {done members : List (String × Json)}
    {s s1 : Octets} (hread : membersLoop inner fuel rounds first done s = .ok (members, s1))
    {n : Nat} {outer : List Enclosure} {out : Octets}
    (h : resume fuel n (!first) (.object :: outer) s = .ok ((), out)) :
    ∃ n r, s1 = closeObject :: r ∧ resume fuel n true outer r = .ok ((), out) := by
  induction rounds generalizing first done s n with
  | zero => cases hread
  | succ rounds ih =>
    unfold membersLoop at hread
    rcases hnext : nextMember first s with f | ⟨more, s'⟩
    · rw [hnext] at hread
      cases hread
    · rw [hnext] at hread
      rcases nextMember_cases hnext with ⟨rfl, r, hs, rfl⟩ | hmember
      · cases hread
        have hs' : skipBlank s = Enclosure.object.close :: r := hs
        rw [resume_close hs'] at h
        exact ⟨n, r, rfl, h⟩
      · -- Before the first member or after a comma, the loop stands before a name.
        obtain ⟨rfl, q, hq, hat⟩ : more = true ∧ ∃ q, skipBlank q = quoteMark :: s' ∧
            resumeAt fuel n (.object :: outer) q = .ok ((), out) := by
          rcases hmember with ⟨rfl, rfl, hs⟩ | ⟨rfl, rfl, r, hs, hr⟩
          · have hquote : quoteMark ≠ Enclosure.object.close := by decide
            rw [Bool.not_true, resume_first hs hquote] at h
            exact ⟨rfl, quoteMark :: s', rfl, h⟩
          · rw [Bool.not_false, resume_comma hs] at h
            exact ⟨rfl, r, hr, h⟩
        dsimp only at hread
        rcases hname : readString fuel s' with f | ⟨name, t⟩
        · rw [hname] at hread
          cases hread
        · rw [hname] at hread
          dsimp only at hread
          rcases hcolon : takeColon t with f | ⟨u, t'⟩
          · rw [hcolon] at hread
            cases hread
          · rw [hcolon] at hread
            dsimp only at hread
            rcases hv : inner fuel t' with f | ⟨v, s2⟩
            · rw [hv] at hread
              cases hread
            · rw [hv] at hread
              have hvalue := resumeAt_object hq hname hcolon hat
              obtain ⟨n', h'⟩ := hinner _ v s2 hv n (.object :: outer) out hvalue
              exact ih hread h'

end Inside

/-- A value without parts is passed over as it is read, and the loop goes on behind it. -/
theorem resume_of_sameEnd {n : Nat} {stack : List Enclosure} {x : Reading α}
    {y : Reading Unit} (hagree : SameEnd x y) {a : α} {rest out : Octets} (hx : x = .ok (a, rest))
    (h : resumeAfter fuel n stack y = .ok ((), out)) :
    ∃ n, resume fuel n true stack rest = .ok ((), out) := by
  rcases y with f | ⟨u, rest'⟩
  · exact nomatch h
  · obtain ⟨rfl, -⟩ := hagree a rest u rest' hx rfl
    exact ⟨n, h⟩

/-- A number is passed over as it is read.  The loop takes the minus sign for itself, the reader
does not. -/
theorem sameEnd_numeral {b : UInt8} (r : Octets) :
    SameEnd (readNumeral (b :: r)) (if b = minusSign then skipNumber r else skipNumber (b :: r)) := by
  unfold readNumeral
  dsimp only
  by_cases hminus : b = minusSign
  · rw [if_pos hminus, if_pos hminus]
    exact sameEnd_unsigned true r
  · rw [if_neg hminus, if_neg hminus]
    exact sameEnd_unsigned false (b :: r)

/-- A list or an object that was read is its contents and its end. -/
theorem contents_of_enclosed {close : UInt8} {ending : Octets → Reading Unit} {x : Reading α}
    {a : α} {rest : Octets} (h : enclosed close ending x = .ok (a, rest)) :
    ∃ s u, x = .ok (a, s) ∧ ending s = .ok (u, rest) := by
  rcases x with f | ⟨a', s⟩
  · unfold enclosed at h
    dsimp only at h
    split at h <;> exact nomatch h
  · unfold enclosed at h
    dsimp only at h
    rcases hend : ending s with f | ⟨u, rest'⟩
    · rw [hend] at h
      exact nomatch h
    · rw [hend] at h
      cases h
      exact ⟨s, u, rfl, hend⟩

/-- One level of the reader: the parts of a list or an object are read on the level below. -/
theorem resumes_of_readWith {inner : Option (Reader Json)}
    (hinner : ∀ r, inner = some r → ∀ s v rest, r fuel s = .ok (v, rest) → Resumes fuel s rest)
    {s rest : Octets} {v : Json} (h : readValueWith inner fuel s = .ok (v, rest)) :
    Resumes fuel s rest := by
  intro n stack out hskip
  cases n with
  | zero => exact nomatch hskip
  | succ n =>
    have hread := valueRead_of_ok h
    generalize hs : skipBlank s = s' at hread
    cases hread with
    -- Words, numbers and strings are passed over at once.
    | null hword =>
      rw [skipLoop_succ hs, if_pos rfl] at hskip
      exact resume_of_sameEnd (agree_refl _).ends hword hskip
    | true hword =>
      rw [skipLoop_succ hs, if_neg (by decide), if_pos rfl] at hskip
      exact resume_of_sameEnd (agree_refl _).ends hword hskip
    | false hword =>
      rw [skipLoop_succ hs, if_neg (by decide), if_neg (by decide), if_pos rfl] at hskip
      exact resume_of_sameEnd (agree_refl _).ends hword hskip
    | @number b r _ m hb hnumber =>
      obtain ⟨-, -, hnull, htrue, hfalse⟩ := ne_of_startsNumber hb
      rw [skipLoop_succ hs, if_neg hnull, if_neg htrue, if_neg hfalse] at hskip
      refine resume_of_sameEnd (sameEnd_numeral r) hnumber (n := n) ?_
      by_cases hminus : b = minusSign
      · rw [if_pos hminus] at hskip ⊢
        exact hskip
      · have hdigit : isDigitOctet b = Bool.true := by
          rcases Bool.or_eq_true_iff.1 hb with hb | hb
          · exact absurd (beq_iff_eq.1 hb) hminus
          · exact hb
        rw [if_neg hminus, if_pos hdigit] at hskip
        rw [if_neg hminus]
        exact hskip
    | string hstring =>
      rw [skipLoop_succ hs, if_neg (by decide), if_neg (by decide), if_neg (by decide),
        if_neg (by decide), if_neg (by decide), if_pos rfl] at hskip
      exact resume_of_sameEnd (sameEnd_string fuel _) hstring hskip
    -- The opening goes on the stack, and the contents are one level down for the reader.
    | @list reader r _ items hreader hitems =>
      rw [skipLoop_succ hs, if_neg (by decide), if_neg (by decide), if_neg (by decide),
        if_neg (by decide), if_neg (by decide), if_neg (by decide), if_pos rfl] at hskip
      obtain ⟨s1, u, hloop, hend⟩ := contents_of_enclosed hitems
      obtain ⟨n', r', rfl, h'⟩ := resume_items (hinner reader hreader) hloop hskip
      cases hend
      exact ⟨n', h'⟩
    | @object reader r _ members hreader hmembers =>
      rw [skipLoop_succ hs, if_neg (by decide), if_neg (by decide), if_neg (by decide),
        if_neg (by decide), if_neg (by decide), if_neg (by decide), if_neg (by decide),
        if_pos rfl] at hskip
      obtain ⟨s1, u, hloop, hend⟩ := contents_of_enclosed hmembers
      obtain ⟨n', r', rfl, h'⟩ := resume_members (hinner reader hreader) hloop hskip
      cases hend
      exact ⟨n', h'⟩

/-- **What is read is passed over**: by induction on the levels that the reader may enter. -/
theorem resumes_of_read (nesting : Nat) {s rest : Octets} {v : Json}
    (h : readValue nesting fuel s = .ok (v, rest)) : Resumes fuel s rest := by
  induction nesting generalizing s v rest with
  | zero => exact resumes_of_readWith (by simp) h
  | succ nesting ih =>
    refine resumes_of_readWith ?_ h
    rintro r ⟨⟩ s v rest hread
    exact ih hread

/-- **A value ends where it ends**, whether it is read or passed over. -/
theorem sameEnd_value (nesting : Nat) (s : Octets) :
    SameEnd (readValue nesting fuel s) (skipValue fuel s) := by
  intro v rest u rest' hread hskip
  -- With nothing on its stack, the loop is done behind the value.
  obtain ⟨n, h⟩ := resumes_of_read nesting hread fuel [] rest' hskip
  cases h
  exact ⟨rfl, trivial⟩

end Values

end VideoProbe.Json
