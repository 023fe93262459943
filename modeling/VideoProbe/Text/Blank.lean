/-!
# White space

The characters that count as white space when a text is trimmed: the twenty-five characters that
the Unicode standard gives the property White_Space.  It is a larger class than the six of ASCII
(the no-break space and the ideographic space belong to it) and a smaller one than "everything
invisible" (the zero-width space does not).
-/

namespace VideoProbe.Text

/-- The Unicode property White_Space. -/
def isBlank (c : Char) : Bool :=
  (9 ≤ c.val && c.val ≤ 13) || c.val == 0x20 || c.val == 0x85 || c.val == 0xA0 ||
    c.val == 0x1680 || (0x2000 ≤ c.val && c.val ≤ 0x200A) || c.val == 0x2028 || c.val == 0x2029 ||
    c.val == 0x202F || c.val == 0x205F || c.val == 0x3000

/-- A text without the white space at its two ends. -/
def trimChars (cs : List Char) : List Char :=
  ((cs.dropWhile isBlank).reverse.dropWhile isBlank).reverse

/-- A text without the white space at its two ends. -/
def trim (s : String) : String :=
  String.ofList (trimChars s.toList)

/-- Nothing but white space, or nothing at all. -/
def isAllBlank (s : String) : Bool :=
  s.toList.all isBlank

/-! ## Trimmed texts -/

/-- There is no white space at either end. -/
def Trimmed (s : String) : Prop :=
  (∀ c, s.toList.head? = some c → isBlank c = false) ∧
    ∀ c, s.toList.getLast? = some c → isBlank c = false

/-- What is left begins and ends with something else. -/
theorem trimmed_trim (s : String) : Trimmed (trim s) := by
  have hnot : ∀ (cs : List Char) (c : Char), (cs.dropWhile isBlank).head? = some c →
      isBlank c = false := by
    intro cs c hc
    have h := List.head?_dropWhile_not isBlank cs
    rw [hc] at h
    exact h
  unfold Trimmed trim
  rw [String.toList_ofList]
  refine ⟨fun c hc => ?_, fun c hc => ?_⟩
  · -- What is left after the end was cut off begins as what was left after the beginning was.
    obtain ⟨after, hafter⟩ :
        (s.toList.dropWhile isBlank).reverse.dropWhile isBlank <:+
          (s.toList.dropWhile isBlank).reverse := List.dropWhile_suffix isBlank
    have hcut : trimChars s.toList ++ after.reverse = s.toList.dropWhile isBlank := by
      rw [trimChars, ← List.reverse_append, hafter, List.reverse_reverse]
    refine hnot s.toList c ?_
    rw [← hcut, List.head?_append, hc, Option.some_or]
  · rw [trimChars, List.getLast?_reverse] at hc
    exact hnot _ c hc

end VideoProbe.Text
