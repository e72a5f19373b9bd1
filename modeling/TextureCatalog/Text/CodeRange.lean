/-!
# Ranges of code points

Classes of characters are given as increasing lists of intervals of code points.
-/

namespace TextureCatalog.Text

/-- An inclusive interval of code points. -/
abbrev CodeRange := Nat × Nat

/-- Whether a code point lies in one of the intervals.  They are in increasing order, so the search
stops at the first interval that begins after the code point. -/
def inRanges : List CodeRange → Nat → Bool
  | [], _ => false
  | (low, high) :: rest, code =>
      if code < low then false else code ≤ high || inRanges rest code

@[simp]
theorem inRanges_nil (code : Nat) : inRanges [] code = false := rfl

/-- A code point that is accepted lies in one of the intervals. -/
theorem exists_mem_of_inRanges {ranges : List CodeRange} {code : Nat}
    (h : inRanges ranges code = true) :
    ∃ range ∈ ranges, range.1 ≤ code ∧ code ≤ range.2 := by
  induction ranges with
  | nil => simp at h
  | cons range rest ih =>
    obtain ⟨low, high⟩ := range
    simp only [inRanges] at h
    split at h
    · simp at h
    · next hlow =>
      rcases Bool.or_eq_true .. ▸ h with hhigh | hrest
      · exact ⟨(low, high), by simp, by omega, by simpa using hhigh⟩
      · obtain ⟨range, hmem, hrange⟩ := ih hrest
        exact ⟨range, List.mem_cons_of_mem _ hmem, hrange⟩

end TextureCatalog.Text
