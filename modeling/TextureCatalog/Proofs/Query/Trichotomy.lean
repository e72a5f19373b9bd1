import TextureCatalog.Proofs.Query.Negation
import TextureCatalog.Proofs.Query.ResolutionRange

/-!
# Comparisons with one number

The larger dimension of a texture is above a number, equals it or is below it.  So the comparisons
with one numeral divide the positions of a list among them, and each of the other ways to write a
comparison with this numeral keeps what one of the three keeps, or what it does not keep.
-/

namespace TextureCatalog

/-! ## Positions of opposite and exclusive tests -/

section Positions

variable {α : Type} {test otherTest : α → Bool} {items : List α}

/-- The opposite test passes at the other positions. -/
theorem positionsOf_not (test : α → Bool) (items : List α) :
    positionsOf (fun item => !test item) items =
      (List.range items.length).filter (· ∉ positionsOf test items) := by
  rw [positionsOf_eq_filter_range]
  apply List.filter_congr
  intro position hposition
  have hlt : position < items.length := List.mem_range.1 hposition
  have hitem : items[position]? = some items[position] := List.getElem?_eq_getElem hlt
  rw [hitem, Option.any_some, Bool.eq_iff_iff, decide_eq_true_iff, mem_positionsOf_iff]
  simp [hitem]

theorem disjoint_positionsOf (h : ∀ item, test item = true → otherTest item = false) :
    List.Disjoint (positionsOf test items) (positionsOf otherTest items) := by
  intro position hposition hother
  obtain ⟨item, hitem, htest⟩ := mem_positionsOf_iff.1 hposition
  obtain ⟨other, hsame, hotherTest⟩ := mem_positionsOf_iff.1 hother
  obtain rfl : item = other := Option.some.inj (hitem.symm.trans hsame)
  rw [h item htest] at hotherTest
  exact absurd hotherTest (by decide)

theorem positionsOf_subset (h : ∀ item, test item = true → otherTest item = true) :
    positionsOf test items ⊆ positionsOf otherTest items := by
  intro position hposition
  obtain ⟨item, hitem, htest⟩ := mem_positionsOf_iff.1 hposition
  exact mem_positionsOf_iff.2 ⟨item, hitem, h item htest⟩

end Positions

namespace Query

variable {query numeral : String} {operator : Operator}

/-! ## Positions that a query keeps -/

theorem keptPositions_of_test {answer : Texture → Bool}
    (h : test query = .ok fun texture => .ok (answer texture)) (textures : List Texture) :
    keptPositions textures query = .ok (positionsOf answer textures) := by
  rw [keptPositions_of_answers h fun texture _ => ⟨answer texture, rfl⟩]
  simp

/-- A negated query of one term keeps the other positions. -/
theorem test_marked {term : String} (h : IsSeparable term) (hmark : Term.isNegated term = false) :
    test ("!" ++ term) = (test term).map fun keeps texture => (keeps texture).map (!·) := by
  have hnegated := test_joined_comma_marked (List.cons_ne_nil term [])
    (List.forall_mem_singleton.2 h) (List.forall_mem_singleton.2 hmark)
  simpa only [List.map_singleton, String.intercalate_singleton] using hnegated

/-! ## Numerals that are compared with -/

/-- The number of a numeral. -/
def boundOf (numeral : String) : Nat :=
  Text.decimalValue numeral.toList

/-- A run of digits, with leading zeros or not, of which the number is read and not too large. -/
structure IsBound (numeral : String) : Prop where
  isRun : Comparison.IsRun numeral.toList
  length_le : numeral.toList.length ≤ Text.numeralLimit
  value_le : boundOf numeral ≤ Comparison.maxValue

namespace IsBound

/-- The operator in front of the numeral. -/
theorem written_before (h : IsBound numeral) (hoperator : operator ∈ Comparison.prefixed) :
    Comparison.Written (operator.symbol ++ numeral).toList operator numeral.toList := by
  rw [String.toList_append]
  exact .before hoperator h.isRun

theorem test_before (h : IsBound numeral) (hoperator : operator ∈ Comparison.prefixed) :
    test (operator.symbol ++ numeral) =
      .ok fun texture => .ok (operator.holds texture.maxDimension (boundOf numeral)) :=
  test_of_written (h.written_before hoperator) h.length_le h.value_le

/-- The negated comparison. -/
theorem test_not_before (h : IsBound numeral) (hoperator : operator ∈ Comparison.prefixed) :
    test ("!" ++ (operator.symbol ++ numeral)) =
      .ok fun texture => .ok (!operator.holds texture.maxDimension (boundOf numeral)) := by
  have hwritten := h.written_before hoperator
  rw [test_marked hwritten.isSeparable hwritten.isNegated_eq_false, h.test_before hoperator]
  rfl

/-- The sign behind the numeral, which is turned around. -/
theorem test_behind_less (h : IsBound numeral) :
    test (numeral ++ "<") =
      .ok fun texture => .ok (Operator.greater.holds texture.maxDimension (boundOf numeral)) := by
  have hwritten : Comparison.Written (numeral ++ "<").toList .greater numeral.toList := by
    rw [String.toList_append]
    exact .greaterAfter h.isRun
  exact test_of_written hwritten h.length_le h.value_le

theorem test_behind_greater (h : IsBound numeral) :
    test (numeral ++ ">") =
      .ok fun texture => .ok (Operator.less.holds texture.maxDimension (boundOf numeral)) := by
  have hwritten : Comparison.Written (numeral ++ ">").toList .less numeral.toList := by
    rw [String.toList_append]
    exact .lessAfter h.isRun
  exact test_of_written hwritten h.length_le h.value_le

end IsBound

/-! ## The operators among each other -/

theorem holds_atLeast (measure bound : Int) :
    Operator.atLeast.holds measure bound = !Operator.less.holds measure bound := by
  simp only [Operator.holds, ← decide_not, Int.not_lt]

theorem holds_atMost (measure bound : Int) :
    Operator.atMost.holds measure bound = !Operator.greater.holds measure bound := by
  simp only [Operator.holds, ← decide_not, Int.not_lt]

/-- Of two opposite operators, one keeps what the other one keeps in a negated comparison, that is,
the other positions. -/
theorem IsBound.keptPositions_opposite {other : Operator} (h : IsBound numeral)
    (hoperator : operator ∈ Comparison.prefixed) (hother : other ∈ Comparison.prefixed)
    (hopposite : ∀ measure bound, operator.holds measure bound = !other.holds measure bound)
    (textures : List Texture) :
    keptPositions textures (operator.symbol ++ numeral) =
        keptPositions textures ("!" ++ (other.symbol ++ numeral)) ∧
      keptPositions textures (operator.symbol ++ numeral) =
        .ok ((List.range textures.length).filter (· ∉ positionsOf
          (fun texture => other.holds texture.maxDimension (boundOf numeral)) textures)) := by
  have hnot := h.test_not_before hother
  have hsame : test (operator.symbol ++ numeral) = test ("!" ++ (other.symbol ++ numeral)) := by
    rw [h.test_before hoperator, hnot]
    simp only [hopposite]
  constructor
  · rw [keptPositions, keptPositions, hsame]
  · rw [keptPositions_of_test (hsame.trans hnot) textures, positionsOf_not]

/-- The positions above, at and below a number have none in common and are all positions together.
-/
theorem trichotomy_positions (textures : List Texture) (bound : Int) :
    let kept (operator : Operator) :=
      positionsOf (fun texture => operator.holds texture.maxDimension bound) textures
    ((kept .greater).Disjoint (kept .equal) ∧ (kept .greater).Disjoint (kept .less) ∧
        (kept .equal).Disjoint (kept .less)) ∧
      ∀ position, position < textures.length ↔
        position ∈ kept .greater ∨ position ∈ kept .equal ∨ position ∈ kept .less := by
  intro kept
  refine ⟨⟨?_, ?_, ?_⟩, fun position => ⟨fun hlt => ?_, ?_⟩⟩
  · apply disjoint_positionsOf
    intro texture hgreater
    simp only [Operator.holds, decide_eq_true_iff] at hgreater
    exact beq_false_of_ne (Int.ne_of_gt hgreater)
  · apply disjoint_positionsOf
    intro texture hgreater
    simp only [Operator.holds, decide_eq_true_iff] at hgreater
    exact decide_eq_false (Int.not_lt.2 (Int.le_of_lt hgreater))
  · apply disjoint_positionsOf
    intro texture hequal
    have heq : texture.maxDimension = bound := eq_of_beq hequal
    exact decide_eq_false (by rw [heq]; exact Int.lt_irrefl bound)
  · have hitem : textures[position]? = some textures[position] := List.getElem?_eq_getElem hlt
    rcases Int.lt_trichotomy textures[position].maxDimension bound with hless | hequal | hgreater
    · exact Or.inr (Or.inr (mem_positionsOf_iff.2 ⟨_, hitem, decide_eq_true hless⟩))
    · exact Or.inr (Or.inl (mem_positionsOf_iff.2 ⟨_, hitem, beq_iff_eq.2 hequal⟩))
    · exact Or.inl (mem_positionsOf_iff.2 ⟨_, hitem, decide_eq_true hgreater⟩)
  · rintro (hposition | hposition | hposition) <;>
      obtain ⟨texture, hitem, -⟩ := mem_positionsOf_iff.1 hposition <;>
      exact (List.getElem?_eq_some_iff.1 hitem).1

/-- The comparisons with a number divide the positions into those above it, at it and below it.  At
least the number are those not below, at most those not above; a sign behind the numeral is turned
around; and what is above a number is above every number that is not larger. -/
theorem comparisons_divide_positions (textures : List Texture) {numeral : String}
    (h : IsBound numeral) :
    (∀ query, Query.filter textures query = (keptPositions textures query).map fun positions =>
      positions.filterMap (textures[·]?)) ∧
    ∃ above equal below,
      keptPositions textures (">" ++ numeral) = .ok above ∧
      keptPositions textures ("=" ++ numeral) = .ok equal ∧
      keptPositions textures ("<" ++ numeral) = .ok below ∧
      (above.Disjoint equal ∧ above.Disjoint below ∧ equal.Disjoint below) ∧
      (∀ position, position < textures.length ↔
        position ∈ above ∨ position ∈ equal ∨ position ∈ below) ∧
      keptPositions textures (">=" ++ numeral) = keptPositions textures ("!<" ++ numeral) ∧
      keptPositions textures (">=" ++ numeral) =
        .ok ((List.range textures.length).filter (· ∉ below)) ∧
      keptPositions textures ("<=" ++ numeral) = keptPositions textures ("!>" ++ numeral) ∧
      keptPositions textures ("<=" ++ numeral) =
        .ok ((List.range textures.length).filter (· ∉ above)) ∧
      keptPositions textures (numeral ++ "<") = .ok above ∧
      keptPositions textures (numeral ++ ">") = .ok below ∧
      ∀ larger, IsBound larger → boundOf numeral ≤ boundOf larger →
        ∃ fewer, keptPositions textures (">" ++ larger) = .ok fewer ∧ fewer ⊆ above := by
  have hgreater : Operator.greater ∈ Comparison.prefixed := by decide
  have hequal : Operator.equal ∈ Comparison.prefixed := by decide
  have hless : Operator.less ∈ Comparison.prefixed := by decide
  have hatLeast : Operator.atLeast ∈ Comparison.prefixed := by decide
  have hatMost : Operator.atMost ∈ Comparison.prefixed := by decide
  have hkept : ∀ {operator : Operator}, operator ∈ Comparison.prefixed →
      ∀ {numeral : String}, IsBound numeral →
        keptPositions textures (operator.symbol ++ numeral) =
          .ok (positionsOf
            (fun texture => operator.holds texture.maxDimension (boundOf numeral)) textures) :=
    fun hoperator _ hbound => keptPositions_of_test (hbound.test_before hoperator) textures
  obtain ⟨hdisjoint, htogether⟩ := trichotomy_positions textures (boundOf numeral)
  have hnotBelow := h.keptPositions_opposite hatLeast hless holds_atLeast textures
  have hnotAbove := h.keptPositions_opposite hatMost hgreater holds_atMost textures
  refine ⟨filter_eq_map_keptPositions textures, _, _, _, hkept hgreater h, hkept hequal h,
    hkept hless h, hdisjoint, htogether, hnotBelow.1.trans (congrArg _ ?_), hnotBelow.2,
    hnotAbove.1.trans (congrArg _ ?_), hnotAbove.2,
    keptPositions_of_test h.test_behind_less textures,
    keptPositions_of_test h.test_behind_greater textures, fun larger hlarger hle => ?_⟩
  · exact (@String.append_assoc "!" "<" numeral).symm
  · exact (@String.append_assoc "!" ">" numeral).symm
  · refine ⟨_, hkept hgreater hlarger, positionsOf_subset ?_⟩
    intro texture habove
    simp only [Operator.holds, decide_eq_true_iff] at habove ⊢
    omega

/-- A zero in front, the larger dimension being the width of one texture and the height of others,
and the same texture twice. -/
theorem comparisons_divide_positions_at_512 :
    let leaf : Texture := ⟨"", "", "", "Oak Leaf", "", 1024, 512, "", {}⟩
    let bark : Texture := ⟨"", "", "", "Oak", "", 300, 512, "", {}⟩
    let moss : Texture := ⟨"", "", "", "Moss 512", "", 256, 511, "", {}⟩
    let textures := [leaf, moss, bark, leaf]
    IsBound "0512" ∧ IsBound "1024" ∧ boundOf "0512" ≤ boundOf "1024" ∧
      keptPositions textures ">0512" = .ok [0, 3] ∧
      keptPositions textures "0512<" = .ok [0, 3] ∧
      keptPositions textures "<=0512" = .ok [1, 2] ∧
      ∃ fewer, keptPositions textures ">1024" = .ok fewer ∧ fewer ⊆ [0, 3] := by
  intro leaf bark moss textures
  have hbound : IsBound "0512" :=
    ⟨Comparison.isDigits_iff.1 (by decide), by decide, by decide⟩
  have hlarger : IsBound "1024" :=
    ⟨Comparison.isDigits_iff.1 (by decide), by decide, by decide⟩
  have hle : boundOf "0512" ≤ boundOf "1024" := by decide
  have hkept : keptPositions textures ">0512" = .ok [0, 3] := by decide +kernel
  obtain ⟨-, above, equal, below, habove, -, -, -, -, -, -, -, hatMost, hbehind, -, hfewer⟩ :=
    comparisons_divide_positions textures hbound
  obtain rfl : above = [0, 3] := Except.ok.inj (habove.symm.trans hkept)
  refine ⟨hbound, hlarger, hle, hkept, hbehind, hatMost.trans ?_, hfewer "1024" hlarger hle⟩
  decide

end Query

end TextureCatalog
