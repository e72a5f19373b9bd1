import TextureCatalog.Proofs.Query.Composition
import TextureCatalog.Proofs.Query.Positions
import TextureCatalog.Proofs.Query.Refusal

/-!
# Resolution ranges

A range of resolutions can be asked for twice: by comparisons in a query, whose numerals are read,
and by the bounds of a filter, which are put in order first.  Both keep the same textures.
-/

namespace TextureCatalog

namespace Query

variable {query : String} {operator : Operator} {digits : List Char}

/-! ## Comparisons as queries -/

theorem Comparison.parse_of_written (h : Written query.toList operator digits)
    (hlength : digits.length ≤ Text.numeralLimit) (hvalue : Text.decimalValue digits ≤ maxValue) :
    parse query = .ok (some ⟨operator, Text.decimalValue digits⟩) := by
  simp [parse, h.shape?_eq, Nat.not_lt.2 hlength, hvalue]

/-- A comparison that is a query by itself compares the larger dimension with its number. -/
theorem test_of_written (h : Comparison.Written query.toList operator digits)
    (hlength : digits.length ≤ Text.numeralLimit)
    (hvalue : Text.decimalValue digits ≤ Comparison.maxValue) :
    test query =
      .ok fun texture => .ok (operator.holds texture.maxDimension (Text.decimalValue digits)) := by
  have hmark := h.isNegated_eq_false
  have hparse : Term.parse query =
      .ok ⟨query, false, some ⟨operator, Text.decimalValue digits⟩⟩ := by
    rw [Term.parse_eq_map, Term.body_eq_self hmark, hmark,
      Comparison.parse_of_written h hlength hvalue]
    rfl
  rw [test_of_not_mem_bar h.isSeparable.bar_not_mem, h.isSeparable.splitTerms_eq, List.mapM_cons,
    hparse]
  apply congrArg Except.ok
  funext texture
  cases hholds : operator.holds texture.maxDimension (Text.decimalValue digits) <;>
    simp [Term.matchesTexture, Comparison.evaluate, hholds, Except.map, bind, Except.bind, pure,
      Except.pure]

theorem length_decimal_le_numeralLimit {n : Nat} (h : n ≤ Comparison.maxValue) :
    (Text.decimal n).length ≤ Text.numeralLimit := by
  have hten : (Text.decimal n).length ≤ 10 := by
    rw [Text.decimal, Nat.length_toDigits_le_iff (by omega) (by omega)]
    have hmax : Comparison.maxValue < 10 ^ 10 := by decide
    exact Nat.lt_of_le_of_lt h hmax
  exact Nat.le_trans hten (by decide)

theorem written_symbol_decimal (hoperator : operator ∈ Comparison.prefixed) (n : Nat) :
    Comparison.Written (operator.symbol ++ Text.decimalText n).toList operator
      (Text.decimal n) := by
  rw [String.toList_append, Text.decimalText, String.toList_ofList]
  exact .before hoperator ⟨Text.decimal_ne_nil n, fun c hc => Text.isDigit_of_mem_decimal hc⟩

/-- The comparison with the numeral of a number is the comparison with the number. -/
theorem test_symbol_decimal (hoperator : operator ∈ Comparison.prefixed) {n : Nat}
    (h : n ≤ Comparison.maxValue) :
    test (operator.symbol ++ Text.decimalText n) =
      .ok fun texture => .ok (operator.holds texture.maxDimension n) := by
  have htest := test_of_written (written_symbol_decimal hoperator n)
    (length_decimal_le_numeralLimit h) (by rwa [Text.decimalValue_decimal])
  rwa [Text.decimalValue_decimal] at htest

/-- A comparison behind a query is one more requirement. -/
theorem test_comma_symbol_decimal (hquery : '|' ∉ query.toList)
    (hoperator : operator ∈ Comparison.prefixed) {n : Nat} (h : n ≤ Comparison.maxValue) :
    test (query ++ "," ++ (operator.symbol ++ Text.decimalText n)) =
      (test query).map fun keeps texture =>
        (keeps texture).map (· && operator.holds texture.maxDimension n) := by
  have hbar := (written_symbol_decimal hoperator n).isSeparable.bar_not_mem
  rw [test_comma hquery hbar, test_symbol_decimal hoperator h]
  cases test query with
  | error fault => rfl
  | ok keeps =>
      apply congrArg Except.ok
      funext texture
      simp only [both]
      cases keeps texture with
      | error fault => rfl
      | ok found => cases found <;> rfl

/-- The requirement of a range, written as two comparisons. -/
theorem test_range (hquery : '|' ∉ query.toList) {low high : Nat}
    (hlow : low ≤ Comparison.maxValue) (hhigh : high ≤ Comparison.maxValue) :
    test (query ++ ",>=" ++ Text.decimalText low ++ ",<=" ++ Text.decimalText high) =
      (test query).map fun keeps (texture : Texture) => (keeps texture).map
        (· && (decide (low ≤ texture.maxDimension) && decide (texture.maxDimension ≤ high))) := by
  have hatLeast : Operator.atLeast ∈ Comparison.prefixed := by decide
  have hatMost : Operator.atMost ∈ Comparison.prefixed := by decide
  have htext : query ++ ",>=" ++ Text.decimalText low ++ ",<=" ++ Text.decimalText high =
      query ++ "," ++ (Operator.atLeast.symbol ++ Text.decimalText low) ++ "," ++
        (Operator.atMost.symbol ++ Text.decimalText high) :=
    String.toList_inj.1 (by simp [Operator.symbol])
  have hbar := bar_not_mem_comma hquery
    (written_symbol_decimal hatLeast low).isSeparable.bar_not_mem
  rw [htext, test_comma_symbol_decimal hbar hatMost hhigh,
    test_comma_symbol_decimal hquery hatLeast hlow]
  cases test query with
  | error fault => rfl
  | ok keeps =>
      apply congrArg Except.ok
      funext texture
      dsimp only
      cases keeps texture with
      | error fault => rfl
      | ok found => exact congrArg Except.ok (Bool.and_assoc _ _ _)

/-- The requirement of a single resolution. -/
theorem test_value (hquery : '|' ∉ query.toList) {value : Nat} (h : value ≤ Comparison.maxValue) :
    test (query ++ ",=" ++ Text.decimalText value) =
      (test query).map fun keeps (texture : Texture) =>
        (keeps texture).map (· && texture.maxDimension == value) := by
  have hequal : Operator.equal ∈ Comparison.prefixed := by decide
  have htext : query ++ ",=" ++ Text.decimalText value =
      query ++ "," ++ (Operator.equal.symbol ++ Text.decimalText value) :=
    String.toList_inj.1 (by simp [Operator.symbol])
  rw [htext, test_comma_symbol_decimal hquery hequal h]
  rfl

end Query

/-! ## Bounds of a filter -/

/-- Bounds that are in order, of which none is negative, are the bounds that take effect. -/
theorem Filter.bounds_eq {filter : Filter} (hlow : 0 ≤ filter.minResolution)
    (hle : filter.minResolution ≤ filter.maxResolution) :
    filter.bounds = (filter.minResolution, filter.maxResolution) := by
  rw [Filter.bounds, Int.max_eq_right hlow, Int.max_eq_right hle]

theorem Filter.passes_range {low high : Int} (hlow : 0 ≤ low) (hle : low ≤ high)
    (texture : Texture) :
    Filter.passes { minResolution := low, maxResolution := high } texture =
      (decide (low ≤ texture.maxDimension) && decide (texture.maxDimension ≤ high)) := by
  simp [Filter.passes, Filter.resolutionPasses, Filter.bounds_eq, hlow, hle]

/-- Requiring in a query that the larger dimension is at least the lower number and at most the
upper one is searching within these bounds, whatever else the query requires.  Within bounds that
are equal, it is requiring that the dimension equals them. -/
theorem filter_range_eq_search (textures : List Texture) {query : String}
    (hquery : '|' ∉ query.toList) {low high : Int} (hlow : 0 ≤ low) (hle : low ≤ high)
    (hhigh : high ≤ Query.Comparison.maxValue) :
    Query.filter textures
        (query ++ ",>=" ++ Text.decimalText low ++ ",<=" ++ Text.decimalText high) =
      search textures query { minResolution := low, maxResolution := high } ∧
    (low = high →
      Query.filter textures (query ++ ",=" ++ Text.decimalText low) =
        search textures query { minResolution := low, maxResolution := high }) := by
  obtain ⟨low, rfl⟩ := Int.eq_ofNat_of_zero_le hlow
  obtain ⟨high, rfl⟩ := Int.eq_ofNat_of_zero_le (Int.le_trans hlow hle)
  have hhighMax : high ≤ Query.Comparison.maxValue := Int.ofNat_le.1 hhigh
  have hlowMax : low ≤ Query.Comparison.maxValue := Nat.le_trans (Int.ofNat_le.1 hle) hhighMax
  have hsearch : search textures query { minResolution := low, maxResolution := high } =
      (Query.test query).bind fun keeps => textures.filterM fun (texture : Texture) =>
        (keeps texture).map
          (· && (decide (low ≤ texture.maxDimension) && decide (texture.maxDimension ≤ high))) := by
    simp only [search_eq, Filter.passes_range hlow hle]
  constructor
  · rw [hsearch, Query.filter, Query.test_range hquery hlowMax hhighMax]
    cases Query.test query <;> rfl
  · intro hsame
    have hboth : ∀ texture : Texture,
        (decide (low ≤ texture.maxDimension) && decide (texture.maxDimension ≤ high)) =
          (texture.maxDimension == low) := by
      intro texture
      rw [← hsame, Bool.eq_iff_iff, Bool.and_eq_true, decide_eq_true_iff, decide_eq_true_iff,
        beq_iff_eq]
      omega
    rw [hsearch, Query.filter, Query.test_value hquery hlowMax]
    simp only [hboth]
    cases Query.test query <;> rfl

/-- Bounds that exclude what is next to them, behind a requirement of the query. -/
theorem filter_range_eq_search_oak :
    let leaf : Texture := ⟨"", "", "", "Oak Leaf", "", 1024, 1024, "", {}⟩
    let bark : Texture := ⟨"", "", "", "Oak", "", 512, 1025, "", {}⟩
    let root : Texture := ⟨"", "", "", "Oak Root", "", 512, 511, "", {}⟩
    '|' ∉ "oak, ".toList ∧ (0 : Int) ≤ 512 ∧ (512 : Int) ≤ 1024 ∧
      (1024 : Int) ≤ Query.Comparison.maxValue ∧
      Query.filter [leaf, bark, root] "oak, ,>=512,<=1024" = .ok [leaf, root] ∧
      search [leaf, bark, root] "oak, " { minResolution := 512, maxResolution := 1024 } =
        .ok [leaf, root] := by
  intro leaf bark root
  have hbar : '|' ∉ "oak, ".toList := by decide
  have hsame := (filter_range_eq_search [leaf, bark, root] hbar (by decide : (0 : Int) ≤ 512)
    (by decide : (512 : Int) ≤ 1024) (by decide)).1
  have hfilter : Query.filter [leaf, bark, root] "oak, ,>=512,<=1024" = .ok [leaf, root] := by
    decide +kernel
  refine ⟨hbar, by decide, by decide, by decide, hfilter, ?_⟩
  rw [← hsame]
  exact hfilter

end TextureCatalog
