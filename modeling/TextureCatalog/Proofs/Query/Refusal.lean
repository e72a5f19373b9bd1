import TextureCatalog.Filter
import TextureCatalog.Proofs.Query.Selection
import TextureCatalog.Proofs.Query.Terms
import TextureCatalog.Proofs.Text.Numeral

/-!
# Queries that are refused

A query is refused only if a term of it is a comparison with more digits than are ever read.  Every
other text that is no comparison, or one with too large a number, is searched for as it stands,
which fails only at a texture with a dimension that is not written.
-/

namespace TextureCatalog.Query

/-! ## Comparisons -/

namespace Comparison

/-- A text is read, as a comparison or not, unless it has too many digits. -/
theorem exists_parse_eq_ok_iff (text : String) :
    (∃ comparison, parse text = .ok comparison) ↔ ¬ Overlong text := by
  rw [← parse_eq_error_iff]
  cases hparse : parse text with
  | ok comparison => simp
  | error fault =>
      obtain rfl := eq_numeralTooLong_of_parse hparse
      simp

/-- A text that is no comparison, because it does not have the shape of one or because its number is
larger than any that is compared with. -/
def IsText (text : String) : Prop :=
  ∀ operator digits, Written text.toList operator digits →
    digits.length ≤ Text.numeralLimit ∧ maxValue < Text.decimalValue digits

theorem parse_eq_none_iff {text : String} : parse text = .ok none ↔ IsText text := by
  unfold parse
  constructor
  · intro hparse operator digits hwritten
    simp only [hwritten.shape?_eq] at hparse
    split at hparse
    · simp at hparse
    · next hshort =>
        refine ⟨Nat.not_lt.1 hshort, ?_⟩
        by_contra hsmall
        simp [Nat.not_lt.1 hsmall] at hparse
  · intro htext
    cases hshape : shape? text.toList with
    | none => rfl
    | some found =>
        obtain ⟨hshort, hlarge⟩ := htext found.1 found.2 (written_of_shape? hshape)
        simp [Nat.not_lt.2 hshort, Nat.not_le.2 hlarge]

theorem mem_symbol_of_mem_prefixed {operator : Operator} (h : operator ∈ prefixed) {c : Char}
    (hc : c ∈ operator.symbol.toList) : c = '<' ∨ c = '>' ∨ c = '=' := by
  simp only [prefixed, List.mem_cons, List.not_mem_nil, or_false] at h
  rcases h with rfl | rfl | rfl | rfl | rfl <;>
    simp only [Operator.symbol, String.reduceToList, List.mem_cons, List.not_mem_nil,
      or_false] at hc <;>
    grind

theorem Written.mem_cases {text digits : List Char} {operator : Operator}
    (h : Written text operator digits) {c : Char} (hc : c ∈ text) :
    c.isDigit = true ∨ c = '<' ∨ c = '>' ∨ c = '=' := by
  cases h with
  | before hoperator hdigits =>
      rcases List.mem_append.1 hc with hsymbol | hdigit
      · exact Or.inr (mem_symbol_of_mem_prefixed hoperator hsymbol)
      · exact Or.inl (hdigits.2 c hdigit)
  | greaterAfter hdigits | lessAfter hdigits =>
      rcases List.mem_append.1 hc with hdigit | hsymbol
      · exact Or.inl (hdigits.2 c hdigit)
      · exact Or.inr (by simp_all)

/-- A character that is no part of a comparison. -/
theorem Written.not_mem {text digits : List Char} {operator : Operator}
    (h : Written text operator digits) {c : Char} (hdigit : c.isDigit = false)
    (hsymbol : c ≠ '<' ∧ c ≠ '>' ∧ c ≠ '=') : c ∉ text := by
  intro hc
  rcases h.mem_cases hc with hother | rfl | rfl | rfl
  · rw [hdigit] at hother
    exact absurd hother (by decide)
  · exact hsymbol.1 rfl
  · exact hsymbol.2.1 rfl
  · exact hsymbol.2.2 rfl

theorem Written.isBlank_eq_false {text digits : List Char} {operator : Operator}
    (h : Written text operator digits) {c : Char} (hc : c ∈ text) : Text.isBlank c = false := by
  rcases h.mem_cases hc with hdigit | rfl | rfl | rfl
  · exact Text.isBlank_of_isDigit hdigit
  all_goals decide

/-- A comparison has no white space and no separators in it. -/
theorem Written.isSeparable {term : String} {digits : List Char} {operator : Operator}
    (h : Written term.toList operator digits) : IsSeparable term where
  ne_empty := by
    rintro rfl
    have hshape := h.shape?_eq
    simp [shape?, prefixOperator?] at hshape
  trimmed_eq := by
    rw [Text.trimmed, Text.trim_of_forall_not_blank fun c hc => h.isBlank_eq_false hc,
      String.ofList_toList]
  bar_not_mem := h.not_mem (by decide) (by decide)
  comma_not_mem := h.not_mem (by decide) (by decide)

theorem Written.isNegated_eq_false {term : String} {digits : List Char} {operator : Operator}
    (h : Written term.toList operator digits) : Term.isNegated term = false := by
  have hmark : '!' ∉ term.toList := h.not_mem (by decide) (by decide)
  have hhead : term.toList.head? ≠ some '!' := fun hhead => hmark (List.mem_of_mem_head? hhead)
  simp [Term.isNegated, hhead]

end Comparison

/-! ## Terms -/

theorem Term.exists_parse_eq_ok_iff (term : String) :
    (∃ parsed, Term.parse term = .ok parsed) ↔ ¬ Term.Overlong term := by
  constructor
  · rintro ⟨parsed, hparse⟩ hlong
    rw [Term.parse_of_overlong hlong] at hparse
    simp at hparse
  · intro h
    exact ⟨_, Term.parse_of_not_overlong h⟩

/-- A term that is no comparison is looked for in the texts of the texture. -/
theorem matchesTerm_of_isText {term : String} (h : Comparison.IsText (Term.body term))
    (texture : Texture) :
    matchesTerm texture term =
      (texture.mentions (Term.body term)).map (· != Term.isNegated term) := by
  have hnone : Comparison.parse (Term.body term) = .ok none := Comparison.parse_eq_none_iff.2 h
  rw [matchesTerm, Term.parse_eq_map, hnone]
  rfl

theorem exists_matchesTerm_of_comparison {term : String} {comparison : Comparison}
    (h : Comparison.parse (Term.body term) = .ok (some comparison)) (texture : Texture) :
    ∃ found, matchesTerm texture term = .ok found := by
  rw [matchesTerm, Term.parse_eq_map, h]
  exact ⟨_, rfl⟩

/-- A term has an answer if it can be read, and, if it is looked for as text, all texts of the
texture can be written or one of its names decides. -/
theorem exists_matchesTerm_eq_ok_iff (texture : Texture) (term : String) :
    (∃ found, matchesTerm texture term = .ok found) ↔
      ¬ Term.Overlong term ∧ (Comparison.IsText (Term.body term) →
        texture.HasNumerals ∨ texture.IsNamed (Term.body term)) := by
  by_cases hlong : Term.Overlong term
  · simp [matchesTerm, Term.parse_of_overlong hlong, hlong, bind, Except.bind]
  · obtain ⟨comparison, hparse⟩ := (Comparison.exists_parse_eq_ok_iff _).2 hlong
    cases comparison with
    | some comparison =>
        have hnoText : ¬ Comparison.IsText (Term.body term) := fun htext =>
          absurd (hparse.symm.trans (Comparison.parse_eq_none_iff.2 htext)) (by simp)
        exact iff_of_true (exists_matchesTerm_of_comparison hparse texture)
          ⟨hlong, fun htext => absurd htext hnoText⟩
    | none =>
        have htext := Comparison.parse_eq_none_iff.1 hparse
        rw [matchesTerm_of_isText htext, ← Texture.exists_mentions_eq_ok_iff]
        cases texture.mentions (Term.body term) <;> simp [Except.map, hlong, htext]

/-! ## Queries -/

theorem test_eq_map_parse (query : String) :
    test query = (Query.parse query).map fun parsed texture =>
      match parsed with
      | none => .ok true
      | some query => query.matchesTexture texture :=
  rfl

/-- A comparison with too many digits is by itself a term of its text. -/
theorem not_readable_of_overlong {query : String} (h : Comparison.Overlong query) :
    ¬ Readable query := by
  obtain ⟨operator, digits, hwritten, hlong⟩ := h
  have hterm : query ∈ (splitTerms query).2 := by
    rw [hwritten.isSeparable.splitTerms_eq]
    exact List.mem_singleton_self query
  intro hreadable
  apply hreadable query (mem_splitTerms_iff.1 hterm)
  rw [Term.Overlong, Term.body_eq_self hwritten.isNegated_eq_false]
  exact ⟨operator, digits, hwritten, hlong⟩

theorem exists_test_eq_ok_iff (query : String) :
    (∃ keeps, test query = .ok keeps) ↔ Readable query := by
  constructor
  · rintro ⟨keeps, hkeeps⟩
    by_contra hlong
    rw [test_eq_error_iff.2 hlong] at hkeeps
    simp at hkeeps
  · intro h
    exact ⟨_, test_of_readable h⟩

theorem exists_parse_eq_ok_iff (query : String) :
    (∃ parsed, Query.parse query = .ok parsed) ↔ Readable query := by
  rw [← exists_test_eq_ok_iff, test_eq_map_parse]
  cases Query.parse query <;> simp [Except.map]

theorem exists_filter_eq_ok_iff (textures : List Texture) (query : String) :
    (∃ matching, Query.filter textures query = .ok matching) ↔
      Readable query ∧ ∀ texture ∈ textures, Settles query texture := by
  by_cases h : Readable query
  · rw [filter_of_readable textures h]
    split <;> simp_all
  · rw [filter_of_test_error (test_eq_error_iff.2 h)]
    simp [h]

/-- Where all dimensions can be written, only the query decides whether there is a result. -/
theorem exists_filter_eq_ok_iff_readable {textures : List Texture} {query : String}
    (hnumerals : ∀ texture ∈ textures, texture.HasNumerals) :
    (∃ matching, Query.filter textures query = .ok matching) ↔ Readable query := by
  rw [exists_filter_eq_ok_iff]
  exact and_iff_left_of_imp fun h texture htexture =>
    settles_of_hasNumerals h (hnumerals texture htexture)

end Query

theorem exists_search_eq_ok_iff (textures : List Texture) (query : String) (filter : Filter) :
    (∃ kept, search textures query filter = .ok kept) ↔
      Query.Readable query ∧ ∀ texture ∈ textures, Query.Settles query texture := by
  rw [← Query.exists_filter_eq_ok_iff textures, search]
  cases Query.filter textures query <;> simp [Except.map]

/-- A comparison with too many digits is a query that is refused, whatever is searched. -/
theorem search_of_overlong {query : String} (h : Query.Comparison.Overlong query)
    (textures : List Texture) (filter : Filter) :
    search textures query filter = .error .numeralTooLong := by
  rw [search, Query.filter_of_test_error
    (Query.test_eq_error_iff.2 (Query.not_readable_of_overlong h))]
  rfl

/-! ## Searches -/

/-- A search gives a result, and so does every step of it, unless a term has too many digits or the
query does not settle one of the textures; a term that is no comparison, or one with too large a
number, is looked for as text, which only a dimension that is not written can prevent. -/
theorem search_returns_unless_overlong (textures : List Texture) (query : String)
    (filter : Filter) :
    ((∃ kept, search textures query filter = .ok kept) ↔
      Query.Readable query ∧ ∀ texture ∈ textures, Query.Settles query texture) ∧
    ((∃ matching, Query.filter textures query = .ok matching) ↔
      Query.Readable query ∧ ∀ texture ∈ textures, Query.Settles query texture) ∧
    (Query.Readable query →
      ∀ texture : Texture, texture.HasNumerals → Query.Settles query texture) ∧
    ((∃ parsed, Query.parse query = .ok parsed) ↔ Query.Readable query) ∧
    ∀ term : String,
      ((∃ parsed, Query.Term.parse term = .ok parsed) ↔ ¬ Query.Term.Overlong term) ∧
      ((∃ comparison, Query.Comparison.parse term = .ok comparison) ↔
        ¬ Query.Comparison.Overlong term) ∧
      ∀ texture : Texture,
        ((∃ found, Query.matchesTerm texture term = .ok found) ↔
          ¬ Query.Term.Overlong term ∧ (Query.Comparison.IsText (Query.Term.body term) →
            texture.HasNumerals ∨ texture.IsNamed (Query.Term.body term))) ∧
        (Query.Comparison.IsText (Query.Term.body term) →
          Query.matchesTerm texture term =
            (texture.mentions (Query.Term.body term)).map (· != Query.Term.isNegated term)) := by
  refine ⟨exists_search_eq_ok_iff textures query filter,
    Query.exists_filter_eq_ok_iff textures query,
    fun hreadable texture => Query.settles_of_hasNumerals hreadable,
    Query.exists_parse_eq_ok_iff query,
    fun term => ⟨Query.Term.exists_parse_eq_ok_iff term,
      Query.Comparison.exists_parse_eq_ok_iff term, fun texture => ?_⟩⟩
  exact ⟨Query.exists_matchesTerm_eq_ok_iff texture term,
    fun htext => Query.matchesTerm_of_isText htext texture⟩

/-- A number that is too large to be compared with is looked for as text. -/
theorem search_returns_for_large_number :
    let moss : Texture := ⟨"", "", "", "Moss >99999999999", "", 256, 512, "", {}⟩
    Query.Comparison.IsText ">99999999999" ∧
      Query.matchesTerm moss "!>99999999999" = .ok false ∧
      ∃ kept, search [moss] "!>99999999999, >=5x" {} = .ok kept := by
  intro moss
  have hlarge : Query.Comparison.IsText ">99999999999" :=
    Query.Comparison.parse_eq_none_iff.1 (by decide +kernel)
  have hreadable : Query.Readable "!>99999999999, >=5x" := by decide +kernel
  have hnumerals : ∀ texture ∈ [moss], texture.HasNumerals := by decide +kernel
  obtain ⟨hsearch, -, hsettles, -, hterms⟩ :=
    search_returns_unless_overlong [moss] "!>99999999999, >=5x" {}
  refine ⟨hlarge, ?_, hsearch.2 ⟨hreadable, fun texture htexture =>
    hsettles hreadable texture (hnumerals texture htexture)⟩⟩
  rw [((hterms "!>99999999999").2.2 moss).2 hlarge]
  decide +kernel

/-- One digit more than are ever read is too many, even if there is no texture to compare. -/
theorem search_fails_for_long_number :
    let query := String.ofList ('>' :: List.replicate (Text.numeralLimit + 1) '1')
    search [] query {} = .error .numeralTooLong ∧
      Query.Comparison.parse query = .error .numeralTooLong := by
  intro query
  have hdigits : Query.Comparison.IsRun (List.replicate (Text.numeralLimit + 1) '1') :=
    ⟨List.replicate_succ_ne_nil, fun c hc => by rw [List.eq_of_mem_replicate hc]; decide⟩
  have hwritten :
      Query.Comparison.Written query.toList .greater
        (List.replicate (Text.numeralLimit + 1) '1') := by
    rw [String.toList_ofList]
    have hprefixed : Query.Operator.greater ∈ Query.Comparison.prefixed := by decide
    exact .before hprefixed hdigits
  have hlong : Query.Comparison.Overlong query :=
    ⟨.greater, _, hwritten, by rw [List.length_replicate]; exact Nat.lt_succ_self _⟩
  exact ⟨search_of_overlong hlong [] {}, Query.Comparison.parse_eq_error_iff.2 hlong⟩

end TextureCatalog
