import TextureCatalog.Proofs.Query.Alternatives
import TextureCatalog.Proofs.Query.Composition

/-!
# Negated terms

A mark in front of a term makes it accept what it did not accept.  So negating every term of a query
and asking for any of them instead of all keeps what the query did not keep, and the other way
around.
-/

namespace TextureCatalog.Query

variable {separator : Char} {term : String} {terms : List String}

namespace Term

/-- The term that accepts what this one does not. -/
def negate (term : Term) : Term :=
  { term with negated := !term.negated }

theorem matchesTexture_negate (term : Term) (texture : Texture) :
    term.negate.matchesTexture texture = (term.matchesTexture texture).map (!·) := by
  have hflip : ∀ found : Bool, (found != !term.negated) = !(found != term.negated) := by
    cases term.negated <;> simp
  simp only [matchesTexture, negate]
  split
  · exact congrArg Except.ok (hflip _)
  · cases texture.mentions term.text with
    | error fault => rfl
    | ok found => exact congrArg Except.ok (hflip found)

theorem anyM_map_negate (terms : List Term) (texture : Texture) :
    ((terms.map negate).anyM fun term => term.matchesTexture texture) =
      (terms.allM (m := Except Fault) fun term => term.matchesTexture texture).map (!·) := by
  rw [anyM_map, allM_eq_map_anyM, map_not_map_not]
  exact anyM_congr fun term _ => matchesTexture_negate term texture

theorem allM_map_negate (terms : List Term) (texture : Texture) :
    ((terms.map negate).allM fun term => term.matchesTexture texture) =
      (terms.anyM (m := Except Fault) fun term => term.matchesTexture texture).map (!·) := by
  rw [allM_map, allM_eq_map_anyM]
  congr 1
  refine anyM_congr fun term _ => ?_
  rw [matchesTexture_negate, map_not_map_not]

/-- The mark in front of a term without one negates it. -/
theorem parse_marked (h : isNegated term = false) :
    Term.parse ("!" ++ term) = (Term.parse term).map negate := by
  have hmarked : isNegated ("!" ++ term) = true := by simp [isNegated]
  have hmarkedBody : body ("!" ++ term) = term := by simp [body, hmarked]
  rw [parse_eq_map, parse_eq_map, body_eq_self h, hmarked, hmarkedBody, h]
  cases Comparison.parse term <;> rfl

theorem mapM_parse_marked (h : ∀ term ∈ terms, isNegated term = false) :
    (terms.map ("!" ++ ·)).mapM Term.parse = (terms.mapM Term.parse).map (List.map negate) :=
  mapM_parse_map fun term hterm => parse_marked (h term hterm)

end Term

/-! ## Terms that are joined -/

namespace IsSeparable

/-- The mark is neither blank nor a separator. -/
theorem marked (h : IsSeparable term) : IsSeparable ("!" ++ term) := by
  have htext : ("!" ++ term).toList = '!' :: term.toList := by simp
  have hlast : ('!' :: term.toList).getLast? = term.toList.getLast? := by
    rw [List.getLast?_cons]
    cases hlast : term.toList.getLast? with
    | none => simp [h.ne_empty] at hlast
    | some c => rfl
  have htrim : Text.trim ('!' :: term.toList) = '!' :: term.toList := by
    have hmark : Text.isBlank '!' = false := by decide
    refine Text.trim_eq_self_iff.2 ⟨by simpa using hmark, ?_⟩
    rw [hlast]
    exact (Text.trim_eq_self_iff.1 h.trim_eq).2
  refine ⟨by simp, ?_, ?_, ?_⟩
  · rw [Text.trimmed, htext, htrim, ← htext, String.ofList_toList]
  · simpa [htext] using h.bar_not_mem
  · simpa [htext] using h.comma_not_mem

end IsSeparable

theorem forall_isSeparable_marked (h : ∀ term ∈ terms, IsSeparable term) :
    ∀ term ∈ terms.map ("!" ++ ·), IsSeparable term :=
  List.forall_mem_map.2 fun term hterm => (h term hterm).marked

/-- A character of joined terms that is none of any term is the separator. -/
theorem not_mem_intercalate {c : Char} (hseparator : c ≠ separator)
    (h : ∀ term ∈ terms, c ∉ term.toList) :
    c ∉ [separator].intercalate (terms.map String.toList) := by
  rw [← Text.joinWith_eq_intercalate]
  intro hmem
  rcases Text.mem_joinWith hmem with hbetween | ⟨piece, hpiece, hc⟩
  · exact hseparator (List.mem_singleton.1 hbetween)
  · obtain ⟨term, hterm, rfl⟩ := List.mem_map.1 hpiece
    exact h term hterm hc

theorem splitTerms_joined_comma (h : ∀ term ∈ terms, IsSeparable term) :
    '|' ∉ (",".intercalate terms).toList ∧ (splitTerms (",".intercalate terms)).2 = terms := by
  have htext : (",".intercalate terms).toList = [','].intercalate (terms.map String.toList) :=
    String.toList_intercalate
  have hbar : '|' ∉ (",".intercalate terms).toList := by
    rw [htext]
    exact not_mem_intercalate (by decide) fun term hterm => (h term hterm).bar_not_mem
  refine ⟨hbar, ?_⟩
  rw [splitTerms_of_not_mem_bar hbar, htext]
  exact termsBetween_intercalate fun term hterm => (h term hterm).fitsBetween_comma

theorem termsBetween_joined_bar (h : ∀ term ∈ terms, IsSeparable term) :
    termsBetween '|' ("|".intercalate terms).toList = terms := by
  rw [String.toList_intercalate]
  exact termsBetween_intercalate fun term hterm => (h term hterm).fitsBetween_bar

/-- A single term is joined without a bar, but it has no comma either. -/
theorem bar_or_no_comma_joined (h : ∀ term ∈ terms, IsSeparable term) :
    '|' ∈ ("|".intercalate terms).toList ∨ ',' ∉ ("|".intercalate terms).toList := by
  cases terms with
  | nil => exact Or.inr (by simp)
  | cons first terms =>
      cases terms with
      | nil =>
          refine Or.inr ?_
          rw [String.intercalate_singleton]
          exact (h first List.mem_cons_self).comma_not_mem
      | cons next terms => exact Or.inl (by simp)

theorem isAlternative_joined (hne : terms ≠ []) (h : ∀ term ∈ terms, IsSeparable term) :
    IsAlternative ("|".intercalate terms) := by
  have hbar := bar_or_no_comma_joined h
  obtain ⟨first, hfirst⟩ := List.exists_mem_of_ne_nil terms hne
  refine ⟨⟨first, mem_splitTerms_iff.1 ?_⟩, hbar⟩
  rwa [splitTerms_of_bar_or_no_comma hbar, termsBetween_joined_bar h]

/-! ## Tests of joined terms -/

theorem test_joined_comma (h : ∀ term ∈ terms, IsSeparable term) :
    test (",".intercalate terms) = (terms.mapM Term.parse).map fun parsed texture =>
      parsed.allM fun term => term.matchesTexture texture := by
  obtain ⟨hbar, hterms⟩ := splitTerms_joined_comma h
  rw [test_of_not_mem_bar hbar, hterms]

theorem test_joined_bar (hne : terms ≠ []) (h : ∀ term ∈ terms, IsSeparable term) :
    test ("|".intercalate terms) = (terms.mapM Term.parse).map fun parsed texture =>
      parsed.anyM fun term => term.matchesTexture texture := by
  rw [(isAlternative_joined hne h).test_eq, termsBetween_joined_bar h]

/-- A query of the negated terms is the opposite of one of the terms, if what the first asks of its
terms is the opposite for negated terms of what the second asks. -/
theorem test_marked_of_opposite {query other : String}
    {asks asksOther : List Term → Texture → Except Fault Bool}
    (hquery : test query = ((terms.map ("!" ++ ·)).mapM Term.parse).map asks)
    (hother : test other = (terms.mapM Term.parse).map asksOther)
    (hmark : ∀ term ∈ terms, Term.isNegated term = false)
    (hopposite : ∀ parsed texture,
      asks (parsed.map Term.negate) texture = (asksOther parsed texture).map (!·)) :
    test query = (test other).map fun keeps texture => (keeps texture).map (!·) := by
  rw [hquery, hother, Term.mapM_parse_marked hmark]
  cases terms.mapM Term.parse with
  | error fault => rfl
  | ok parsed =>
      apply congrArg Except.ok
      funext texture
      exact hopposite parsed texture

/-- Any of the negated terms accepts what not all of the terms accept. -/
theorem test_joined_bar_marked (hne : terms ≠ []) (h : ∀ term ∈ terms, IsSeparable term)
    (hmark : ∀ term ∈ terms, Term.isNegated term = false) :
    test ("|".intercalate (terms.map ("!" ++ ·))) =
      (test (",".intercalate terms)).map fun keeps texture => (keeps texture).map (!·) := by
  have hmarked : terms.map ("!" ++ ·) ≠ [] := by simpa using hne
  exact test_marked_of_opposite (test_joined_bar hmarked (forall_isSeparable_marked h))
    (test_joined_comma h) hmark Term.anyM_map_negate

/-- All of the negated terms accept what none of the terms accepts. -/
theorem test_joined_comma_marked (hne : terms ≠ []) (h : ∀ term ∈ terms, IsSeparable term)
    (hmark : ∀ term ∈ terms, Term.isNegated term = false) :
    test (",".intercalate (terms.map ("!" ++ ·))) =
      (test ("|".intercalate terms)).map fun keeps texture => (keeps texture).map (!·) :=
  test_marked_of_opposite (test_joined_comma (forall_isSeparable_marked h))
    (test_joined_bar hne h) hmark Term.allM_map_negate

/-- Filtering by the opposite test keeps what filtering by the test does not keep, and fails where
that fails. -/
theorem filter_of_test_eq_not {query other : String}
    (h : test query = (test other).map fun keeps texture => (keeps texture).map (!·))
    (textures : List Texture) :
    Query.filter textures query = do
      let kept ← Query.filter textures other
      return textures.filter fun texture => texture ∉ kept := by
  obtain ⟨keeps, hother, -⟩ | ⟨hother, -⟩ := test_cases other
  · rw [hother] at h
    have hquery : test query = .ok fun texture => (keeps texture).map (!·) := h
    obtain ⟨hanswers, hkept⟩ | ⟨texture, htexture, hfault, -, hfails⟩ :=
      filter_cases hother textures
    · have hopposite : ∀ texture ∈ textures, (keeps texture).map (!·) =
          .ok (decide (texture ∉ textures.filter fun texture => keeps texture = .ok true)) := by
        intro texture htexture
        obtain ⟨found, hfound⟩ := hanswers texture htexture
        cases found <;> simp [List.mem_filter, htexture, hfound, Except.map]
      rw [hkept, filter_of_answers hquery hopposite]
      rfl
    · obtain ⟨hanswers, -⟩ | ⟨_, _, _, _, hfailsToo⟩ := filter_cases hquery textures
      · obtain ⟨found, hfound⟩ := hanswers texture htexture
        rw [hfault] at hfound
        cases hfound
      · rw [hfails, hfailsToo]
        rfl
  · rw [hother] at h
    rw [filter_of_test_error hother, filter_of_test_error h]
    rfl

theorem readable_iff_of_splitTerms {query : String} (h : (splitTerms query).2 = terms) :
    Readable query ↔ ∀ term ∈ terms, ¬ Term.Overlong term := by
  simp only [Readable, ← mem_splitTerms_iff, h]

/-- As alternatives, the negated terms keep what the terms together do not keep; together, they keep
what the terms as alternatives do not keep.  Where one of the filters fails, so does its opposite.
If all dimensions can be written, there is a result if every term can be read. -/
theorem filter_marked (textures : List Texture) (hne : terms ≠ [])
    (h : ∀ term ∈ terms, IsSeparable term)
    (hmark : ∀ term ∈ terms, Term.isNegated term = false) :
    Query.filter textures ("|".intercalate (terms.map ("!" ++ ·))) =
        (do
          let kept ← Query.filter textures (",".intercalate terms)
          return textures.filter fun texture => texture ∉ kept) ∧
      Query.filter textures (",".intercalate (terms.map ("!" ++ ·))) =
        (do
          let kept ← Query.filter textures ("|".intercalate terms)
          return textures.filter fun texture => texture ∉ kept) ∧
      ((∀ texture ∈ textures, texture.HasNumerals) →
        ((∃ kept, Query.filter textures (",".intercalate terms) = .ok kept) ↔
          ∀ term ∈ terms, ¬ Term.Overlong term) ∧
        ((∃ kept, Query.filter textures ("|".intercalate terms) = .ok kept) ↔
          ∀ term ∈ terms, ¬ Term.Overlong term)) := by
  have hcomma := (splitTerms_joined_comma h).2
  have hbar : (splitTerms ("|".intercalate terms)).2 = terms := by
    rw [(isAlternative_joined hne h).splitTerms_eq, termsBetween_joined_bar h]
  refine ⟨filter_of_test_eq_not (test_joined_bar_marked hne h hmark) textures,
    filter_of_test_eq_not (test_joined_comma_marked hne h hmark) textures,
    fun hnumerals => ⟨?_, ?_⟩⟩
  · rw [exists_filter_eq_ok_iff_readable hnumerals, readable_iff_of_splitTerms hcomma]
  · rw [exists_filter_eq_ok_iff_readable hnumerals, readable_iff_of_splitTerms hbar]

/-- A text and a comparison. -/
theorem filter_marked_oak_and_small :
    let leaf : Texture := ⟨"", "", "", "Oak Leaf", "", 1024, 1024, "", {}⟩
    let bark : Texture := ⟨"", "", "", "Oak", "", 512, 1024, "", {}⟩
    let moss : Texture := ⟨"", "", "", "Moss", "", 256, 512, "", {}⟩
    let terms := ["oak l", ">=1024"]
    (terms ≠ [] ∧ (∀ term ∈ terms, IsSeparable term) ∧
        ∀ term ∈ terms, Term.isNegated term = false) ∧
      Query.filter [leaf, bark, moss] "oak l,>=1024" = .ok [leaf] ∧
      Query.filter [leaf, bark, moss] "!oak l|!>=1024" = .ok [bark, moss] := by
  intro leaf bark moss terms
  have hseparable : ∀ term ∈ terms, IsSeparable term :=
    List.forall_mem_cons.2 ⟨⟨by decide, by decide, by decide, by decide⟩,
      List.forall_mem_singleton.2 ⟨by decide, by decide, by decide, by decide⟩⟩
  have hmark : ∀ term ∈ terms, Term.isNegated term = false := by decide
  have hne : terms ≠ [] := by decide
  have hkept : Query.filter [leaf, bark, moss] "oak l,>=1024" = .ok [leaf] := by decide +kernel
  refine ⟨⟨hne, hseparable, hmark⟩, hkept, ?_⟩
  have hnegated := (filter_marked [leaf, bark, moss] hne hseparable hmark).1
  have hjoined : ",".intercalate terms = "oak l,>=1024" := by decide
  rw [hjoined, hkept] at hnegated
  exact hnegated

end TextureCatalog.Query
