import TextureCatalog.Proofs.Query.Negation

/-!
# Query texts of terms

The terms of a query text and its mode can be written as a query text again, which has the same
terms and the same mode.  Requirements are joined with commas.  Alternatives are joined with bars
and one more bar stands behind them: without it, a single alternative would be a requirement, and a
comma in it would separate terms.  The terms of a text are of the form that is needed for this, so
every query gives the same results as the text that is written from its terms.
-/

namespace TextureCatalog.Query

variable {mode : Mode} {query term : String} {terms : List String}

/-- A term as a text in a mode can have it: trimmed, and without the characters that would separate
it there or change the mode. -/
structure IsNormalTerm (mode : Mode) (term : String) : Prop where
  ne_empty : term ≠ ""
  trimmed_eq : Text.trimmed term = term
  bar_not_mem : '|' ∉ term.toList
  comma_not_mem : mode = .all → ',' ∉ term.toList

/-- Terms as a text in a mode can have them. -/
def IsNormal (mode : Mode) (terms : List String) : Prop :=
  ∀ term ∈ terms, IsNormalTerm mode term

/-- The query text of terms in a mode. -/
def render : Mode → List String → String
  | .all, terms => ",".intercalate terms
  | .any, terms => "|".intercalate terms ++ "|"

/-! ## The terms of a text -/

/-- A term of a text has been trimmed; its separators have been cut off, and it has a bar only if
the text has one, where bars separate terms. -/
theorem IsTermOf.isNormalTerm (h : IsTermOf query term) :
    IsNormalTerm (splitTerms query).1 term := by
  obtain ⟨hne, piece, hpiece, rfl⟩ := h
  have hfree : ∀ c, c ∉ piece → c ∉ (String.ofList (Text.trim piece)).toList := by
    intro c hc hmem
    rw [String.toList_ofList] at hmem
    exact hc (Text.mem_of_mem_trim hmem)
  have htrimmed : Text.trimmed (String.ofList (Text.trim piece)) =
      String.ofList (Text.trim piece) := by
    rw [Text.trimmed, String.toList_ofList, Text.trim_trim]
  by_cases hbar : '|' ∈ query.toList
  · have hmode : (splitTerms query).1 = .any := if_pos hbar
    rw [separatorOf, if_pos hbar] at hpiece
    refine ⟨hne, htrimmed, hfree '|' hpiece.1, fun hall => ?_⟩
    rw [hmode] at hall
    exact absurd hall (by decide)
  · rw [separatorOf, if_neg hbar] at hpiece
    exact ⟨hne, htrimmed, hfree '|' fun hmem => hbar (hpiece.subset hmem),
      fun _ => hfree ',' hpiece.1⟩

theorem isNormal_splitTerms (query : String) :
    IsNormal (splitTerms query).1 (splitTerms query).2 :=
  fun _ hterm => (mem_splitTerms_iff.1 hterm).isNormalTerm

/-! ## The text of terms -/

theorem IsNormalTerm.isSeparable (h : IsNormalTerm .all term) : IsSeparable term :=
  ⟨h.ne_empty, h.trimmed_eq, h.bar_not_mem, h.comma_not_mem rfl⟩

theorem IsNormalTerm.fitsBetween_bar (h : IsNormalTerm mode term) : FitsBetween '|' term where
  ne_empty := h.ne_empty
  trim_eq := by rw [← Text.toList_trimmed, h.trimmed_eq]
  separator_not_mem := h.bar_not_mem

/-- Joined with commas, the terms are found again, and there is no bar to change the mode. -/
theorem splitTerms_render_all (h : IsNormal .all terms) :
    splitTerms (render .all terms) = (.all, terms) := by
  obtain ⟨hbar, hterms⟩ := splitTerms_joined_comma fun term hterm => (h term hterm).isSeparable
  exact Prod.ext (mode_of_not_mem_bar hbar) hterms

/-- Behind the last bar there is no term. -/
theorem splitTerms_render_any (h : IsNormal .any terms) :
    splitTerms (render .any terms) = (.any, terms) := by
  have htext : (render .any terms).toList =
      ['|'].intercalate (terms.map String.toList) ++ '|' :: [] := by
    rw [render, String.toList_append, String.toList_intercalate]
    rfl
  have hbar : '|' ∈ (render .any terms).toList := by
    rw [htext]
    exact List.mem_append_right _ List.mem_cons_self
  have hterms : (splitTerms (render .any terms)).2 = terms := by
    rw [splitTerms_of_mem_bar hbar, htext, termsBetween_append_cons,
      termsBetween_intercalate fun term hterm => (h term hterm).fitsBetween_bar]
    exact List.append_nil terms
  exact Prod.ext (if_pos hbar) hterms

theorem splitTerms_render (h : IsNormal mode terms) :
    splitTerms (render mode terms) = (mode, terms) := by
  cases mode with
  | all => exact splitTerms_render_all h
  | any => exact splitTerms_render_any h

theorem splitTerms_render_splitTerms (query : String) :
    splitTerms (render (splitTerms query).1 (splitTerms query).2) = splitTerms query :=
  splitTerms_render (isNormal_splitTerms query)

/-- Texts that have the same terms in the same mode stand for the same test. -/
theorem test_congr {other : String} (h : splitTerms query = splitTerms other) :
    test query = test other := by
  rw [test_eq_map_mapM, test_eq_map_mapM, h]

/-- The terms of a text are of the form in which terms can be written as a text in its mode; such
terms are found again in the text that is written from them; so filtering by the text that is
written from the terms of a query is filtering by the query, also if it cannot be read. -/
theorem splitting_inverts_rendering :
    (∀ query, IsNormal (splitTerms query).1 (splitTerms query).2) ∧
      (∀ mode terms, IsNormal mode terms → splitTerms (render mode terms) = (mode, terms)) ∧
      ∀ textures query,
        Query.filter textures (render (splitTerms query).1 (splitTerms query).2) =
          Query.filter textures query := by
  refine ⟨isNormal_splitTerms, fun _ _ h => splitTerms_render h, fun textures query => ?_⟩
  rw [Query.filter, Query.filter, test_congr (splitTerms_render_splitTerms query)]

/-- The comma of a single alternative is kept, because a bar stands behind it. -/
theorem splitting_inverts_rendering_oak :
    IsNormal .any ["oak,leaf"] ∧ splitTerms "oak,leaf|" = (.any, ["oak,leaf"]) ∧
      ∀ textures, Query.filter textures "oak,leaf|" = Query.filter textures "| oak,leaf " := by
  have hnormal : IsNormal .any ["oak,leaf"] :=
    List.forall_mem_singleton.2 ⟨by decide, by decide, by decide, by decide⟩
  obtain ⟨-, hfound, hsame⟩ := splitting_inverts_rendering
  have htext : render .any ["oak,leaf"] = "oak,leaf|" := by decide
  have hsplit := hfound .any ["oak,leaf"] hnormal
  rw [htext] at hsplit
  refine ⟨hnormal, hsplit, fun textures => ?_⟩
  have hquery : splitTerms "| oak,leaf " = (.any, ["oak,leaf"]) := by decide
  have hfilter := hsame textures "| oak,leaf "
  rw [hquery, htext] at hfilter
  exact hfilter

end TextureCatalog.Query
