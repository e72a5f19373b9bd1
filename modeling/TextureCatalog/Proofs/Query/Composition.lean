import TextureCatalog.Proofs.Query.Selection
import TextureCatalog.Proofs.Query.Terms

/-!
# Queries put together

A comma between two query texts without bars puts their terms into one list, those of the first text
in front.  Therefore a texture passes the joined query if it passes both, and filtering by the
joined query is filtering twice.  Only if filtering by the first text fails at a texture and the
second one cannot be read, the two ways fail for different reasons, because a query is read as a
whole.
-/

namespace TextureCatalog.Query

variable {query first second : String}

/-! ## Texts without bars -/

theorem mode_of_not_mem_bar (h : '|' ∉ query.toList) : (splitTerms query).1 = .all :=
  if_neg h

theorem bar_not_mem_comma (hfirst : '|' ∉ first.toList) (hsecond : '|' ∉ second.toList) :
    '|' ∉ (first ++ "," ++ second).toList := by
  simp [hfirst, hsecond]

/-- The test of a text without bars asks for all its terms. -/
theorem test_of_not_mem_bar (h : '|' ∉ query.toList) :
    test query = ((splitTerms query).2.mapM Term.parse).map fun terms texture =>
      terms.allM fun term => term.matchesTexture texture := by
  rw [test_eq_map_mapM, mode_of_not_mem_bar h]
  congr 1
  funext terms texture
  -- Without terms, asking for all of them is no condition, so that case needs no rule of its own.
  cases terms <;> rfl

/-! ## Joining with a comma -/

theorem splitTerms_comma (hfirst : '|' ∉ first.toList) (hsecond : '|' ∉ second.toList) :
    (splitTerms (first ++ "," ++ second)).2 = (splitTerms first).2 ++ (splitTerms second).2 := by
  rw [splitTerms_of_not_mem_bar (bar_not_mem_comma hfirst hsecond),
    splitTerms_of_not_mem_bar hfirst, splitTerms_of_not_mem_bar hsecond,
    ← termsBetween_append_cons]
  simp

/-- The test of the joined text is made of the tests of its parts, which are read one after the
other. -/
theorem test_comma (hfirst : '|' ∉ first.toList) (hsecond : '|' ∉ second.toList) :
    test (first ++ "," ++ second) = do
      let keepsFirst ← test first
      let keepsSecond ← test second
      return both keepsFirst keepsSecond := by
  rw [test_of_not_mem_bar (bar_not_mem_comma hfirst hsecond), test_of_not_mem_bar hfirst,
    test_of_not_mem_bar hsecond, splitTerms_comma hfirst hsecond, List.mapM_append]
  cases (splitTerms first).2.mapM Term.parse with
  | error fault => rfl
  | ok terms =>
      cases (splitTerms second).2.mapM Term.parse with
      | error fault => rfl
      | ok others =>
          apply congrArg Except.ok
          funext texture
          exact allM_append terms others

/-- Filtering by the joined text is filtering twice, or both ways fail: the second text cannot be
read, and before that is seen, filtering by the first one comes to a dimension that is not
written. -/
theorem filter_comma_eq_or_fails (textures : List Texture) (hfirst : '|' ∉ first.toList)
    (hsecond : '|' ∉ second.toList) :
    Query.filter textures (first ++ "," ++ second) =
        (do
          let kept ← Query.filter textures first
          Query.filter kept second) ∨
      (¬ Readable second ∧ (∃ texture ∈ textures, ¬ texture.HasNumerals) ∧
        Query.filter textures (first ++ "," ++ second) = .error .numeralTooLong ∧
        Query.filter textures first = .error .dimensionTooLong) := by
  have hjoined := test_comma hfirst hsecond
  obtain ⟨keepsFirst, htestFirst, -⟩ | ⟨htestFirst, -⟩ := test_cases first
  · obtain ⟨keepsSecond, htestSecond, -⟩ | ⟨htestSecond, hlong⟩ := test_cases second
    · rw [htestFirst, htestSecond] at hjoined
      have hfaults {query : String} {keeps : Texture → Except Fault Bool}
          (htest : test query = .ok keeps) (texture : Texture) (fault : Fault)
          (hfault : keeps texture = .error fault) : fault = .dimensionTooLong :=
        (test_failsByDimension htest texture fault hfault).1
      refine .inl ?_
      simp only [Query.filter, hjoined, htestFirst, htestSecond]
      exact filterM_both (hfaults htestFirst) (hfaults htestSecond) textures
    · rw [htestFirst, htestSecond] at hjoined
      have hfails := filter_of_test_error hjoined textures
      obtain ⟨-, hfilter⟩ | ⟨texture, htexture, -, hnumerals, hfilter⟩ :=
        filter_cases htestFirst textures
      · refine .inl ?_
        rw [hfails, hfilter]
        exact (filter_of_test_error htestSecond _).symm
      · exact .inr ⟨hlong, ⟨texture, htexture, hnumerals⟩, hfails, hfilter⟩
  · rw [htestFirst] at hjoined
    refine .inl ?_
    rw [filter_of_test_error htestFirst]
    exact filter_of_test_error hjoined textures

/-- What the joined text keeps has passed both filters. -/
theorem filter_comma_eq_filter_mem {textures keptByFirst keptBySecond : List Texture}
    (hfirst : '|' ∉ first.toList) (hsecond : '|' ∉ second.toList)
    (hkeptByFirst : Query.filter textures first = .ok keptByFirst)
    (hkeptBySecond : Query.filter textures second = .ok keptBySecond) :
    Query.filter textures (first ++ "," ++ second) =
      .ok (textures.filter fun texture => texture ∈ keptByFirst ∧ texture ∈ keptBySecond) := by
  obtain ⟨keepsFirst, htestFirst⟩ := exists_test_of_filter_eq_ok hkeptByFirst
  obtain ⟨keepsSecond, htestSecond⟩ := exists_test_of_filter_eq_ok hkeptBySecond
  have hjoined := test_comma hfirst hsecond
  rw [htestFirst, htestSecond] at hjoined
  refine filter_of_answers hjoined fun texture htexture => ?_
  rw [both, mem_of_filter_eq_ok htestFirst hkeptByFirst htexture,
    mem_of_filter_eq_ok htestSecond hkeptBySecond htexture]
  by_cases hmem : texture ∈ keptByFirst <;> simp [Except.bind, hmem]

end TextureCatalog.Query
