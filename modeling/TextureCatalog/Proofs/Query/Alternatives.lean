import TextureCatalog.Proofs.Query.Refusal

/-!
# Alternative queries

A bar between two query texts puts their terms into one list of alternatives.  A text of a single
term becomes one of them; a text whose terms are separated by commas would become a text to look
for, and a text without terms, which lets everything pass, would be left out.  For all other texts a
texture passes the joined query if it passes one of the two.
-/

namespace TextureCatalog.Query

variable {query first second : String}

/-- Without a bar and a comma, it does not matter which of them separates the terms. -/
theorem splitTerms_of_bar_or_no_comma (h : '|' ∈ query.toList ∨ ',' ∉ query.toList) :
    (splitTerms query).2 = termsBetween '|' query.toList := by
  by_cases hbar : '|' ∈ query.toList
  · exact splitTerms_of_mem_bar hbar
  · have hcomma : ',' ∉ query.toList := h.resolve_left hbar
    rw [splitTerms_of_not_mem_bar hbar, termsBetween_of_not_mem hcomma,
      termsBetween_of_not_mem hbar]

/-- A query text that can stand beside a bar: it has a term, and no comma separates its terms. -/
structure IsAlternative (query : String) : Prop where
  exists_term : ∃ term, IsTermOf query term
  bar_or_no_comma : '|' ∈ query.toList ∨ ',' ∉ query.toList

namespace IsAlternative

theorem splitTerms_eq (h : IsAlternative query) :
    (splitTerms query).2 = termsBetween '|' query.toList :=
  splitTerms_of_bar_or_no_comma h.bar_or_no_comma

theorem termsBetween_ne_nil (h : IsAlternative query) :
    termsBetween '|' query.toList ≠ [] := by
  obtain ⟨term, hterm⟩ := h.exists_term
  rw [← h.splitTerms_eq]
  exact List.ne_nil_of_mem (mem_splitTerms_iff.2 hterm)

/-- A texture passes if one of the terms accepts it, also where the mode asks for all of them,
because there is only one then. -/
theorem matchesTexture_eq (h : IsAlternative query) (read : String → Term) (texture : Texture) :
    matchesTexture ⟨(splitTerms query).1, (termsBetween '|' query.toList).map read⟩ texture =
      ((termsBetween '|' query.toList).map read).anyM fun term => term.matchesTexture texture := by
  have hne := h.termsBetween_ne_nil
  by_cases hbar : '|' ∈ query.toList
  · have hmode : (splitTerms query).1 = .any := if_pos hbar
    simp [matchesTexture, hmode, hne]
  · have hmode : (splitTerms query).1 = .all := if_neg hbar
    rw [termsBetween_of_not_mem hbar] at hne ⊢
    cases hempty : (Text.trim query.toList).isEmpty with
    | true => simp [hempty] at hne
    | false =>
        simp only [matchesTexture, hmode, Bool.false_eq_true, if_false, List.map_singleton,
          List.isEmpty_cons, List.anyM_cons, List.allM_cons]
        rfl

/-- The test of such a text asks for one of its terms. -/
theorem test_eq (h : IsAlternative query) :
    test query = ((termsBetween '|' query.toList).mapM Term.parse).map fun terms texture =>
      terms.anyM fun term => term.matchesTexture texture := by
  rw [test_eq_map_mapM, h.splitTerms_eq]
  by_cases hlong : ∃ term ∈ termsBetween '|' query.toList, Term.Overlong term
  · rw [mapM_parse_of_overlong hlong]
    rfl
  · rw [mapM_parse_of_not_overlong fun term hterm hterm' => hlong ⟨term, hterm, hterm'⟩]
    apply congrArg Except.ok
    funext texture
    exact h.matchesTexture_eq Term.ofText texture

end IsAlternative

/-! ## Joining with a bar -/

theorem toList_bar (first second : String) :
    (first ++ "|" ++ second).toList = first.toList ++ '|' :: second.toList := by
  simp

theorem termsBetween_bar (first second : String) :
    termsBetween '|' (first ++ "|" ++ second).toList =
      termsBetween '|' first.toList ++ termsBetween '|' second.toList := by
  rw [toList_bar, termsBetween_append_cons]

theorem IsAlternative.bar (h : IsAlternative first) (second : String) :
    IsAlternative (first ++ "|" ++ second) := by
  have hbar : '|' ∈ (first ++ "|" ++ second).toList := by
    rw [toList_bar]
    exact List.mem_append_right _ List.mem_cons_self
  obtain ⟨term, hterm⟩ := h.exists_term
  have hmem : term ∈ (splitTerms (first ++ "|" ++ second)).2 := by
    rw [splitTerms_of_mem_bar hbar, termsBetween_bar, ← h.splitTerms_eq]
    exact List.mem_append_left _ (mem_splitTerms_iff.2 hterm)
  exact ⟨⟨term, mem_splitTerms_iff.1 hmem⟩, Or.inl hbar⟩

/-- The test of the joined text is made of the tests of its parts, which are read one after the
other. -/
theorem test_bar (hfirst : IsAlternative first) (hsecond : IsAlternative second) :
    test (first ++ "|" ++ second) = do
      let keepsFirst ← test first
      let keepsSecond ← test second
      return either keepsFirst keepsSecond := by
  rw [(hfirst.bar second).test_eq, hfirst.test_eq, hsecond.test_eq, termsBetween_bar,
    List.mapM_append]
  cases (termsBetween '|' first.toList).mapM Term.parse with
  | error fault => rfl
  | ok terms =>
      cases (termsBetween '|' second.toList).mapM Term.parse with
      | error fault => rfl
      | ok others =>
          apply congrArg Except.ok
          funext texture
          exact anyM_append terms others

theorem readable_bar_iff (hfirst : IsAlternative first) (hsecond : IsAlternative second) :
    Readable (first ++ "|" ++ second) ↔ Readable first ∧ Readable second := by
  simp only [← exists_test_eq_ok_iff, test_bar hfirst hsecond]
  cases test first <;> cases test second <;> simp [bind, Except.bind, pure, Except.pure]

/-- What is answered for either test is a positive answer if one of them is. -/
theorem eq_true_iff_of_either {keepsFirst keepsSecond : Texture → Except Fault Bool}
    {texture : Texture} {found : Bool} (h : either keepsFirst keepsSecond texture = .ok found) :
    found = true ↔ keepsFirst texture = .ok true ∨ keepsSecond texture = .ok true := by
  rw [either] at h
  cases hfirst : keepsFirst texture with
  | error fault => simp [hfirst, Except.bind] at h
  | ok answer => cases answer <;> simp_all [Except.bind]

/-- What filtering by the joined text keeps passes one of the two filters. -/
theorem filter_bar_eq_filter_mem {textures keptByFirst keptBySecond : List Texture}
    (hfirst : IsAlternative first) (hsecond : IsAlternative second)
    (hkeptByFirst : Query.filter textures first = .ok keptByFirst)
    (hkeptBySecond : Query.filter textures second = .ok keptBySecond) :
    Query.filter textures (first ++ "|" ++ second) =
      .ok (textures.filter fun texture => texture ∈ keptByFirst ∨ texture ∈ keptBySecond) := by
  obtain ⟨keepsFirst, htestFirst⟩ := exists_test_of_filter_eq_ok hkeptByFirst
  obtain ⟨keepsSecond, htestSecond⟩ := exists_test_of_filter_eq_ok hkeptBySecond
  have hjoined := test_bar hfirst hsecond
  rw [htestFirst, htestSecond] at hjoined
  refine filter_of_answers hjoined fun texture htexture => ?_
  rw [either, mem_of_filter_eq_ok htestFirst hkeptByFirst htexture,
    mem_of_filter_eq_ok htestSecond hkeptBySecond htexture]
  by_cases hmem : texture ∈ keptByFirst <;> simp [Except.bind, hmem]

/-- A texture that is kept is found by one of the texts in a filtering of it alone. -/
theorem eq_filter_singletons_of_filter_bar {textures kept : List Texture}
    (hfirst : IsAlternative first) (hsecond : IsAlternative second)
    (hkept : Query.filter textures (first ++ "|" ++ second) = .ok kept) :
    kept = textures.filter fun texture =>
      Query.filter [texture] first = .ok [texture] ∨
        Query.filter [texture] second = .ok [texture] := by
  obtain ⟨hreadFirst, hreadSecond⟩ :=
    (readable_bar_iff hfirst hsecond).1 ((exists_filter_eq_ok_iff _ _).1 ⟨_, hkept⟩).1
  have htestFirst := test_of_readable hreadFirst
  have htestSecond := test_of_readable hreadSecond
  have hjoined := test_bar hfirst hsecond
  rw [htestFirst, htestSecond] at hjoined
  obtain ⟨hanswers, hfilter⟩ | ⟨_, _, _, _, hfails⟩ := filter_cases hjoined textures
  · rw [Except.ok.inj (hkept.symm.trans hfilter)]
    refine List.filter_congr fun texture htexture => ?_
    obtain ⟨found, hfound⟩ := hanswers texture htexture
    simp only [filter_singleton_eq_iff htestFirst, filter_singleton_eq_iff htestSecond,
      ← eq_true_iff_of_either hfound, hfound, Except.ok.injEq]
  · exact absurd (hkept.symm.trans hfails) (by simp)

end TextureCatalog.Query
