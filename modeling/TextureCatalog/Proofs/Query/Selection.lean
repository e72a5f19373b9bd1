import TextureCatalog.Proofs.Query.Deciding

/-!
# Which textures a query selects

The meaning of a query text, said without reading it: textures are tested against its terms as they
are written, one at a time.  Filtering by a query keeps exactly the textures that it selects.
-/

namespace TextureCatalog.Query

variable {query : String}

/-- A texture matches a term as it is written. -/
def Accepts (texture : Texture) (term : String) : Prop :=
  matchesTerm texture term = .ok true

/-- A query without terms selects everything.  Otherwise a single term is enough if the text has a
bar, and all terms are needed if it has none. -/
def Selects (query : String) (texture : Texture) : Prop :=
  (∀ term, ¬ IsTermOf query term) ∨
    ('|' ∈ query.toList ∧ ∃ term, IsTermOf query term ∧ Accepts texture term) ∨
    ('|' ∉ query.toList ∧ ∀ term, IsTermOf query term → Accepts texture term)

/-- Every term gets an answer at which the matching of a texture arrives.  It goes on behind terms
that are not accepted if one term is enough, and behind accepted ones if all are needed. -/
def Settles (query : String) (texture : Texture) : Prop :=
  ∀ term, LookedAt (matchesTerm texture) (decide ('|' ∉ query.toList)) (splitTerms query).2 term →
    ∃ found, matchesTerm texture term = .ok found

/-- The answers of the terms of a query text, one of which or all of which have to be positive. -/
def answerOfTerms (query : String) (texture : Texture) : Except Fault Bool :=
  if '|' ∈ query.toList then (splitTerms query).2.anyM (matchesTerm texture)
  else (splitTerms query).2.allM (matchesTerm texture)

theorem exists_answerOfTerms_iff {query : String} {texture : Texture} :
    (∃ found, answerOfTerms query texture = .ok found) ↔ Settles query texture := by
  rw [answerOfTerms, Settles]
  by_cases hbar : '|' ∈ query.toList
  · rw [if_pos hbar, exists_anyM_eq_ok_iff, decide_eq_false (not_not_intro hbar)]
  · rw [if_neg hbar, exists_allM_eq_ok_iff, decide_eq_true hbar]

/-! ## Decisions -/

instance (text : String) : Decidable (Comparison.Overlong text) :=
  decidable_of_iff (Comparison.parse text = .error .numeralTooLong) Comparison.parse_eq_error_iff

instance (query : String) : Decidable (Readable query) :=
  decidable_of_iff (∀ term ∈ (splitTerms query).2, ¬ Comparison.Overlong (Term.body term)) (by
    simp only [mem_splitTerms_iff]
    rfl)

instance (texture : Texture) (term : String) : Decidable (Accepts texture term) :=
  inferInstanceAs (Decidable (matchesTerm texture term = .ok true))

instance (query : String) (texture : Texture) : Decidable (Selects query texture) :=
  decidable_of_iff
    ((splitTerms query).2 = [] ∨
      ('|' ∈ query.toList ∧ ∃ term ∈ (splitTerms query).2, Accepts texture term) ∨
      ('|' ∉ query.toList ∧ ∀ term ∈ (splitTerms query).2, Accepts texture term)) (by
    simp only [Selects, List.eq_nil_iff_forall_not_mem, mem_splitTerms_iff])

instance (query : String) (texture : Texture) : Decidable (Settles query texture) :=
  decidable_of_iff ((answerOfTerms query texture).isOk = true) (by
    rw [← exists_answerOfTerms_iff]
    cases answerOfTerms query texture <;> simp [Except.isOk, Except.toBool])

/-! ## Matching -/

/-- The query that was read is matched by its terms as they are written. -/
theorem matchesTexture_ofText {query : String} (h : Readable query) (texture : Texture) :
    (ofText query).matchesTexture texture =
      if (splitTerms query).2 = [] then .ok true else answerOfTerms query texture := by
  have hterm : ∀ term ∈ (splitTerms query).2,
      (Term.ofText term).matchesTexture texture = matchesTerm texture term := fun term hterm =>
    (matchesTerm_of_not_overlong (h term (mem_splitTerms_iff.1 hterm)) texture).symm
  have hany : ((splitTerms query).2.map Term.ofText).anyM (·.matchesTexture texture) =
      (splitTerms query).2.anyM (matchesTerm texture) := by
    rw [anyM_map]
    exact anyM_congr hterm
  have hall : ((splitTerms query).2.map Term.ofText).allM (·.matchesTexture texture) =
      (splitTerms query).2.allM (matchesTerm texture) := by
    rw [allM_map]
    exact allM_congr hterm
  have hmode : (splitTerms query).1 = if '|' ∈ query.toList then .any else .all := rfl
  simp only [matchesTexture, answerOfTerms, ofText, hmode, List.isEmpty_iff, List.map_eq_nil_iff,
    hany, hall]
  by_cases hbar : '|' ∈ query.toList <;> simp only [hbar, if_true, if_false]

/-- There is an answer if the query settles the texture, which it does if no term can be looked
at. -/
theorem exists_matchesTexture_ofText_iff {query : String} (h : Readable query)
    (texture : Texture) :
    (∃ found, (ofText query).matchesTexture texture = .ok found) ↔ Settles query texture := by
  rw [matchesTexture_ofText h, ← exists_answerOfTerms_iff]
  split
  · next hnone =>
      refine iff_of_true ⟨true, rfl⟩ (exists_answerOfTerms_iff.2 fun term hterm => ?_)
      rw [hnone] at hterm
      cases hterm
  · rfl

/-- The answer is positive if the text of the query selects the texture. -/
theorem eq_true_iff_selects {query : String} (h : Readable query) {texture : Texture} {found : Bool}
    (hfound : (ofText query).matchesTexture texture = .ok found) :
    found = true ↔ Selects query texture := by
  rw [matchesTexture_ofText h] at hfound
  split at hfound
  · next hnone =>
      cases hfound
      refine iff_of_true rfl (.inl fun term hterm => ?_)
      rw [← mem_splitTerms_iff, hnone] at hterm
      cases hterm
  · next hsome =>
      rw [List.eq_nil_iff_forall_not_mem] at hsome
      rw [answerOfTerms] at hfound
      simp only [Selects, Accepts, ← mem_splitTerms_iff, hsome, false_or]
      split at hfound
      · next hbar => simp [hbar, eq_true_iff_of_anyM hfound]
      · next hbar => simp [hbar, eq_true_iff_of_allM hfound]

theorem settles_of_hasNumerals {query : String} (h : Readable query) {texture : Texture}
    (hnumerals : texture.HasNumerals) : Settles query texture := by
  rw [← exists_matchesTexture_ofText_iff h]
  cases hanswer : (ofText query).matchesTexture texture with
  | ok found => exact ⟨found, rfl⟩
  | error fault =>
      have hfails := (ofText query).matchesTexture_failsByDimension texture fault hanswer
      exact absurd hnumerals hfails.2

/-! ## Filtering -/

theorem test_cases (query : String) :
    (∃ keeps, test query = .ok keeps ∧ Readable query) ∨
      (test query = .error .numeralTooLong ∧ ¬ Readable query) := by
  by_cases h : Readable query
  · exact .inl ⟨_, test_of_readable h, h⟩
  · exact .inr ⟨test_eq_error_iff.2 h, h⟩

theorem filter_of_test_error {fault : Fault} (h : test query = .error fault)
    (textures : List Texture) : Query.filter textures query = .error fault := by
  rw [Query.filter, h]
  rfl

theorem exists_test_of_filter_eq_ok {textures kept : List Texture}
    (h : Query.filter textures query = .ok kept) : ∃ keeps, test query = .ok keeps := by
  obtain ⟨keeps, htest, -⟩ | ⟨htest, -⟩ := test_cases query
  · exact ⟨keeps, htest⟩
  · rw [filter_of_test_error htest] at h
    cases h

/-- What filtering does if the query can be read: all textures get an answer, or one of them does
not. -/
theorem filter_cases {query : String} {keeps : Texture → Except Fault Bool}
    (h : test query = .ok keeps) (textures : List Texture) :
    ((∀ texture ∈ textures, ∃ found, keeps texture = .ok found) ∧
        Query.filter textures query =
          .ok (textures.filter fun texture => keeps texture = .ok true)) ∨
      ∃ texture ∈ textures, keeps texture = .error .dimensionTooLong ∧
        ¬ texture.HasNumerals ∧ Query.filter textures query = .error .dimensionTooLong := by
  have hfilter : Query.filter textures query = textures.filterM keeps := by
    rw [Query.filter, h]
    rfl
  rw [hfilter]
  obtain hkept | ⟨texture, htexture, fault, hfault, hfails⟩ := filterM_cases keeps textures
  · exact .inl hkept
  · obtain ⟨rfl, hnumerals⟩ := test_failsByDimension h texture fault hfault
    exact .inr ⟨texture, htexture, hfault, hnumerals, hfails⟩

/-- What is kept passes the test, and nothing else does. -/
theorem mem_of_filter_eq_ok {keeps : Texture → Except Fault Bool} {textures kept : List Texture}
    (h : test query = .ok keeps) (hkept : Query.filter textures query = .ok kept)
    {texture : Texture} (htexture : texture ∈ textures) :
    keeps texture = .ok (decide (texture ∈ kept)) := by
  obtain ⟨hanswers, hfilter⟩ | ⟨_, _, _, _, hfails⟩ := filter_cases h textures
  · obtain rfl := Except.ok.inj (hkept.symm.trans hfilter)
    obtain ⟨found, hfound⟩ := hanswers texture htexture
    cases found <;> simp [List.mem_filter, htexture, hfound]
  · exact absurd (hkept.symm.trans hfails) (by simp)

/-- A filtering by a test whose answers are known. -/
theorem filter_of_answers {keeps : Texture → Except Fault Bool} {textures : List Texture}
    {answer : Texture → Bool} (h : test query = .ok keeps)
    (hanswers : ∀ texture ∈ textures, keeps texture = .ok (answer texture)) :
    Query.filter textures query = .ok (textures.filter answer) := by
  obtain ⟨-, hfilter⟩ | ⟨texture, htexture, hfault, _⟩ := filter_cases h textures
  · rw [hfilter]
    refine congrArg Except.ok (List.filter_congr fun texture htexture => ?_)
    simp [hanswers texture htexture]
  · exact absurd ((hanswers texture htexture).symm.trans hfault) (by simp)

theorem filter_singleton_of_test {keeps : Texture → Except Fault Bool} (h : test query = .ok keeps)
    (texture : Texture) :
    Query.filter [texture] query =
      (keeps texture).map fun found => if found then [texture] else [] := by
  rw [Query.filter, h]
  change [texture].filterM keeps = _
  rw [filterM_cons]
  cases keeps texture <;> rfl

/-- A single texture is found if it passes the test. -/
theorem filter_singleton_eq_iff {keeps : Texture → Except Fault Bool} (h : test query = .ok keeps)
    {texture : Texture} :
    Query.filter [texture] query = .ok [texture] ↔ keeps texture = .ok true := by
  rw [filter_singleton_of_test h]
  cases keeps texture with
  | error fault => simp [Except.map]
  | ok found => cases found <;> simp [Except.map]

/-- What a query that can be read selects is kept if it settles all textures. -/
theorem filter_of_readable (textures : List Texture) {query : String} (h : Readable query) :
    Query.filter textures query =
      if ∀ texture ∈ textures, Settles query texture then
        .ok (textures.filter fun texture => decide (Selects query texture))
      else .error .dimensionTooLong := by
  obtain ⟨hanswers, hkept⟩ | ⟨texture, htexture, hfault, -, hfails⟩ :=
    filter_cases (test_of_readable h) textures
  · have hsettles : ∀ texture ∈ textures, Settles query texture := fun texture htexture =>
      (exists_matchesTexture_ofText_iff h texture).1 (hanswers texture htexture)
    rw [if_pos hsettles, hkept]
    refine congrArg Except.ok (List.filter_congr fun texture htexture => ?_)
    obtain ⟨found, hfound⟩ := hanswers texture htexture
    simp [hfound, eq_true_iff_selects h hfound]
  · have hunsettled : ¬ ∀ texture ∈ textures, Settles query texture := fun hsettles => by
      obtain ⟨found, hfound⟩ :=
        (exists_matchesTexture_ofText_iff h texture).2 (hsettles texture htexture)
      exact absurd (hfound.symm.trans hfault) (by simp)
    rw [if_neg hunsettled, hfails]

end TextureCatalog.Query
