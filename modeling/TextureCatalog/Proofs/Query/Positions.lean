import Mathlib.Data.List.Forall2
import TextureCatalog.Filter
import TextureCatalog.Proofs.Query.Selection

/-!
# Positions of a search

A search tests every texture by itself: by the test of its query and by its filter.  So it can be
told by the positions that it keeps, and it does not matter which of the two tests comes first,
whether textures are searched together or in parts, or whether they have been searched before.
-/

namespace TextureCatalog

/-! ## Positions in a list -/

section Positions

variable {α β : Type} {test : α → Bool} {items : List α} {position : Nat}

/-- The first member is tested, and the positions in the rest are counted from the second one. -/
theorem positionsOf_cons (test : α → Bool) (item : α) (items : List α) :
    positionsOf test (item :: items) =
      (if test item then [0] else []) ++ (positionsOf test items).map (· + 1) := by
  have hrest : (items.zipIdx 1).filter (fun pair => test pair.1) =
      (items.zipIdx.filter fun pair => test pair.1).map (Prod.map id (· + 1)) := by
    rw [List.zipIdx_succ, List.filter_map]
    rfl
  simp only [positionsOf, List.zipIdx_cons, List.filter_cons, Nat.zero_add]
  rw [hrest]
  cases test item <;> simp

theorem positionsOf_append (test : α → Bool) (items others : List α) :
    positionsOf test (items ++ others) =
      positionsOf test items ++ (positionsOf test others).map (· + items.length) := by
  induction items with
  | nil => simp [positionsOf]
  | cons item items ih =>
      have hshift : (· + 1) ∘ (· + items.length) = (· + (item :: items).length) := by
        funext position
        exact Nat.add_assoc _ _ _
      rw [List.cons_append, positionsOf_cons, positionsOf_cons, ih, List.map_append, List.map_map,
        List.append_assoc, hshift]

theorem mem_positionsOf_iff :
    position ∈ positionsOf test items ↔ ∃ item, items[position]? = some item ∧ test item := by
  simp [positionsOf, List.mem_zipIdx_iff_getElem?, and_comm]

theorem pairwise_positionsOf (test : α → Bool) (items : List α) :
    (positionsOf test items).Pairwise (· < ·) := by
  have hsublist : (positionsOf test items).Sublist (items.zipIdx.map Prod.snd) :=
    List.filter_sublist.map _
  rw [List.zipIdx_map_snd] at hsublist
  exact List.Pairwise.sublist hsublist List.pairwise_lt_range'

theorem any_getElem?_congr {otherTest : β → Bool} {others : List β}
    (h : List.Forall₂ (fun item other => test item = otherTest other) items others)
    (position : Nat) : items[position]?.any test = others[position]?.any otherTest := by
  induction h generalizing position with
  | nil => rfl
  | cons hsame _ ih =>
      cases position with
      | zero => exact hsame
      | succ position => exact ih position

/-- The members that are kept stand at the same positions if they have the same answers. -/
theorem filterM_zipIdx_congr {ε : Type} {test : α → Except ε Bool} {otherTest : β → Except ε Bool}
    {items : List α} {others : List β}
    (h : List.Forall₂ (fun item other => test item = otherTest other) items others)
    (start : Nat) :
    ((items.zipIdx start).filterM fun pair => test pair.1).map (List.map Prod.snd) =
      ((others.zipIdx start).filterM fun pair => otherTest pair.1).map (List.map Prod.snd) := by
  induction h generalizing start with
  | nil => rfl
  | @cons item other items others hsame _ ih =>
      have hrest := ih (start + 1)
      rw [List.zipIdx_cons, List.zipIdx_cons, filterM_cons, filterM_cons, hsame]
      cases otherTest other with
      | error fault => rfl
      | ok answer =>
          cases hkept : (items.zipIdx (start + 1)).filterM fun pair => test pair.1 <;>
            cases hkeptOther : (others.zipIdx (start + 1)).filterM fun pair => otherTest pair.1 <;>
            rw [hkept, hkeptOther] at hrest <;>
            cases answer <;>
            simp_all [Except.map, bind, Except.bind, pure, Except.pure]

/-- What stands at the positions is what passes the test. -/
theorem filterMap_positionsOf (test : α → Bool) (items : List α) :
    (positionsOf test items).filterMap (items[·]?) = items.filter test := by
  induction items with
  | nil => rfl
  | cons item items ih =>
      have hrest : ((item :: items)[·]?) ∘ (· + 1) = (items[·]?) := by
        funext position
        exact List.getElem?_cons_succ
      rw [positionsOf_cons, List.filterMap_append, List.filterMap_map, hrest, ih, List.filter_cons]
      cases test item <;> rfl

theorem positionsOf_eq_filter_range (test : α → Bool) (items : List α) :
    positionsOf test items =
      (List.range items.length).filter fun position => items[position]?.any test := by
  induction items with
  | nil => rfl
  | cons item items ih =>
      have hrest : (fun position => (item :: items)[position]?.any test) ∘ Nat.succ =
          fun position => items[position]?.any test := by
        funext position
        exact congrArg (Option.any test) List.getElem?_cons_succ
      rw [positionsOf_cons, List.length_cons, List.range_succ_eq_map, List.filter_cons,
        List.filter_map, hrest, ← ih]
      cases htest : test item <;> simp [htest]

/-- Testing what stands at the positions is testing it once more. -/
theorem filter_positionsOf (test otherTest : α → Bool) (items : List α) :
    (positionsOf test items).filter (fun position => items[position]?.any otherTest) =
      positionsOf (fun item => test item && otherTest item) items := by
  rw [positionsOf_eq_filter_range, positionsOf_eq_filter_range, List.filter_filter]
  apply List.filter_congr
  intro position _
  cases items[position]? with
  | none => rfl
  | some item => exact Bool.and_comm _ _

/-- The positions of a list after the one that is removed: it is gone, and those above it are lower
by one. -/
def positionsWithout (removed : Nat) (positions : List Nat) : List Nat :=
  (positions.filter (· ≠ removed)).map fun position =>
    if removed < position then position - 1 else position

theorem positionsWithout_append (removed : Nat) (positions others : List Nat) :
    positionsWithout removed (positions ++ others) =
      positionsWithout removed positions ++ positionsWithout removed others := by
  rw [positionsWithout, List.filter_append, List.map_append]
  rfl

/-- Without the first position, the others are lower by one. -/
theorem positionsWithout_zero (positions : List Nat) :
    positionsWithout 0 (positions.map (· + 1)) = positions := by
  have hkept : (positions.map (· + 1)).filter (· ≠ 0) = positions.map (· + 1) :=
    List.filter_eq_self.2 fun position hposition => by
      obtain ⟨before, -, rfl⟩ := List.mem_map.1 hposition
      simp
  rw [positionsWithout, hkept, List.map_map]
  exact (List.map_congr_left fun position _ => by simp).trans (List.map_id' positions)

/-- In a list with one more member in front, all this happens one position higher. -/
theorem positionsWithout_succ (removed : Nat) (positions : List Nat) :
    positionsWithout (removed + 1) (positions.map (· + 1)) =
      (positionsWithout removed positions).map (· + 1) := by
  have hkept : (fun position => decide (position ≠ removed + 1)) ∘ (· + 1) =
      fun position => decide (position ≠ removed) := by
    funext position
    simp
  rw [positionsWithout, positionsWithout, List.filter_map, hkept, List.map_map, List.map_map]
  apply List.map_congr_left
  intro position _
  simp only [Function.comp_apply]
  split <;> split <;> omega

/-- Removing a member of a list removes its position and closes the gap. -/
theorem positionsOf_eraseIdx (test : α → Bool) (items : List α) (removed : Nat) :
    positionsOf test (items.eraseIdx removed) =
      positionsWithout removed (positionsOf test items) := by
  induction items generalizing removed with
  | nil => rfl
  | cons item items ih =>
      rw [positionsOf_cons, positionsWithout_append]
      cases removed with
      | zero =>
          have hfirst : positionsWithout 0 (if test item then [0] else []) = [] := by
            cases test item <;> rfl
          rw [List.eraseIdx_cons_zero, positionsWithout_zero, hfirst, List.nil_append]
      | succ removed =>
          have hfirst : positionsWithout (removed + 1) (if test item then [0] else []) =
              if test item then [0] else [] := by
            cases test item <;> rfl
          rw [List.eraseIdx_cons_succ, positionsOf_cons, ih, positionsWithout_succ, hfirst]

end Positions

/-! ## Searching -/

section Searching

variable {query : String} {keeps : Texture → Except Query.Fault Bool} {textures : List Texture}
variable {fault : Query.Fault}

/-- Either all textures get an answer, or one of them has a dimension that is not written. -/
theorem Query.answers_or_fault (h : test query = .ok keeps) (textures : List Texture) :
    (∀ texture ∈ textures, ∃ found, keeps texture = .ok found) ∨
      ∃ texture ∈ textures, keeps texture = .error .dimensionTooLong ∧ ¬ texture.HasNumerals := by
  obtain ⟨hanswers, -⟩ | ⟨texture, htexture, hfault, hnumerals, -⟩ := filter_cases h textures
  · exact .inl hanswers
  · exact .inr ⟨texture, htexture, hfault, hnumerals⟩

/-- Textures are tested together with their positions. -/
theorem Query.keptPositions_of_test_eq (h : test query = .ok keeps) (textures : List Texture) :
    keptPositions textures query =
      (textures.zipIdx.filterM fun pair => keeps pair.1).map (List.map Prod.snd) := by
  rw [keptPositions, h]
  rfl

theorem Query.keptPositions_of_answers (h : test query = .ok keeps)
    (hanswers : ∀ texture ∈ textures, ∃ found, keeps texture = .ok found) :
    keptPositions textures query =
      .ok (positionsOf (fun texture => keeps texture = .ok true) textures) := by
  rw [keptPositions_of_test_eq h]
  obtain ⟨-, hkept⟩ | ⟨pair, hpair, fault, hfault, -⟩ :=
    filterM_cases (fun (pair : Texture × Nat) => keeps pair.1) textures.zipIdx
  · rw [hkept]
    rfl
  · obtain ⟨found, hfound⟩ := hanswers pair.1 (List.fst_mem_of_mem_zipIdx hpair)
    exact absurd (hfound.symm.trans hfault) (by simp)

theorem Query.keptPositions_of_fault (h : test query = .ok keeps) {texture : Texture}
    (htexture : texture ∈ textures) (hfault : keeps texture = .error fault) :
    keptPositions textures query = .error .dimensionTooLong := by
  obtain ⟨position, hposition⟩ := List.mem_iff_getElem?.1 htexture
  have hpair : (texture, position) ∈ textures.zipIdx :=
    List.mk_mem_zipIdx_iff_getElem?.2 hposition
  rw [keptPositions_of_test_eq h]
  obtain ⟨hanswers, -⟩ | ⟨pair, -, reason, hreason, hfails⟩ :=
    filterM_cases (fun (pair : Texture × Nat) => keeps pair.1) textures.zipIdx
  · obtain ⟨found, hfound⟩ := hanswers _ hpair
    exact absurd (hfound.symm.trans hfault) (by simp)
  · obtain rfl := (test_failsByDimension h pair.1 reason hreason).1
    rw [hfails]
    rfl

/-- The texture passes the test of a query and the filter. -/
def passesBoth (keeps : Texture → Except Query.Fault Bool) (filter : Filter) (texture : Texture) :
    Bool :=
  decide (keeps texture = .ok true) && filter.passes texture

/-- A search is one filtering, by the test of the query and the filter together. -/
theorem search_eq (textures : List Texture) (query : String) (filter : Filter) :
    search textures query filter = (Query.test query).bind fun keeps =>
      textures.filterM fun texture => (keeps texture).map (· && filter.passes texture) := by
  simp only [search, Query.filter, filterM_map_and]
  cases Query.test query <;> rfl

theorem search_of_answers (h : Query.test query = .ok keeps)
    (hanswers : ∀ texture ∈ textures, ∃ found, keeps texture = .ok found) (filter : Filter) :
    search textures query filter = .ok (textures.filter (passesBoth keeps filter)) := by
  obtain ⟨-, hkept⟩ | ⟨texture, htexture, hfault, -⟩ := Query.filter_cases h textures
  · rw [search, hkept]
    exact congrArg Except.ok (List.filter_filter.trans (List.filter_congr fun texture _ =>
      Bool.and_comm _ _))
  · obtain ⟨found, hfound⟩ := hanswers texture htexture
    exact absurd (hfound.symm.trans hfault) (by simp)

theorem searchPositions_of_answers (h : Query.test query = .ok keeps)
    (hanswers : ∀ texture ∈ textures, ∃ found, keeps texture = .ok found) (filter : Filter) :
    searchPositions textures query filter =
      .ok (positionsOf (passesBoth keeps filter) textures) := by
  rw [searchPositions, Query.keptPositions_of_answers h hanswers]
  exact congrArg Except.ok (filter_positionsOf _ _ _)

theorem fails_of_fault (h : Query.test query = .ok keeps) {texture : Texture}
    (htexture : texture ∈ textures) (hfault : keeps texture = .error fault) (filter : Filter) :
    search textures query filter = .error .dimensionTooLong ∧
      searchPositions textures query filter = .error .dimensionTooLong := by
  refine ⟨?_, ?_⟩
  · obtain ⟨hanswers, -⟩ | ⟨_, _, _, _, hfails⟩ := Query.filter_cases h textures
    · obtain ⟨found, hfound⟩ := hanswers texture htexture
      exact absurd (hfound.symm.trans hfault) (by simp)
    · rw [search, hfails]
      rfl
  · rw [searchPositions, Query.keptPositions_of_fault h htexture hfault]
    rfl

theorem fails_of_test_error (h : Query.test query = .error fault) (textures : List Texture)
    (filter : Filter) :
    search textures query filter = .error fault ∧
      searchPositions textures query filter = .error fault := by
  constructor
  · rw [search, Query.filter_of_test_error h]
    rfl
  · rw [searchPositions, Query.keptPositions, h]
    rfl

/-- The query can be read and has an answer for every texture, or the search fails, whether for
textures or for positions. -/
theorem answers_or_fails (textures : List Texture) (query : String) (filter : Filter) :
    (∃ keeps, Query.test query = .ok keeps ∧
        ∀ texture ∈ textures, ∃ found, keeps texture = .ok found) ∨
      ∃ fault, search textures query filter = .error fault ∧
        searchPositions textures query filter = .error fault := by
  obtain ⟨keeps, h, -⟩ | ⟨h, -⟩ := Query.test_cases query
  · obtain hanswers | ⟨texture, htexture, hfault, -⟩ := Query.answers_or_fault h textures
    · exact .inl ⟨keeps, h, hanswers⟩
    · exact .inr ⟨_, fails_of_fault h htexture hfault filter⟩
  · exact .inr ⟨_, fails_of_test_error h textures filter⟩

/-- Filtering keeps what stands at the positions that are kept. -/
theorem Query.filter_eq_map_keptPositions (textures : List Texture) (query : String) :
    Query.filter textures query =
      (keptPositions textures query).map fun positions => positions.filterMap (textures[·]?) := by
  obtain ⟨keeps, h, -⟩ | ⟨h, -⟩ := test_cases query
  · obtain ⟨hanswers, hkept⟩ | ⟨texture, htexture, hfault, -, hfails⟩ := filter_cases h textures
    · rw [hkept, keptPositions_of_answers h hanswers, Except.map, filterMap_positionsOf]
    · rw [hfails, keptPositions_of_fault h htexture hfault]
      rfl
  · rw [filter_of_test_error h, keptPositions, h]
    rfl

/-- What a search keeps stands at its positions. -/
theorem search_eq_map_searchPositions (textures : List Texture) (query : String)
    (filter : Filter) :
    search textures query filter = (searchPositions textures query filter).map fun positions =>
      positions.filterMap (textures[·]?) := by
  obtain ⟨keeps, h, hanswers⟩ | ⟨fault, hsearch, hpositions⟩ :=
    answers_or_fails textures query filter
  · rw [search_of_answers h hanswers, searchPositions_of_answers h hanswers, Except.map,
      filterMap_positionsOf]
  · rw [hsearch, hpositions]
    rfl

/-- A search of two lists is a search of each. -/
theorem searchPositions_append (textures others : List Texture) (query : String)
    (filter : Filter) :
    searchPositions (textures ++ others) query filter = do
      let positions ← searchPositions textures query filter
      let positionsOthers ← searchPositions others query filter
      return positions ++ positionsOthers.map (· + textures.length) := by
  obtain ⟨keeps, h, -⟩ | ⟨h, -⟩ := Query.test_cases query
  · obtain hanswers | ⟨texture, htexture, hfault, -⟩ := Query.answers_or_fault h textures
    · rw [searchPositions_of_answers h hanswers]
      obtain hothers | ⟨texture, htexture, hfault, -⟩ := Query.answers_or_fault h others
      · rw [searchPositions_of_answers h hothers,
          searchPositions_of_answers h (List.forall_mem_append.2 ⟨hanswers, hothers⟩),
          positionsOf_append]
        rfl
      · rw [(fails_of_fault h htexture hfault filter).2,
          (fails_of_fault h (List.mem_append_right _ htexture) hfault filter).2]
        rfl
    · rw [(fails_of_fault h htexture hfault filter).2,
        (fails_of_fault h (List.mem_append_left _ htexture) hfault filter).2]
      rfl
  · rw [(fails_of_test_error h _ filter).2, (fails_of_test_error h _ filter).2]
    rfl

theorem search_append (textures others : List Texture) (query : String) (filter : Filter) :
    search (textures ++ others) query filter = do
      let kept ← search textures query filter
      let keptOthers ← search others query filter
      return kept ++ keptOthers := by
  simp only [search_eq]
  cases Query.test query with
  | error fault => rfl
  | ok keeps => exact filterM_append textures others

/-- A single texture is found if it passes the test of the query. -/
theorem exists_filter_singleton_iff (h : Query.test query = .ok keeps) (texture : Texture) :
    (∃ found, Query.filter [texture] query = .ok found ∧ found ≠ []) ↔
      keeps texture = .ok true := by
  rw [Query.filter_singleton_of_test h]
  cases keeps texture with
  | error fault => simp [Except.map]
  | ok found => cases found <;> simp [Except.map]

/-- The filter may be applied first.  Only then it can spare the search a texture with a dimension
that is not written. -/
theorem search_eq_filter_or_spared (textures : List Texture) (query : String) (filter : Filter) :
    search textures query filter = Query.filter (textures.filter filter.passes) query ∨
      (search textures query filter = .error .dimensionTooLong ∧
        ∃ texture ∈ textures, filter.passes texture = false ∧ ¬ texture.HasNumerals) := by
  obtain ⟨keeps, h, -⟩ | ⟨h, -⟩ := Query.test_cases query
  · obtain hanswers | ⟨texture, htexture, hfault, hnumerals⟩ := Query.answers_or_fault h textures
    · obtain ⟨-, hkept⟩ | ⟨texture, htexture, hfault, -⟩ :=
        Query.filter_cases h (textures.filter filter.passes)
      · refine .inl ?_
        rw [search_of_answers h hanswers, hkept, List.filter_filter]
        rfl
      · obtain ⟨found, hfound⟩ := hanswers texture (List.mem_filter.1 htexture).1
        exact absurd (hfound.symm.trans hfault) (by simp)
    · rw [(fails_of_fault h htexture hfault filter).1]
      cases hpasses : filter.passes texture with
      | false => exact .inr ⟨rfl, texture, htexture, hpasses, hnumerals⟩
      | true =>
          refine .inl ?_
          obtain ⟨hothers, -⟩ | ⟨_, _, _, _, hfails⟩ :=
            Query.filter_cases h (textures.filter filter.passes)
          · obtain ⟨found, hfound⟩ := hothers texture (List.mem_filter.2 ⟨htexture, hpasses⟩)
            exact absurd (hfound.symm.trans hfault) (by simp)
          · exact hfails.symm
  · refine .inl ?_
    rw [(fails_of_test_error h _ filter).1, Query.filter_of_test_error h]

/-- Searching again what a search kept changes nothing. -/
theorem search_again {textures kept : List Texture} {query : String} {filter : Filter}
    (hkept : search textures query filter = .ok kept) : search kept query filter = .ok kept := by
  obtain ⟨keeps, h, hanswers⟩ | ⟨fault, hfails, -⟩ := answers_or_fails textures query filter
  · rw [search_of_answers h hanswers] at hkept
    obtain rfl := Except.ok.inj hkept
    rw [search_of_answers h fun texture htexture =>
      hanswers texture (List.mem_filter.1 htexture).1]
    simp [List.filter_filter]
  · rw [hfails] at hkept
    cases hkept

/-- The positions of a search are in order, and they are those of the textures that are found by the
query in a search for them alone and pass the filter. -/
theorem searchPositions_spec {positions : List Nat} {filter : Filter}
    (hpositions : searchPositions textures query filter = .ok positions) :
    positions.Pairwise (· < ·) ∧
      ∀ position, position ∈ positions ↔ ∃ texture, textures[position]? = some texture ∧
        (∃ found, Query.filter [texture] query = .ok found ∧ found ≠ []) ∧
          filter.passes texture = true := by
  obtain ⟨keeps, h, hanswers⟩ | ⟨fault, -, hfails⟩ := answers_or_fails textures query filter
  · rw [searchPositions_of_answers h hanswers] at hpositions
    obtain rfl := Except.ok.inj hpositions
    refine ⟨pairwise_positionsOf _ textures, fun position => ?_⟩
    simp only [mem_positionsOf_iff, exists_filter_singleton_iff h, passesBoth, Bool.and_eq_true,
      decide_eq_true_iff]
  · rw [hfails] at hpositions
    cases hpositions

theorem exists_searchPositions_eq_ok (h : Query.Readable query)
    (hnumerals : ∀ texture ∈ textures, texture.HasNumerals) (filter : Filter) :
    ∃ positions, searchPositions textures query filter = .ok positions := by
  have htest := Query.test_of_readable h
  obtain hanswers | ⟨texture, htexture, -, hnone⟩ := Query.answers_or_fault htest textures
  · exact ⟨_, searchPositions_of_answers htest hanswers filter⟩
  · exact absurd (hnumerals texture htexture) hnone

end Searching

end TextureCatalog
