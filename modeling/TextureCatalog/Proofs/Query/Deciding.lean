import TextureCatalog.Filter
import TextureCatalog.Proofs.Query.Reading

/-!
# Tests that can fail

Texts, terms and textures are tested one after the other until one of them decides.  If there is an
answer, it is the one that a test of all of them would give.  There is none if something that is
looked at cannot be tested, and that can only be a dimension with more digits than are ever written.
-/

namespace TextureCatalog

/-! ## Tests of lists -/

section Lists

variable {α ε : Type} {test : α → Except ε Bool} {items : List α} {fault : ε} {found : Bool}

/-- The items of a list that are looked at, if the tests go on only after one answer. -/
inductive LookedAt (test : α → Except ε Bool) (goesOn : Bool) : List α → α → Prop
  | first (item : α) (items : List α) : LookedAt test goesOn (item :: items) item
  | later {first item : α} {items : List α} : test first = .ok goesOn →
      LookedAt test goesOn items item → LookedAt test goesOn (first :: items) item

theorem forall_lookedAt_cons_iff {goesOn : Bool} {first : α} {property : α → Prop} :
    (∀ item, LookedAt test goesOn (first :: items) item → property item) ↔
      property first ∧
        (test first = .ok goesOn → ∀ item, LookedAt test goesOn items item → property item) := by
  constructor
  · exact fun h => ⟨h _ (.first _ _), fun hfirst item hitem => h _ (.later hfirst hitem)⟩
  · rintro ⟨hfirst, hothers⟩ item hitem
    cases hitem with
    | first => exact hfirst
    | later hgoesOn hitem => exact hothers hgoesOn item hitem

theorem LookedAt.imp {other : α → Except ε Bool} {goesOn goesOnOther : Bool} {item : α}
    (himp : ∀ item, test item = .ok goesOn → other item = .ok goesOnOther)
    (h : LookedAt test goesOn items item) : LookedAt other goesOnOther items item := by
  induction h with
  | first item items => exact .first item items
  | later hfirst _ ih => exact .later (himp _ hfirst) ih

/-! ### Any -/

/-- There is an answer if there is one for every item that is looked at. -/
theorem exists_anyM_eq_ok_iff :
    (∃ found, items.anyM test = .ok found) ↔
      ∀ item, LookedAt test false items item → ∃ found, test item = .ok found := by
  induction items with
  | nil => exact iff_of_true ⟨false, rfl⟩ fun _ hitem => nomatch hitem
  | cons first items ih =>
      rw [forall_lookedAt_cons_iff, ← ih, List.anyM_cons]
      cases test first with
      | error fault => simp [bind, Except.bind]
      | ok found => cases found <;> simp [bind, Except.bind, pure, Except.pure]

theorem eq_true_iff_of_anyM (h : items.anyM test = .ok found) :
    found = true ↔ ∃ item ∈ items, test item = .ok true := by
  induction items with
  | nil =>
      cases h
      simp
  | cons first items ih =>
      rw [List.anyM_cons] at h
      cases hfirst : test first with
      | error fault => simp [hfirst, bind, Except.bind] at h
      | ok answer => cases answer <;> simp_all [bind, Except.bind, pure, Except.pure]

theorem exists_of_anyM_eq_error (h : items.anyM test = .error fault) :
    ∃ item ∈ items, test item = .error fault := by
  induction items with
  | nil => cases h
  | cons first items ih =>
      rw [List.anyM_cons] at h
      cases hfirst : test first with
      | error fault => simp_all [bind, Except.bind]
      | ok answer => cases answer <;> simp_all [bind, Except.bind, pure, Except.pure]

theorem anyM_congr {other : α → Except ε Bool} (h : ∀ item ∈ items, test item = other item) :
    items.anyM test = items.anyM other := by
  induction items with
  | nil => rfl
  | cons first items ih =>
      obtain ⟨hfirst, hothers⟩ := List.forall_mem_cons.1 h
      rw [List.anyM_cons, List.anyM_cons, hfirst, ih hothers]

theorem anyM_map {β : Type} (change : β → α) (origins : List β) :
    (origins.map change).anyM test = origins.anyM fun origin => test (change origin) := by
  induction origins with
  | nil => rfl
  | cons first origins ih => rw [List.map_cons, List.anyM_cons, List.anyM_cons, ih]

theorem anyM_append (items others : List α) :
    (items ++ others).anyM test =
      (items.anyM test).bind fun found => if found then .ok true else others.anyM test := by
  induction items with
  | nil => rfl
  | cons first items ih =>
      rw [List.cons_append, List.anyM_cons, List.anyM_cons, ih]
      cases test first with
      | error fault => rfl
      | ok answer => cases answer <;> rfl

/-! ### All

Not all items pass a test if any of them passes the opposite one. -/

theorem map_not_eq_ok_iff {outcome : Except ε Bool} :
    outcome.map (!·) = .ok found ↔ outcome = .ok (!found) := by
  cases outcome with
  | error fault => simp [Except.map]
  | ok answer => cases answer <;> cases found <;> simp [Except.map]

theorem map_not_eq_error_iff {outcome : Except ε Bool} :
    outcome.map (!·) = .error fault ↔ outcome = .error fault := by
  cases outcome <;> simp [Except.map]

theorem map_not_map_not (outcome : Except ε Bool) : (outcome.map (!·)).map (!·) = outcome := by
  cases outcome with
  | error fault => rfl
  | ok found => exact congrArg Except.ok (Bool.not_not found)

theorem allM_eq_map_anyM (test : α → Except ε Bool) (items : List α) :
    items.allM test = (items.anyM fun item => (test item).map (!·)).map (!·) :=
  List.allM_eq_not_anyM_not

theorem exists_allM_eq_ok_iff :
    (∃ found, items.allM test = .ok found) ↔
      ∀ item, LookedAt test true items item → ∃ found, test item = .ok found := by
  have hnot {outcome : Except ε Bool} :
      (∃ found, outcome.map (!·) = .ok found) ↔ ∃ found, outcome = .ok found := by
    cases outcome <;> simp [Except.map]
  rw [allM_eq_map_anyM, hnot, exists_anyM_eq_ok_iff]
  refine forall_congr' fun item => imp_congr ⟨?_, ?_⟩ hnot
  · exact .imp fun item h => map_not_eq_ok_iff.1 h
  · exact .imp fun item h => map_not_eq_ok_iff.2 h

theorem eq_true_iff_of_allM (h : items.allM test = .ok found) :
    found = true ↔ ∀ item ∈ items, test item = .ok true := by
  induction items with
  | nil =>
      cases h
      simp
  | cons first items ih =>
      rw [List.allM_cons] at h
      cases hfirst : test first with
      | error fault => simp [hfirst, bind, Except.bind] at h
      | ok answer => cases answer <;> simp_all [bind, Except.bind, pure, Except.pure]

theorem exists_of_allM_eq_error (h : items.allM test = .error fault) :
    ∃ item ∈ items, test item = .error fault := by
  rw [allM_eq_map_anyM, map_not_eq_error_iff] at h
  obtain ⟨item, hitem, hfault⟩ := exists_of_anyM_eq_error h
  exact ⟨item, hitem, map_not_eq_error_iff.1 hfault⟩

theorem allM_congr {other : α → Except ε Bool} (h : ∀ item ∈ items, test item = other item) :
    items.allM test = items.allM other := by
  rw [allM_eq_map_anyM, allM_eq_map_anyM other,
    anyM_congr fun item hitem => congrArg (Except.map (!·)) (h item hitem)]

theorem allM_map {β : Type} (change : β → α) (origins : List β) :
    (origins.map change).allM test = origins.allM fun origin => test (change origin) := by
  rw [allM_eq_map_anyM, anyM_map, allM_eq_map_anyM]

theorem allM_append (items others : List α) :
    (items ++ others).allM test =
      (items.allM test).bind fun found => if found then others.allM test else .ok false := by
  simp only [allM_eq_map_anyM, anyM_append]
  cases items.anyM fun item => (test item).map (!·) with
  | error fault => rfl
  | ok answer => cases answer <;> rfl

/-! ### Filtering -/

theorem filterAuxM_eq (items before : List α) :
    List.filterAuxM test items before = (items.filterM test).map (·.reverse ++ before) := by
  induction items generalizing before with
  | nil => rfl
  | cons first items ih =>
      rw [List.filterM, List.filterAuxM, List.filterAuxM]
      cases test first with
      | error fault => rfl
      | ok answer =>
          simp only [bind, Except.bind]
          rw [ih, ih]
          cases answer <;> cases items.filterM test <;> simp [Except.map, pure, Except.pure]

theorem filterM_cons (first : α) (items : List α) :
    (first :: items).filterM test = do
      let answer ← test first
      let kept ← items.filterM test
      return if answer then first :: kept else kept := by
  rw [List.filterM, List.filterAuxM]
  cases test first with
  | error fault => rfl
  | ok answer =>
      simp only [bind, Except.bind]
      rw [filterAuxM_eq]
      cases answer <;> cases items.filterM test <;> simp [Except.map, pure, Except.pure]

theorem filterM_append (items others : List α) :
    (items ++ others).filterM test = do
      let kept ← items.filterM test
      let keptOthers ← others.filterM test
      return kept ++ keptOthers := by
  induction items with
  | nil => exact (bind_pure (others.filterM test)).symm
  | cons first items ih =>
      rw [List.cons_append, filterM_cons, filterM_cons, ih]
      cases test first with
      | error fault => rfl
      | ok answer =>
          cases items.filterM test with
          | error fault => rfl
          | ok kept => cases others.filterM test <;> cases answer <;> rfl

/-- Filtering once more, by a test that cannot fail, is one filtering. -/
theorem filterM_map_and (passes : α → Bool) (items : List α) :
    (items.filterM fun item => (test item).map (· && passes item)) =
      (items.filterM test).map (·.filter passes) := by
  induction items with
  | nil => rfl
  | cons first items ih =>
      rw [filterM_cons, filterM_cons, ih]
      cases test first with
      | error fault => rfl
      | ok answer =>
          cases items.filterM test <;> cases answer <;> cases hpasses : passes first <;>
            simp [Except.map, bind, Except.bind, pure, Except.pure, hpasses]

/-- Filtering keeps what passes the test, or it fails as the test does for one of the items. -/
theorem filterM_cases [DecidableEq ε] (test : α → Except ε Bool) (items : List α) :
    ((∀ item ∈ items, ∃ found, test item = .ok found) ∧
        items.filterM test = .ok (items.filter fun item => test item = .ok true)) ∨
      ∃ item ∈ items, ∃ fault, test item = .error fault ∧ items.filterM test = .error fault := by
  induction items with
  | nil => exact .inl ⟨List.forall_mem_nil _, rfl⟩
  | cons first items ih =>
      rw [filterM_cons, List.filter_cons]
      cases hfirst : test first with
      | error fault => exact .inr ⟨first, List.mem_cons_self, fault, hfirst, rfl⟩
      | ok answer =>
          obtain ⟨hanswers, hkept⟩ | ⟨item, hitem, fault, hfault, hfails⟩ := ih
          · refine .inl ⟨List.forall_mem_cons.2 ⟨⟨answer, hfirst⟩, hanswers⟩, ?_⟩
            rw [hkept]
            cases answer <;> rfl
          · refine .inr ⟨item, List.mem_cons_of_mem _ hitem, fault, hfault, ?_⟩
            rw [hfails]
            rfl

theorem exists_of_filterM_eq_error (h : items.filterM test = .error fault) :
    ∃ item ∈ items, test item = .error fault := by
  induction items with
  | nil => cases h
  | cons first items ih =>
      rw [filterM_cons] at h
      cases hfirst : test first with
      | error reason =>
          rw [hfirst] at h
          exact ⟨first, List.mem_cons_self, hfirst.trans (congrArg _ (Except.error.inj h))⟩
      | ok answer =>
          cases hothers : items.filterM test with
          | error reason =>
              rw [hfirst, hothers] at h
              obtain ⟨item, hitem, hfault⟩ := ih (hothers.trans (congrArg _ (Except.error.inj h)))
              exact ⟨item, List.mem_cons_of_mem _ hitem, hfault⟩
          | ok kept =>
              rw [hfirst, hothers] at h
              cases h

/-- Whether an item passes both tests; the second one is only done if it passes the first. -/
def both (first second : α → Except ε Bool) (item : α) : Except ε Bool :=
  (first item).bind fun found => if found then second item else .ok false

/-- Whether an item passes one of the tests; the second one is only done if it does not pass the
first. -/
def either (first second : α → Except ε Bool) (item : α) : Except ε Bool :=
  (first item).bind fun found => if found then .ok true else second item

/-- Filtering by both tests is filtering twice, if all that fails fails in the same way. -/
theorem filterM_both {first second : α → Except ε Bool}
    (hfirst : ∀ item reason, first item = .error reason → reason = fault)
    (hsecond : ∀ item reason, second item = .error reason → reason = fault) (items : List α) :
    items.filterM (both first second) = (items.filterM first).bind (·.filterM second) := by
  induction items with
  | nil => rfl
  | cons item items ih =>
      rw [filterM_cons, filterM_cons, ih, both]
      cases hitem : first item with
      | error reason => rfl
      | ok answer =>
          cases hothers : items.filterM first with
          | error reason =>
              obtain ⟨other, -, hother⟩ := exists_of_filterM_eq_error hothers
              obtain rfl := hfirst other reason hother
              cases answer with
              | false => rfl
              | true =>
                  cases hagain : second item with
                  | ok answer => rfl
                  | error reason =>
                      obtain rfl := hsecond item reason hagain
                      rfl
          | ok kept =>
              cases answer with
              | false =>
                  cases hkept : kept.filterM second <;>
                    simp [Except.bind, bind, pure, Except.pure, hkept]
              | true => simp [Except.bind, bind, pure, Except.pure, filterM_cons]

end Lists

/-! ## Texts of textures -/

/-- Both dimensions of a texture have numerals that can be written. -/
structure Texture.HasNumerals (texture : Texture) : Prop where
  width : Text.isWritable texture.width = true
  height : Text.isWritable texture.height = true

instance (texture : Texture) : Decidable texture.HasNumerals :=
  decidable_of_iff (Text.isWritable texture.width = true ∧ Text.isWritable texture.height = true)
    ⟨fun ⟨hwidth, hheight⟩ => ⟨hwidth, hheight⟩, fun h => ⟨h.width, h.height⟩⟩

namespace Texture

variable {texture : Texture} {text : String} {fault : Query.Fault}

/-- The texts that are looked through before the dimensions. -/
def names (texture : Texture) : List String :=
  [texture.name, texture.assetPath, texture.displayName, texture.propertyName,
   texture.pixelFormat]

/-- A text stands in one of these, in letters of either case. -/
def IsNamed (texture : Texture) (text : String) : Prop :=
  ∃ name ∈ texture.names, Text.occursIn (Text.lower text.toList) (Text.lower name.toList) = true

theorem sizeLabel_eq_none_iff : texture.sizeLabel = none ↔ ¬ texture.HasNumerals := by
  have hnumerals : texture.HasNumerals ↔
      Text.isWritable texture.width = true ∧ Text.isWritable texture.height = true :=
    ⟨fun h => ⟨h.width, h.height⟩, fun ⟨hwidth, hheight⟩ => ⟨hwidth, hheight⟩⟩
  rw [hnumerals, sizeLabel, Text.decimalText?, Text.decimalText?]
  split <;> split <;> simp_all

theorem none_mem_searchFields_iff : none ∈ texture.searchFields ↔ ¬ texture.HasNumerals := by
  refine ⟨fun hmem hnumerals => ?_, fun h => ?_⟩
  · have hsize : texture.sizeLabel ≠ none := fun hnone => sizeLabel_eq_none_iff.1 hnone hnumerals
    simp only [searchFields, Text.decimalText?, hnumerals.width, hnumerals.height, if_true,
      List.mem_cons, List.not_mem_nil, reduceCtorEq, hsize.symm, false_or, or_false] at hmem
    rcases hmem with hlabel | hlabel | hlabel <;> split at hlabel <;> cases hlabel
  · simp [searchFields, sizeLabel_eq_none_iff.2 h]

theorem eq_none_of_occursInField {field : Option String}
    (h : Query.occursInField text field = .error fault) :
    field = none ∧ fault = .dimensionTooLong := by
  cases field with
  | some field => cases h
  | none =>
      cases h
      exact ⟨rfl, rfl⟩

theorem fault_of_mentions (h : texture.mentions text = .error fault) :
    fault = .dimensionTooLong ∧ ¬ texture.HasNumerals := by
  obtain ⟨field, hfield, hfault⟩ := exists_of_anyM_eq_error h
  obtain ⟨rfl, rfl⟩ := eq_none_of_occursInField hfault
  exact ⟨rfl, none_mem_searchFields_iff.1 hfield⟩

theorem anyM_map_some (text : String) (fields : List String) :
    (fields.map some).anyM (Query.occursInField text) =
      .ok (fields.any fun field =>
        Text.occursIn (Text.lower text.toList) (Text.lower field.toList)) := by
  induction fields with
  | nil => rfl
  | cons field fields ih =>
      rw [List.map_cons, List.anyM_cons, ih, List.any_cons]
      cases hfound : Text.occursIn (Text.lower text.toList) (Text.lower field.toList) <;>
        simp [Query.occursInField, hfound, bind, Except.bind, pure, Except.pure]

/-- Without numerals, a text that is in none of the names cannot be looked for. -/
theorem exists_mentions_eq_ok_iff :
    (∃ found, texture.mentions text = .ok found) ↔ texture.HasNumerals ∨ texture.IsNamed text := by
  have hnames : texture.IsNamed text ↔ (texture.names.any fun name =>
      Text.occursIn (Text.lower text.toList) (Text.lower name.toList)) = true :=
    List.any_eq_true.symm
  have hfields : texture.searchFields =
      texture.names.map some ++ texture.searchFields.drop texture.names.length := rfl
  by_cases hnumerals : texture.HasNumerals
  · refine iff_of_true ?_ (.inl hnumerals)
    cases hmentions : texture.mentions text with
    | ok found => exact ⟨found, rfl⟩
    | error fault => exact absurd hnumerals (fault_of_mentions hmentions).2
  · rw [mentions, hfields, anyM_append, anyM_map_some, hnames]
    cases (texture.names.any fun name =>
        Text.occursIn (Text.lower text.toList) (Text.lower name.toList)) with
    | true => exact iff_of_true ⟨true, rfl⟩ (.inr rfl)
    | false =>
        have hnone : texture.searchFields.drop texture.names.length =
            none :: texture.searchFields.drop (texture.names.length + 1) := by
          rw [← sizeLabel_eq_none_iff.2 hnumerals]
          rfl
        rw [hnone, List.anyM_cons]
        simp [hnumerals, Query.occursInField, bind, Except.bind]

end Texture

/-! ## Terms and queries -/

namespace Query

variable {query : String} {texture : Texture} {fault : Fault}

/-- A test fails only by a dimension that cannot be written. -/
def FailsByDimension (texture : Texture) (outcome : Except Fault Bool) : Prop :=
  ∀ fault, outcome = .error fault → fault = .dimensionTooLong ∧ ¬ texture.HasNumerals

theorem Term.matchesTexture_failsByDimension (term : Term) (texture : Texture) :
    FailsByDimension texture (term.matchesTexture texture) := by
  intro fault h
  rw [matchesTexture] at h
  cases hcomparison : term.comparison with
  | some comparison => simp [hcomparison, Except.map] at h
  | none =>
      cases hmentions : texture.mentions term.text with
      | ok found => simp [hcomparison, hmentions, Except.map] at h
      | error reason =>
          obtain rfl : reason = fault := by simpa [hcomparison, hmentions, Except.map] using h
          exact Texture.fault_of_mentions hmentions

theorem matchesTexture_failsByDimension (query : Query) (texture : Texture) :
    FailsByDimension texture (query.matchesTexture texture) := by
  intro fault h
  rw [matchesTexture] at h
  split at h
  · cases h
  · split at h
    · obtain ⟨term, -, hfault⟩ := exists_of_allM_eq_error h
      exact term.matchesTexture_failsByDimension texture fault hfault
    · obtain ⟨term, -, hfault⟩ := exists_of_anyM_eq_error h
      exact term.matchesTexture_failsByDimension texture fault hfault

theorem test_failsByDimension {keeps : Texture → Except Fault Bool} (h : test query = .ok keeps)
    (texture : Texture) : FailsByDimension texture (keeps texture) := by
  rw [test] at h
  cases hparse : Query.parse query with
  | error fault => simp [hparse, Except.map] at h
  | ok parsed =>
      rw [hparse] at h
      obtain rfl := Except.ok.inj h
      cases parsed with
      | none => exact fun fault hfault => by cases hfault
      | some query => exact query.matchesTexture_failsByDimension texture

end Query

end TextureCatalog
