import Mathlib.Data.List.TakeWhile
import TextureCatalog.Proofs.Query.Shape
import TextureCatalog.Proofs.Text.Pieces
import TextureCatalog.Query.Matching

/-!
# Reading query texts

The terms of a query text are its trimmed pieces.  A query is read term by term, so it is refused
exactly when one of its terms has the shape of a comparison with too many digits, and a blank query
is not different from one without terms.
-/

namespace TextureCatalog.Query

/-- What separates the terms of a query text. -/
def separatorOf (query : String) : Char :=
  if '|' ∈ query.toList then '|' else ','

/-- A term of a query text: a piece of it without the white space around it, unless nothing is
left. -/
def IsTermOf (query term : String) : Prop :=
  term ≠ "" ∧
    ∃ piece, Text.IsPiece (separatorOf query) query.toList piece ∧
      term = String.ofList (Text.trim piece)

theorem separator_mode_ofText (query : String) :
    (Mode.ofText query.toList).separator = separatorOf query := by
  unfold Mode.ofText separatorOf
  split <;> rfl

/-- The terms that a query is split into are the terms of its text. -/
theorem mem_splitTerms_iff {query term : String} :
    term ∈ (splitTerms query).2 ↔ IsTermOf query term := by
  simp only [splitTerms, separator_mode_ofText, List.mem_map, List.mem_filter]
  constructor
  · rintro ⟨trimmed, ⟨⟨piece, hpiece, rfl⟩, hne⟩, rfl⟩
    refine ⟨?_, piece, Text.mem_cutAt_iff.1 hpiece, rfl⟩
    intro hempty
    rw [String.ofList_eq_empty_iff] at hempty
    simp [hempty] at hne
  · rintro ⟨hne, piece, hpiece, rfl⟩
    refine ⟨Text.trim piece, ⟨⟨piece, Text.mem_cutAt_iff.2 hpiece, rfl⟩, ?_⟩, rfl⟩
    simpa using hne

/-! ## Blank queries -/

theorem trim_of_allBlank {text : List Char} (h : Text.allBlank text = true) :
    Text.trim text = [] := by
  have hdrop : text.dropWhile Text.isBlank = [] :=
    List.dropWhile_eq_nil_iff.2 (List.all_eq_true.1 h)
  simp [Text.trim, Text.trimEnd, hdrop]

/-- A blank query has no terms, because no separator is blank. -/
theorem splitTerms_of_isBlankText {query : String} (h : Text.isBlankText query = true) :
    (splitTerms query).2 = [] := by
  have hnotMem : ∀ separator : Char, Text.isBlank separator = false →
      separator ∉ query.toList := by
    intro separator hseparator hmem
    have hblank := List.all_eq_true.1 h separator hmem
    rw [hseparator] at hblank
    exact absurd hblank (by decide)
  have hbar : '|' ∉ query.toList := hnotMem '|' (by decide)
  have hcomma : ',' ∉ query.toList := hnotMem ',' (by decide)
  simp [splitTerms, Mode.ofText, hbar, Mode.separator, Text.cutAt_of_not_mem hcomma,
    trim_of_allBlank h]

/-! ## Terms -/

namespace Term

/-- Whether a written term begins with the mark that negates it. -/
def isNegated (term : String) : Bool :=
  term.toList.head? == some '!'

/-- A written term without the mark that negates it. -/
def body (term : String) : String :=
  if isNegated term then String.ofList term.toList.tail else term

theorem body_eq_self {term : String} (h : isNegated term = false) : body term = term := by
  simp [body, h]

/-- A written term has the shape of a comparison with more digits than are ever read. -/
def Overlong (term : String) : Prop :=
  Comparison.Overlong (body term)

/-- What a written term says, where a comparison that is not read counts as a text. -/
def ofText (term : String) : Term :=
  { text := body term
    negated := isNegated term
    comparison := (Comparison.parse (body term)).toOption.join }

theorem parse_eq_map (term : String) :
    Term.parse term = (Comparison.parse (body term)).map fun comparison =>
      ⟨body term, isNegated term, comparison⟩ := by
  unfold Term.parse body isNegated
  cases hchars : term.toList with
  | nil => rfl
  | cons c rest =>
      by_cases hc : c = '!'
      · subst hc
        rfl
      · have hother : (c == '!') = false := beq_false_of_ne hc
        simp [hc, hother]

theorem parse_of_not_overlong {term : String} (h : ¬ Overlong term) :
    Term.parse term = .ok (ofText term) := by
  rw [parse_eq_map, ofText]
  cases hparse : Comparison.parse (body term) with
  | ok comparison => rfl
  | error fault =>
      obtain rfl := Comparison.eq_numeralTooLong_of_parse hparse
      exact absurd (Comparison.parse_eq_error_iff.1 hparse) h

theorem parse_of_overlong {term : String} (h : Overlong term) :
    Term.parse term = .error .numeralTooLong := by
  rw [parse_eq_map, Comparison.parse_eq_error_iff.2 h]
  rfl

/-- What changes the reading of every term in one way changes the reading of them all in this
way. -/
theorem mapM_parse_map {change : String → String} {follow : Term → Term} {terms : List String}
    (h : ∀ term ∈ terms, Term.parse (change term) = (Term.parse term).map follow) :
    (terms.map change).mapM Term.parse = (terms.mapM Term.parse).map (List.map follow) := by
  induction terms with
  | nil => rfl
  | cons first terms ih =>
      have hothers := ih fun term hterm => h term (List.mem_cons_of_mem _ hterm)
      rw [List.map_cons, List.mapM_cons, List.mapM_cons, hothers, h first List.mem_cons_self]
      cases Term.parse first with
      | error fault => rfl
      | ok parsed => cases terms.mapM Term.parse <;> rfl

end Term

theorem matchesTerm_of_not_overlong {term : String} (h : ¬ Term.Overlong term)
    (texture : Texture) :
    matchesTerm texture term = (Term.ofText term).matchesTexture texture := by
  rw [matchesTerm, Term.parse_of_not_overlong h]
  rfl

/-! ## Queries -/

/-- No term of a query text has the shape of a comparison with more digits than are ever read. -/
def Readable (query : String) : Prop :=
  ∀ term, IsTermOf query term → ¬ Term.Overlong term

/-- The query that a text stands for, where comparisons that are not read count as texts. -/
def ofText (query : String) : Query :=
  ⟨(splitTerms query).1, (splitTerms query).2.map Term.ofText⟩

/-- The test of a query is made from all its terms; a blank query needs no rule of its own. -/
theorem test_eq_map_mapM (query : String) :
    test query = ((splitTerms query).2.mapM Term.parse).map fun terms texture =>
      matchesTexture ⟨(splitTerms query).1, terms⟩ texture := by
  by_cases hblank : Text.isBlankText query = true
  · simp only [test, parse, hblank, if_true, splitTerms_of_isBlankText hblank]
    rfl
  · simp only [test, parse, hblank]
    cases (splitTerms query).2.mapM Term.parse <;> rfl

theorem mapM_parse_of_not_overlong {terms : List String}
    (h : ∀ term ∈ terms, ¬ Term.Overlong term) :
    terms.mapM Term.parse = .ok (terms.map Term.ofText) := by
  induction terms with
  | nil => rfl
  | cons term terms ih =>
      have hfirst := Term.parse_of_not_overlong (h term (by simp))
      have hothers := ih fun other hother => h other (by simp [hother])
      rw [List.mapM_cons, hfirst, hothers]
      rfl

theorem test_of_readable {query : String} (h : Readable query) :
    test query = .ok fun texture => (ofText query).matchesTexture texture := by
  have hshort : ∀ term ∈ (splitTerms query).2, ¬ Term.Overlong term := fun term hterm =>
    h term (mem_splitTerms_iff.1 hterm)
  rw [test_eq_map_mapM, mapM_parse_of_not_overlong hshort]
  rfl

theorem mapM_parse_of_overlong {terms : List String} (h : ∃ term ∈ terms, Term.Overlong term) :
    terms.mapM Term.parse = .error .numeralTooLong := by
  induction terms with
  | nil =>
      obtain ⟨_, hmem, -⟩ := h
      exact absurd hmem List.not_mem_nil
  | cons term terms ih =>
      rw [List.mapM_cons]
      by_cases hfirst : Term.Overlong term
      · rw [Term.parse_of_overlong hfirst]
        rfl
      · obtain ⟨other, hmem, hother⟩ := h
        rcases List.mem_cons.1 hmem with rfl | hrest
        · exact absurd hother hfirst
        · rw [Term.parse_of_not_overlong hfirst, ih ⟨other, hrest, hother⟩]
          rfl

/-- A query is refused exactly when one of its terms has too many digits. -/
theorem test_eq_error_iff {query : String} :
    test query = .error .numeralTooLong ↔ ¬ Readable query := by
  constructor
  · intro h hreadable
    rw [test_of_readable hreadable] at h
    exact absurd h (by simp)
  · intro h
    simp only [Readable, Classical.not_forall, Classical.not_not] at h
    obtain ⟨term, hterm, hlong⟩ := h
    rw [test_eq_map_mapM, mapM_parse_of_overlong ⟨term, mem_splitTerms_iff.2 hterm, hlong⟩]
    rfl

end TextureCatalog.Query
