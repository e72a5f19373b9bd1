import TextureCatalog.Proofs.Query.Reading
import TextureCatalog.Proofs.Text.Trimming

/-!
# Terms between separators

The terms of a query text for a separator that is given: a text that is written from two texts and
a separator has the terms of both, and terms that are joined with a separator are found again.
-/

namespace TextureCatalog.Query

variable {separator : Char} {query term : String}

/-- The terms that stand between the occurrences of a separator. -/
def termsBetween (separator : Char) (text : List Char) : List String :=
  (((Text.cutAt separator text).map Text.trim).filter fun piece => !piece.isEmpty).map
    String.ofList

theorem splitTerms_snd (query : String) :
    (splitTerms query).2 = termsBetween (separatorOf query) query.toList := by
  rw [← separator_mode_ofText]
  rfl

theorem splitTerms_of_not_mem_bar (h : '|' ∉ query.toList) :
    (splitTerms query).2 = termsBetween ',' query.toList := by
  rw [splitTerms_snd, separatorOf, if_neg h]

theorem splitTerms_of_mem_bar (h : '|' ∈ query.toList) :
    (splitTerms query).2 = termsBetween '|' query.toList := by
  rw [splitTerms_snd, separatorOf, if_pos h]

/-- The terms of two texts with the separator between them are the terms of both. -/
theorem termsBetween_append_cons (separator : Char) (left right : List Char) :
    termsBetween separator (left ++ separator :: right) =
      termsBetween separator left ++ termsBetween separator right := by
  simp only [termsBetween, Text.cutAt_append_cons, List.map_append, List.filter_append]

/-- A text without the separator has one term at most. -/
theorem termsBetween_of_not_mem {text : List Char} (h : separator ∉ text) :
    termsBetween separator text =
      if (Text.trim text).isEmpty then [] else [String.ofList (Text.trim text)] := by
  rw [termsBetween, Text.cutAt_of_not_mem h, List.map_singleton, List.filter_singleton]
  cases (Text.trim text).isEmpty <;> rfl

/-- A text that can be a term where the separator separates terms. -/
structure FitsBetween (separator : Char) (term : String) : Prop where
  ne_empty : term ≠ ""
  trim_eq : Text.trim term.toList = term.toList
  separator_not_mem : separator ∉ term.toList

theorem FitsBetween.termsBetween_eq (h : FitsBetween separator term) :
    termsBetween separator term.toList = [term] := by
  have hne : term.toList.isEmpty = false := by
    simpa [List.isEmpty_eq_false_iff] using h.ne_empty
  rw [termsBetween_of_not_mem h.separator_not_mem, h.trim_eq, hne, String.ofList_toList]
  rfl

/-- Terms that are joined with the separator are found again. -/
theorem termsBetween_intercalate {terms : List String}
    (h : ∀ term ∈ terms, FitsBetween separator term) :
    termsBetween separator ([separator].intercalate (terms.map String.toList)) = terms := by
  induction terms with
  | nil => rfl
  | cons first terms ih =>
      have hfirst := (h first List.mem_cons_self).termsBetween_eq
      have hothers := ih fun term hterm => h term (List.mem_cons_of_mem _ hterm)
      cases terms with
      | nil => simpa using hfirst
      | cons next terms =>
          simp only [List.map_cons] at hothers ⊢
          rw [List.intercalate_cons_cons, List.append_assoc, List.singleton_append,
            termsBetween_append_cons, hfirst, hothers, List.singleton_append]

/-- A term that can be written beside others, whichever separator is between them. -/
structure IsSeparable (term : String) : Prop where
  ne_empty : term ≠ ""
  trimmed_eq : Text.trimmed term = term
  bar_not_mem : '|' ∉ term.toList
  comma_not_mem : ',' ∉ term.toList

namespace IsSeparable

theorem trim_eq (h : IsSeparable term) : Text.trim term.toList = term.toList := by
  rw [← Text.toList_trimmed, h.trimmed_eq]

theorem fitsBetween_bar (h : IsSeparable term) : FitsBetween '|' term :=
  ⟨h.ne_empty, h.trim_eq, h.bar_not_mem⟩

theorem fitsBetween_comma (h : IsSeparable term) : FitsBetween ',' term :=
  ⟨h.ne_empty, h.trim_eq, h.comma_not_mem⟩

/-- A query of one term has this term. -/
theorem splitTerms_eq (h : IsSeparable term) : (splitTerms term).2 = [term] := by
  rw [splitTerms_of_not_mem_bar h.bar_not_mem, h.fitsBetween_comma.termsBetween_eq]

end IsSeparable

end TextureCatalog.Query
