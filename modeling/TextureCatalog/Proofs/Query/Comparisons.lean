import TextureCatalog.Proofs.Query.ResolutionRange

/-!
# Which texts are comparisons

A text of the grammar states a comparison with the number of its digits, unless that is larger than
any number that is compared with.  The reader finds exactly the comparisons that are stated.  Most
texts that state none can be told by their marks, the characters that are no digits: the marks of a
comparison are a single sign, or an operator of two characters that stands in front of all digits.
-/

namespace TextureCatalog.Query.Comparison

variable {text digits : List Char} {operator : Operator} {comparison : Comparison}

/-- A text of the grammar with the operator of the comparison and digits of its value, which is not
too large. -/
def States (text : List Char) (comparison : Comparison) : Prop :=
  ∃ digits, Written text comparison.operator digits ∧
    Text.decimalValue digits ≤ maxValue ∧ comparison.value = Text.decimalValue digits

/-! ## Reading -/

/-- The digits of a comparison are a run of digits in its text. -/
theorem Written.digits_infix (h : Written text operator digits) : digits <:+: text := by
  cases h with
  | before => exact (List.suffix_append _ _).isInfix
  | greaterAfter | lessAfter => exact (List.prefix_append _ _).isInfix

theorem Written.isRun (h : Written text operator digits) : IsRun digits := by
  cases h with
  | before _ hdigits => exact hdigits
  | greaterAfter hdigits | lessAfter hdigits => exact hdigits

theorem not_overlong_of_runs {text : String}
    (h : ∀ run, run <:+: text.toList → (∀ c ∈ run, c.isDigit = true) →
      run.length ≤ Text.numeralLimit) : ¬ Overlong text := by
  rintro ⟨operator, digits, hwritten, hlong⟩
  exact Nat.not_le.2 hlong (h digits hwritten.digits_infix hwritten.isRun.2)

/-- The comparison that a text states is read. -/
theorem parse_of_states {text : String} (hlong : ¬ Overlong text)
    (h : States text.toList comparison) : parse text = .ok (some comparison) := by
  obtain ⟨digits, hwritten, hvalue, heq⟩ := h
  have hlength : digits.length ≤ Text.numeralLimit :=
    Nat.not_lt.1 fun hlt => hlong ⟨_, digits, hwritten, hlt⟩
  rw [parse_of_written hwritten hlength hvalue, ← heq]

/-- A comparison that is read has been stated. -/
theorem states_of_parse {text : String} (h : parse text = .ok (some comparison)) :
    States text.toList comparison := by
  unfold parse at h
  split at h
  · simp at h
  · next operator digits hshape =>
      split at h
      · simp at h
      · simp only [Except.ok.injEq, Option.ite_none_right_eq_some, Option.some.injEq] at h
        obtain ⟨hvalue, rfl⟩ := h
        exact ⟨digits, written_of_shape? hshape, hvalue, rfl⟩

theorem parse_eq_none_of_not_states {text : String} (hlong : ¬ Overlong text)
    (h : ∀ comparison, ¬ States text.toList comparison) : parse text = .ok none := by
  obtain ⟨found, hfound⟩ := (exists_parse_eq_ok_iff text).2 hlong
  cases found with
  | none => exact hfound
  | some comparison => exact absurd (states_of_parse hfound) (h comparison)

/-! ## Marks -/

/-- The characters of a text that are no digits. -/
def marks (text : List Char) : List Char :=
  text.filter fun c => !c.isDigit

theorem marks_append (left right : List Char) : marks (left ++ right) = marks left ++ marks right :=
  List.filter_append left right

theorem IsRun.marks_eq (h : IsRun digits) : marks digits = [] :=
  List.filter_eq_nil_iff.2 fun c hc => by simp [h.2 c hc]

theorem marks_symbol (h : operator ∈ prefixed) :
    marks operator.symbol.toList = operator.symbol.toList := by
  apply List.filter_eq_self.2
  intro c hc
  rcases mem_symbol_of_mem_prefixed h hc with rfl | rfl | rfl <;> rfl

/-- The marks of a comparison are an operator of two characters in front of all digits, or a single
sign. -/
theorem Written.marks_cases (h : Written text operator digits) :
    (marks text ∈ [['>', '='], ['<', '=']] ∧ marks text <+: text) ∨
      ∃ sign, marks text = [sign] := by
  cases h with
  | before hoperator hdigits =>
      have hmarks : marks (operator.symbol.toList ++ digits) = operator.symbol.toList := by
        rw [marks_append, marks_symbol hoperator, hdigits.marks_eq, List.append_nil]
      rw [hmarks]
      simp only [prefixed, List.mem_cons, List.not_mem_nil, or_false] at hoperator
      rcases hoperator with rfl | rfl | rfl | rfl | rfl
      · exact Or.inl ⟨List.mem_cons_self, List.prefix_append _ _⟩
      · exact Or.inl ⟨List.mem_cons_of_mem _ List.mem_cons_self, List.prefix_append _ _⟩
      · exact Or.inr ⟨'>', rfl⟩
      · exact Or.inr ⟨'<', rfl⟩
      · exact Or.inr ⟨'=', rfl⟩
  | greaterAfter hdigits =>
      rw [marks_append, hdigits.marks_eq]
      exact Or.inr ⟨'<', rfl⟩
  | lessAfter hdigits =>
      rw [marks_append, hdigits.marks_eq]
      exact Or.inr ⟨'>', rfl⟩

theorem Written.marks_ne_nil (h : Written text operator digits) : marks text ≠ [] := by
  rcases h.marks_cases with ⟨hmarks, -⟩ | ⟨sign, hmarks⟩
  · intro hnil
    rw [hnil] at hmarks
    exact absurd hmarks (by decide)
  · simp [hmarks]

/-- Two marks or more are an operator of two characters, in front of all digits. -/
theorem Written.marks_of_one_lt (h : Written text operator digits)
    (hlength : 1 < (marks text).length) :
    marks text ∈ [['>', '='], ['<', '=']] ∧ marks text <+: text := by
  refine h.marks_cases.resolve_right ?_
  rintro ⟨sign, hmarks⟩
  simp [hmarks] at hlength

theorem Written.eq_sign_of_mem_marks (h : Written text operator digits) {c : Char}
    (hc : c ∈ marks text) : c = '<' ∨ c = '>' ∨ c = '=' := by
  obtain ⟨hmem, hdigit⟩ := List.mem_filter.1 hc
  refine (h.mem_cases hmem).resolve_left fun hisDigit => ?_
  simp [hisDigit] at hdigit

/-- A text outside the grammar is no comparison. -/
theorem parse_of_not_written {text : String}
    (h : ∀ operator digits, ¬ Written text.toList operator digits) : parse text = .ok none :=
  parse_eq_none_iff.2 fun operator digits hwritten => absurd hwritten (h operator digits)

/-- A text is read as the comparison that it states, and as none if it states none, unless it has a
longer run of digits than are ever read.  In particular a text is no comparison if it has no marks,
like an empty text or digits alone; if it has a mark that is no sign of an operator, like white
space, a digit of another script or a minus; and if it has several marks, unless they are an operator
in front. -/
theorem parse_decides_grammar {text : String}
    (h : ∀ run, run <:+: text.toList → (∀ c ∈ run, c.isDigit = true) →
      run.length ≤ Text.numeralLimit) :
    (∀ comparison, parse text = .ok (some comparison) ↔ States text.toList comparison) ∧
      (parse text = .ok none ↔ ∀ comparison, ¬ States text.toList comparison) ∧
      (marks text.toList = [] → parse text = .ok none) ∧
      ((∃ c ∈ marks text.toList, c ≠ '<' ∧ c ≠ '>' ∧ c ≠ '=') → parse text = .ok none) ∧
      (1 < (marks text.toList).length →
        ¬ (marks text.toList ∈ [['>', '='], ['<', '=']] ∧ marks text.toList <+: text.toList) →
          parse text = .ok none) := by
  have hlong : ¬ Overlong text := not_overlong_of_runs h
  refine ⟨fun comparison => ⟨states_of_parse, parse_of_states hlong⟩, ⟨?_, ?_⟩, ?_, ?_, ?_⟩
  · intro hnone comparison hstates
    rw [parse_of_states hlong hstates] at hnone
    simp at hnone
  · exact parse_eq_none_of_not_states hlong
  · intro hmarks
    exact parse_of_not_written fun _ _ hwritten => hwritten.marks_ne_nil hmarks
  · rintro ⟨c, hc, hless, hgreater, hequal⟩
    refine parse_of_not_written fun _ _ hwritten => ?_
    rcases hwritten.eq_sign_of_mem_marks hc with hsign | hsign | hsign
    · exact hless hsign
    · exact hgreater hsign
    · exact hequal hsign
  · intro hmany hnot
    exact parse_of_not_written fun _ _ hwritten => hnot (hwritten.marks_of_one_lt hmany)

/-- Zeros in front of the number and a sign behind it, which is turned around; and an operator of
two characters that stands behind the number. -/
theorem parse_decides_grammar_behind :
    (∀ run, run <:+: "002048<".toList → (∀ c ∈ run, c.isDigit = true) →
        run.length ≤ Text.numeralLimit) ∧
      parse "002048<" = .ok (some ⟨.greater, 2048⟩) ∧
      parse "2048<=" = .ok none := by
  have hshort : ∀ text : String, text.toList.length ≤ Text.numeralLimit →
      ∀ run, run <:+: text.toList → (∀ c ∈ run, c.isDigit = true) →
        run.length ≤ Text.numeralLimit :=
    fun text hlength run hrun _ => Nat.le_trans hrun.length_le hlength
  have hbehind := hshort "002048<" (by decide)
  have hrun : IsRun "002048".toList := isDigits_iff.1 (by decide)
  refine ⟨hbehind, ((parse_decides_grammar hbehind).1 _).2 ?_, ?_⟩
  · exact ⟨"002048".toList, .greaterAfter hrun, by decide, by decide⟩
  · exact (parse_decides_grammar (hshort "2048<=" (by decide))).2.2.2.2 (by decide) (by decide)

end TextureCatalog.Query.Comparison
