import TextureCatalog.Query.Comparison

/-!
# The shape of comparisons

The grammar of comparisons as a relation between a text, its operator and its digits.  The reader
accepts exactly the texts of the grammar, and refuses only those whose run of digits is longer than
any that is read.
-/

namespace TextureCatalog.Query.Comparison

/-- One or more digits. -/
def IsRun (digits : List Char) : Prop :=
  digits ≠ [] ∧ ∀ c ∈ digits, c.isDigit = true

/-- The operators that can stand before a number. -/
def prefixed : List Operator :=
  [.atLeast, .atMost, .greater, .less, .equal]

/-- The texts that have the shape of a comparison, with their operator and their digits. -/
inductive Written : List Char → Operator → List Char → Prop
  | before {operator : Operator} {digits : List Char} :
      operator ∈ prefixed → IsRun digits →
        Written (operator.symbol.toList ++ digits) operator digits
  | greaterAfter {digits : List Char} : IsRun digits → Written (digits ++ ['<']) .greater digits
  | lessAfter {digits : List Char} : IsRun digits → Written (digits ++ ['>']) .less digits

theorem isDigits_iff {digits : List Char} : isDigits digits = true ↔ IsRun digits := by
  simp [isDigits, IsRun]

/-- A run of digits begins with a digit, so no operator stands before it. -/
theorem IsRun.prefixOperator?_append {digits : List Char} (h : IsRun digits) (rest : List Char) :
    prefixOperator? (digits ++ rest) = none := by
  obtain ⟨hne, hdigits⟩ := h
  obtain ⟨first, others, rfl⟩ := List.exists_cons_of_ne_nil hne
  have hfirst : first.isDigit = true := hdigits first (by simp)
  rw [List.cons_append]
  unfold prefixOperator?
  split <;> simp_all [Char.isDigit]

theorem prefixOperator?_append {operator : Operator} {digits : List Char}
    (hoperator : operator ∈ prefixed) (hdigits : IsRun digits) :
    prefixOperator? (operator.symbol.toList ++ digits) = some (operator, digits) := by
  -- Of two operators that fit, the longer one is meant; a digit is not the rest of one.
  have hequals : digits.head? ≠ some '=' := by
    intro hhead
    obtain ⟨rest, rfl⟩ := List.head?_eq_some_iff.1 hhead
    simpa [Char.isDigit] using hdigits.2 '=' (by simp)
  simp only [prefixed, List.mem_cons, List.not_mem_nil, or_false] at hoperator
  rcases hoperator with rfl | rfl | rfl | rfl | rfl
  · rfl
  · rfl
  · cases digits <;> simp_all [Operator.symbol, prefixOperator?]
  · cases digits <;> simp_all [Operator.symbol, prefixOperator?]
  · rfl

theorem eq_append_of_prefixOperator? {text rest : List Char} {operator : Operator}
    (h : prefixOperator? text = some (operator, rest)) :
    operator ∈ prefixed ∧ text = operator.symbol.toList ++ rest := by
  unfold prefixOperator? at h
  split at h
  case h_6 => simp at h
  all_goals
    obtain ⟨rfl, rfl⟩ := Prod.mk.inj (Option.some.inj h)
    exact ⟨by decide, rfl⟩

theorem eq_append_of_postfixOperator? {text : List Char} {operator : Operator}
    (h : postfixOperator? text = some operator) :
    text = ['<'] ∧ operator = .greater ∨ text = ['>'] ∧ operator = .less := by
  unfold postfixOperator? at h
  split at h <;> simp_all

/-- The shape that is found has been written. -/
theorem written_of_shape? {text digits : List Char} {operator : Operator}
    (h : shape? text = some (operator, digits)) : Written text operator digits := by
  unfold shape? at h
  split at h
  · next rest hprefix =>
      obtain ⟨hoperator, rfl⟩ := eq_append_of_prefixOperator? hprefix
      split at h
      · next hdigits =>
          obtain ⟨rfl, rfl⟩ := Prod.mk.inj (Option.some.inj h)
          exact Written.before hoperator (isDigits_iff.1 hdigits)
      · simp at h
  · dsimp only at h
    split at h
    · simp at h
    · next hne =>
        obtain ⟨found, hfound, hpair⟩ := Option.map_eq_some_iff.1 h
        obtain ⟨rfl, rfl⟩ := Prod.mk.inj hpair
        have hrun : IsRun (text.takeWhile Char.isDigit) :=
          ⟨by simpa using hne, List.all_eq_true.1 List.all_takeWhile⟩
        rcases eq_append_of_postfixOperator? hfound with ⟨hrest, rfl⟩ | ⟨hrest, rfl⟩
        · have hwritten := Written.greaterAfter hrun
          rwa [← hrest, List.takeWhile_append_dropWhile] at hwritten
        · have hwritten := Written.lessAfter hrun
          rwa [← hrest, List.takeWhile_append_dropWhile] at hwritten

theorem takeWhile_isDigit_append {digits : List Char} (h : IsRun digits) {c : Char}
    (hc : c.isDigit = false) : (digits ++ [c]).takeWhile Char.isDigit = digits := by
  rw [List.takeWhile_append_of_pos h.2]
  simp [hc]

theorem dropWhile_isDigit_append {digits : List Char} (h : IsRun digits) {c : Char}
    (hc : c.isDigit = false) : (digits ++ [c]).dropWhile Char.isDigit = [c] := by
  rw [List.dropWhile_append_of_pos h.2]
  simp [hc]

/-- Whatever has been written is found. -/
theorem Written.shape?_eq {text digits : List Char} {operator : Operator}
    (h : Written text operator digits) : shape? text = some (operator, digits) := by
  cases h with
  | before hoperator hdigits =>
      simp [shape?, prefixOperator?_append hoperator hdigits, isDigits_iff.2 hdigits]
  | greaterAfter hdigits =>
      have hnotDigit : '<'.isDigit = false := by decide
      simp [shape?, hdigits.prefixOperator?_append, takeWhile_isDigit_append hdigits hnotDigit,
        dropWhile_isDigit_append hdigits hnotDigit, hdigits.1, postfixOperator?]
  | lessAfter hdigits =>
      have hnotDigit : '>'.isDigit = false := by decide
      simp [shape?, hdigits.prefixOperator?_append, takeWhile_isDigit_append hdigits hnotDigit,
        dropWhile_isDigit_append hdigits hnotDigit, hdigits.1, postfixOperator?]

/-- The reader of shapes decides the grammar. -/
theorem shape?_eq_some_iff {text digits : List Char} {operator : Operator} :
    shape? text = some (operator, digits) ↔ Written text operator digits :=
  ⟨written_of_shape?, Written.shape?_eq⟩

/-- A text has the shape of a comparison with more digits than are ever read. -/
def Overlong (text : String) : Prop :=
  ∃ operator digits, Written text.toList operator digits ∧ Text.numeralLimit < digits.length

/-- A text can be read, as a comparison or not, unless it has too many digits. -/
theorem parse_eq_error_iff {text : String} :
    parse text = .error .numeralTooLong ↔ Overlong text := by
  unfold parse Overlong
  cases hshape : shape? text.toList with
  | none =>
      constructor
      · intro h
        simp at h
      · rintro ⟨operator, digits, hwritten, -⟩
        rw [hwritten.shape?_eq] at hshape
        simp at hshape
  | some found =>
      obtain ⟨operator, digits⟩ := found
      constructor
      · intro h
        refine ⟨operator, digits, written_of_shape? hshape, ?_⟩
        by_cases hlong : Text.numeralLimit < digits.length
        · exact hlong
        · simp [hlong] at h
      · rintro ⟨_, _, hwritten, hlong⟩
        rw [hwritten.shape?_eq] at hshape
        obtain ⟨rfl, rfl⟩ := Prod.mk.inj (Option.some.inj hshape)
        simp [hlong]

theorem eq_numeralTooLong_of_parse {text : String} {fault : Fault} (h : parse text = .error fault) :
    fault = .numeralTooLong := by
  unfold parse at h
  split at h
  · cases h
  · split at h <;> cases h
    rfl

end TextureCatalog.Query.Comparison
