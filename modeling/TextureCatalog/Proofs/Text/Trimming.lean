import Mathlib.Data.List.DropRight
import TextureCatalog.Text.Blank

/-!
# Trimmed texts

Trimming leaves a part of the text, and it leaves the whole text exactly when neither its first nor
its last character is blank.
-/

namespace TextureCatalog.Text

variable {text : List Char}

/-- What is left by trimming stands in the text, between the white space that was removed. -/
theorem exists_eq_append_trim (text : List Char) :
    ∃ before after, allBlank before = true ∧ allBlank after = true ∧
      text = before ++ trim text ++ after := by
  let rest := text.dropWhile isBlank
  let after := (rest.reverse.takeWhile isBlank).reverse
  have hafter : allBlank after = true := by
    rw [allBlank, List.all_reverse]
    exact List.all_takeWhile
  have hrest : rest = trimEnd rest ++ after := by
    rw [trimEnd, ← List.reverse_append, List.takeWhile_append_dropWhile, List.reverse_reverse]
  refine ⟨text.takeWhile isBlank, after, List.all_takeWhile, hafter, ?_⟩
  calc text = text.takeWhile isBlank ++ rest := List.takeWhile_append_dropWhile.symm
    _ = text.takeWhile isBlank ++ (trimEnd rest ++ after) := congrArg _ hrest
    _ = text.takeWhile isBlank ++ trim text ++ after := (List.append_assoc ..).symm

/-- Trimming removes nothing if it removes nothing at either end. -/
theorem trim_eq_self_iff_ends :
    trim text = text ↔ text.dropWhile isBlank = text ∧ trimEnd text = text := by
  constructor
  · intro h
    have hprefix : text <+: text.dropWhile isBlank := by
      conv_lhs => rw [← h]
      exact List.rdropWhile_prefix isBlank _
    have hdrop : text.dropWhile isBlank = text :=
      (List.dropWhile_suffix isBlank).eq_of_length_le hprefix.length_le
    refine ⟨hdrop, ?_⟩
    rwa [trim, hdrop] at h
  · rintro ⟨hdrop, hend⟩
    rw [trim, hdrop, hend]

theorem trim_eq_self_iff :
    trim text = text ↔
      (∀ c ∈ text.head?, isBlank c = false) ∧ ∀ c ∈ text.getLast?, isBlank c = false := by
  rw [trim_eq_self_iff_ends]
  apply and_congr
  · cases text with
    | nil => simp
    | cons c rest => simp [List.dropWhile_eq_self_iff]
  · have hend : trimEnd text = text ↔ text.rdropWhile isBlank = text := Iff.rfl
    rw [hend, List.rdropWhile_eq_self_iff]
    cases text with
    | nil => simp
    | cons c rest => simp [List.getLast?_eq_some_getLast]

/-- A text without blank characters is not changed by trimming. -/
theorem trim_of_forall_not_blank (h : ∀ c ∈ text, isBlank c = false) : trim text = text :=
  trim_eq_self_iff.2
    ⟨fun c hc => h c (List.mem_of_mem_head? hc), fun c hc => h c (List.mem_of_mem_getLast? hc)⟩

/-- What is left by trimming begins and ends with no blank character. -/
theorem trim_trim (text : List Char) : trim (trim text) = trim text := by
  have hbegins : trim text <+: text.dropWhile isBlank := List.rdropWhile_prefix isBlank _
  refine trim_eq_self_iff_ends.2 ⟨?_, List.rdropWhile_idempotent isBlank _⟩
  rw [List.dropWhile_eq_self_iff]
  intro hpos
  rw [hbegins.getElem hpos]
  exact List.dropWhile_get_zero_not isBlank text (Nat.lt_of_lt_of_le hpos hbegins.length_le)

theorem mem_of_mem_trim {c : Char} (h : c ∈ trim text) : c ∈ text := by
  obtain ⟨before, after, -, -, htext⟩ := exists_eq_append_trim text
  rw [htext]
  exact List.mem_append_left _ (List.mem_append_right _ h)

end TextureCatalog.Text
