import TextureCatalog.Text.Substring

/-!
# Pieces of a text

What it means that a part of a text stands between two separators, and that cutting a text at a
separator gives exactly these parts; and what a text is made of that joins pieces.
-/

namespace TextureCatalog.Text

variable {separator : Char}

/-- A part of a text without separators in it, which reaches from the beginning or a separator to
the next separator or the end. -/
def IsPiece (separator : Char) (text piece : List Char) : Prop :=
  separator ∉ piece ∧
    ∃ before after, text = before ++ piece ++ after ∧
      (before = [] ∨ before.getLast? = some separator) ∧
      (after = [] ∨ after.head? = some separator)

theorem IsPiece.subset {text piece : List Char} (h : IsPiece separator text piece) :
    piece ⊆ text := by
  obtain ⟨-, before, after, rfl, -, -⟩ := h
  exact fun c hc => List.mem_append_left _ (List.mem_append_right _ hc)

/-- The first piece is cut off at the first separator. -/
theorem cutAt_append_of_not_mem {piece : List Char} (h : separator ∉ piece) (rest : List Char) :
    cutAt separator (piece ++ separator :: rest) = piece :: cutAt separator rest := by
  rw [cutAt_append_cons, cutAt_of_not_mem h]
  rfl

theorem isPiece_of_not_mem {text : List Char} (h : separator ∉ text) :
    IsPiece separator text text :=
  ⟨h, [], [], by simp, Or.inl rfl, Or.inl rfl⟩

theorem isPiece_first {piece : List Char} (h : separator ∉ piece) (rest : List Char) :
    IsPiece separator (piece ++ separator :: rest) piece :=
  ⟨h, [], separator :: rest, by simp, Or.inl rfl, Or.inr rfl⟩

/-- A piece of what follows a separator is a piece of the whole text. -/
theorem IsPiece.append_cons {rest piece : List Char} (h : IsPiece separator rest piece)
    (first : List Char) : IsPiece separator (first ++ separator :: rest) piece := by
  obtain ⟨hfree, before, after, rfl, hbefore, hafter⟩ := h
  refine ⟨hfree, first ++ separator :: before, after, by simp, Or.inr ?_, hafter⟩
  rcases hbefore with rfl | hlast
  · simp
  · rw [List.getLast?_append, List.getLast?_cons, hlast]
    rfl

theorem isPiece_of_mem_cutAt {text piece : List Char} (h : piece ∈ cutAt separator text) :
    IsPiece separator text piece := by
  -- The induction is on the length, because what follows the first separator is no immediate part.
  induction hlength : text.length using Nat.strongRecOn generalizing text with
  | ind length ih =>
      by_cases hmem : separator ∈ text
      · obtain ⟨first, rest, rfl, hfirst⟩ := List.eq_append_cons_of_mem hmem
        rw [cutAt_append_of_not_mem hfirst] at h
        rcases List.mem_cons.1 h with rfl | hrest
        · exact isPiece_first hfirst rest
        · have hshorter : rest.length < length := by
            simp only [List.length_append, List.length_cons] at hlength
            omega
          exact (ih rest.length hshorter hrest rfl).append_cons first
      · rw [cutAt_of_not_mem hmem, List.mem_singleton] at h
        subst h
        exact isPiece_of_not_mem hmem

theorem IsPiece.mem_cutAt {text piece : List Char} (h : IsPiece separator text piece) :
    piece ∈ cutAt separator text := by
  obtain ⟨hfree, before, after, rfl, hbefore, hafter⟩ := h
  -- What follows the piece is cut off first, then what comes before it.
  have hcut : piece ∈ cutAt separator (piece ++ after) := by
    rcases hafter with rfl | hhead
    · simp [cutAt_of_not_mem hfree]
    · obtain ⟨rest, rfl⟩ := List.head?_eq_some_iff.1 hhead
      simp [cutAt_append_of_not_mem hfree]
  rcases hbefore with rfl | hlast
  · simpa using hcut
  · obtain ⟨start, rfl⟩ := List.getLast?_eq_some_iff.1 hlast
    rw [List.append_assoc, List.append_assoc, List.singleton_append, cutAt_append_cons]
    exact List.mem_append_right _ hcut

/-- Cutting a text gives the parts between separators, and nothing else. -/
theorem mem_cutAt_iff {text piece : List Char} :
    piece ∈ cutAt separator text ↔ IsPiece separator text piece :=
  ⟨isPiece_of_mem_cutAt, IsPiece.mem_cutAt⟩

/-! ## Joining -/

theorem joinWith_eq_intercalate (between : List Char) (pieces : List (List Char)) :
    joinWith between pieces = between.intercalate pieces := by
  induction pieces with
  | nil => rfl
  | cons first pieces ih =>
      cases pieces with
      | nil => exact List.intercalate_singleton.symm
      | cons next pieces => rw [joinWith, ih, List.intercalate_cons_cons]

theorem mem_joinWith {c : Char} {between : List Char} {pieces : List (List Char)}
    (h : c ∈ joinWith between pieces) : c ∈ between ∨ ∃ piece ∈ pieces, c ∈ piece := by
  induction pieces with
  | nil => exact absurd h List.not_mem_nil
  | cons first pieces ih =>
      cases pieces with
      | nil => exact Or.inr ⟨first, List.mem_cons_self, h⟩
      | cons next pieces =>
          rw [joinWith, List.mem_append, List.mem_append] at h
          rcases h with (hfirst | hbetween) | hothers
          · exact Or.inr ⟨first, List.mem_cons_self, hfirst⟩
          · exact Or.inl hbetween
          · rcases ih hothers with hbetween | ⟨piece, hpiece, hc⟩
            · exact Or.inl hbetween
            · exact Or.inr ⟨piece, List.mem_cons_of_mem _ hpiece, hc⟩

/-- Another piece at the end is joined behind the others. -/
theorem exists_joinWith_append_singleton (between : List Char) (pieces : List (List Char))
    (piece : List Char) : ∃ added,
      joinWith between (pieces ++ [piece]) = joinWith between pieces ++ added := by
  induction pieces with
  | nil => exact ⟨piece, rfl⟩
  | cons first pieces ih =>
      obtain ⟨added, hadded⟩ := ih
      cases pieces with
      | nil => exact ⟨between ++ piece, by simp [joinWith]⟩
      | cons next pieces =>
          refine ⟨added, ?_⟩
          simp only [List.cons_append] at hadded ⊢
          rw [joinWith, hadded, joinWith, ← List.append_assoc]

end TextureCatalog.Text
