/-!
# Substrings and pieces

Searching a text for another one, cutting it at a separator, and joining pieces again.
-/

namespace TextureCatalog.Text

/-- Whether `needle` stands somewhere in the text as it is. -/
def occursIn (needle : List Char) : List Char → Bool
  | [] => needle.isEmpty
  | c :: rest => needle.isPrefixOf (c :: rest) || occursIn needle rest

/-- The pieces between the occurrences of a separator; there is one more of them than
occurrences. -/
def cutAt (separator : Char) : List Char → List (List Char)
  | [] => [[]]
  | c :: rest =>
      if c = separator then [] :: cutAt separator rest
      else
        match cutAt separator rest with
        | [] => [[c]]
        | piece :: pieces => (c :: piece) :: pieces

/-- The pieces with a separator text between each two of them. -/
def joinWith (separator : List Char) : List (List Char) → List Char
  | [] => []
  | [piece] => piece
  | piece :: next :: pieces => piece ++ separator ++ joinWith separator (next :: pieces)

/-- A search finds exactly the contiguous parts of a text. -/
theorem occursIn_iff {needle text : List Char} : occursIn needle text = true ↔ needle <:+: text := by
  induction text with
  | nil => cases needle <;> simp [occursIn]
  | cons c rest ih => simp [occursIn, ih, List.infix_cons_iff]

theorem cutAt_ne_nil (separator : Char) (text : List Char) : cutAt separator text ≠ [] := by
  cases text with
  | nil => simp [cutAt]
  | cons c rest =>
    simp only [cutAt]
    split
    · simp
    · split <;> simp

theorem cutAt_of_not_mem {separator : Char} {text : List Char} (h : separator ∉ text) :
    cutAt separator text = [text] := by
  induction text with
  | nil => rfl
  | cons c rest ih =>
    have hc : c ≠ separator := fun heq => h (by simp [heq])
    have hrest : separator ∉ rest := fun hmem => h (by simp [hmem])
    simp [cutAt, hc, ih hrest]

theorem cutAt_append_cons (separator : Char) (left right : List Char) :
    cutAt separator (left ++ separator :: right) =
      cutAt separator left ++ cutAt separator right := by
  induction left with
  | nil => simp [cutAt]
  | cons c rest ih =>
    simp only [List.cons_append, cutAt]
    split
    · simp [ih]
    · rw [ih]
      have hne := cutAt_ne_nil separator rest
      cases hpieces : cutAt separator rest with
      | nil => exact absurd hpieces hne
      | cons piece pieces => simp

theorem joinWith_cutAt (separator : Char) (text : List Char) :
    joinWith [separator] (cutAt separator text) = text := by
  induction text with
  | nil => rfl
  | cons c rest ih =>
    have hne := cutAt_ne_nil separator rest
    simp only [cutAt]
    split
    · next hc =>
      subst hc
      cases hpieces : cutAt c rest with
      | nil => exact absurd hpieces hne
      | cons piece pieces => rw [hpieces] at ih; simp [joinWith, ih]
    · cases hpieces : cutAt separator rest with
      | nil => exact absurd hpieces hne
      | cons piece pieces =>
        rw [hpieces] at ih
        cases pieces <;> simpa [joinWith] using ih

end TextureCatalog.Text
