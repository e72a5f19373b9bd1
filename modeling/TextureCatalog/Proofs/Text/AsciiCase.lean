import TextureCatalog.Text.Blank
import TextureCatalog.Text.Lowercase
import TextureCatalog.Text.Substring

/-!
# The case of ASCII letters

Two spellings of a text that differ in the case of ASCII letters only become the same text once its
ASCII capitals are put into lower case.  Cutting a text, trimming it and putting all of it into lower
case does not tell it from this one: every class of characters that these ask for has both letters of
a pair in it or none of them.
-/

namespace TextureCatalog.Text

/-- The text with its ASCII capitals in lower case; `Char.toLower` leaves all other characters as
they are. -/
def asciiLower (text : List Char) : List Char :=
  text.map Char.toLower

/-- The text with its ASCII capitals in lower case. -/
def asciiLowered (text : String) : String :=
  String.ofList (asciiLower text.toList)

/-- Two texts differ in nothing but the case of ASCII letters. -/
def SpelledAlike (text other : String) : Prop :=
  asciiLowered text = asciiLowered other

instance (text other : String) : Decidable (SpelledAlike text other) :=
  inferInstanceAs (Decidable (asciiLowered text = asciiLowered other))

@[simp]
theorem toList_asciiLowered (text : String) :
    (asciiLowered text).toList = asciiLower text.toList := by
  simp [asciiLowered]

/-- What does not tell a text from its ASCII lower case does not tell two spellings apart. -/
theorem SpelledAlike.apply_eq {α : Type} {f : List Char → α}
    (hf : ∀ text, f (asciiLower text) = f text) {text other : String}
    (h : SpelledAlike text other) : f text.toList = f other.toList :=
  calc f text.toList = f (asciiLowered text).toList := by rw [toList_asciiLowered, hf]
    _ = f (asciiLowered other).toList := by rw [h]
    _ = f other.toList := by rw [toList_asciiLowered, hf]

/-! ## Pairs of letters -/

/-- The capital at a place of the ASCII alphabet. -/
def asciiCapital (place : Fin 26) : Char :=
  Char.ofNat ('A'.toNat + place)

theorem toLower_eq_self_or_capital (c : Char) :
    c.toLower = c ∨ ∃ place, asciiCapital place = c := by
  by_cases h : 'A'.toNat ≤ c.toNat ∧ c.toNat < 'A'.toNat + 26
  · refine Or.inr ⟨⟨c.toNat - 'A'.toNat, Nat.sub_lt_left_of_lt_add h.1 h.2⟩, ?_⟩
    rw [asciiCapital, Nat.add_sub_of_le h.1, Char.ofNat_toNat]
  · exact Or.inl (dif_neg fun hrange => h ⟨hrange.1, Nat.lt_succ_of_le hrange.2⟩)

/-- What is the same for both letters of every pair is the same for each character and its lower
case. -/
theorem apply_toLower {α : Type} {f : Char → α}
    (h : ∀ place, f (asciiCapital place).toLower = f (asciiCapital place)) (c : Char) :
    f c.toLower = f c := by
  rcases toLower_eq_self_or_capital c with hsame | ⟨place, rfl⟩
  · rw [hsame]
  · exact h place

/-- The character is no ASCII letter. -/
def IsNoLetter (c : Char) : Prop :=
  ∀ place, (asciiCapital place).toLower ≠ c ∧ asciiCapital place ≠ c

instance (c : Char) : Decidable (IsNoLetter c) :=
  inferInstanceAs (Decidable (∀ place, (asciiCapital place).toLower ≠ c ∧ asciiCapital place ≠ c))

theorem IsNoLetter.toLower_eq_iff {other : Char} (h : IsNoLetter other) (c : Char) :
    c.toLower = other ↔ c = other := by
  have hsame := apply_toLower (f := fun c => decide (c = other))
    (fun place => by simp [h place]) c
  simpa using hsame

theorem isBlank_toLower (c : Char) : isBlank c.toLower = isBlank c :=
  apply_toLower (by decide +kernel) c

theorem isCaseIgnorable_toLower (c : Char) :
    inRanges caseIgnorableRanges c.toLower.toNat = inRanges caseIgnorableRanges c.toNat :=
  apply_toLower (f := fun c => inRanges caseIgnorableRanges c.toNat) (by decide +kernel) c

theorem isCased_toLower (c : Char) :
    inRanges casedRanges c.toLower.toNat = inRanges casedRanges c.toNat :=
  apply_toLower (f := fun c => inRanges casedRanges c.toNat) (by decide +kernel) c

theorem lowerChar_toLower (c : Char) : lowerChar c.toLower = lowerChar c :=
  apply_toLower (by decide +kernel) c

/-! ## Lower case -/

theorem meetsCased_asciiLower (text : List Char) :
    meetsCased (asciiLower text) = meetsCased text := by
  have hpasses : (fun c : Char => inRanges caseIgnorableRanges c.toNat) ∘ Char.toLower =
      fun c => inRanges caseIgnorableRanges c.toNat := by
    funext c
    exact isCaseIgnorable_toLower c
  rw [meetsCased, meetsCased, asciiLower, List.dropWhile_map, hpasses]
  cases text.dropWhile fun c => inRanges caseIgnorableRanges c.toNat with
  | nil => rfl
  | cons c rest => exact isCased_toLower c

theorem lowerWithin_asciiLower (before : List Char) (c : Char) (after : List Char) :
    lowerWithin (asciiLower before) c.toLower (asciiLower after) = lowerWithin before c after := by
  have hletter : IsNoLetter 'Σ' := by decide +kernel
  have hsigma : c.toLower = 'Σ' ↔ c = 'Σ' := hletter.toLower_eq_iff c
  rw [lowerWithin, lowerWithin, endsWord, endsWord, meetsCased_asciiLower, meetsCased_asciiLower,
    lowerChar_toLower]
  by_cases hc : c = 'Σ'
  · rw [if_pos hc, if_pos (hsigma.2 hc)]
  · rw [if_neg hc, if_neg (mt hsigma.1 hc)]

theorem lowerFrom_asciiLower (before text : List Char) :
    lowerFrom (asciiLower before) (asciiLower text) = lowerFrom before text := by
  -- The induction is over the text, whose characters go over to what comes before.
  induction text generalizing before with
  | nil => rfl
  | cons c rest ih =>
      calc lowerFrom (asciiLower before) (asciiLower (c :: rest))
          = lowerWithin (asciiLower before) c.toLower (asciiLower rest) ++
              lowerFrom (asciiLower (c :: before)) (asciiLower rest) := rfl
        _ = lowerWithin before c rest ++ lowerFrom (c :: before) rest := by
              rw [lowerWithin_asciiLower, ih]

@[simp]
theorem lower_asciiLower (text : List Char) : lower (asciiLower text) = lower text :=
  lowerFrom_asciiLower [] text

/-- Texts that are spelled alike have the same lower-case form, capital sigmas included. -/
theorem SpelledAlike.lower_eq {text other : String} (h : SpelledAlike text other) :
    lower text.toList = lower other.toList :=
  h.apply_eq lower_asciiLower

/-! ## Trimming and cutting -/

theorem isBlank_comp_toLower : isBlank ∘ Char.toLower = isBlank := by
  funext c
  exact isBlank_toLower c

theorem trim_asciiLower (text : List Char) : trim (asciiLower text) = asciiLower (trim text) := by
  simp only [trim, trimEnd, asciiLower, List.dropWhile_map, ← List.map_reverse,
    isBlank_comp_toLower]

theorem allBlank_asciiLower (text : List Char) : allBlank (asciiLower text) = allBlank text := by
  rw [allBlank, allBlank, asciiLower, List.all_map, isBlank_comp_toLower]

theorem SpelledAlike.isBlankText_eq {text other : String} (h : SpelledAlike text other) :
    isBlankText text = isBlankText other :=
  h.apply_eq allBlank_asciiLower

/-- A separator that is no letter separates the same pieces. -/
theorem cutAt_asciiLower {separator : Char} (h : IsNoLetter separator) (text : List Char) :
    cutAt separator (asciiLower text) = (cutAt separator text).map asciiLower := by
  induction text with
  | nil => rfl
  | cons c rest ih =>
      have hcons : asciiLower (c :: rest) = c.toLower :: asciiLower rest := rfl
      rw [hcons, cutAt, cutAt, ih]
      by_cases hc : c = separator
      · rw [if_pos hc, if_pos ((h.toLower_eq_iff c).2 hc)]
        rfl
      · rw [if_neg hc, if_neg fun hlower => hc ((h.toLower_eq_iff c).1 hlower)]
        cases cutAt separator rest <;> rfl

theorem mem_asciiLower_iff {other : Char} (h : IsNoLetter other) {text : List Char} :
    other ∈ asciiLower text ↔ other ∈ text := by
  simp [asciiLower, h.toLower_eq_iff]

end TextureCatalog.Text
