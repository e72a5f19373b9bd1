import TextureCatalog.Settings.Storage

/-!
# Warnings about the resolution range

Settings can hold a resolution range that no search uses as it is: a negative lower bound counts as
zero, and an upper bound below the lower one counts as the lower one.  This module compares the
warnings with the bounds that take effect.  There is a warning about a bound exactly if that bound
is not the one in effect.  What a warning about the upper bound says is another matter: it speaks of
the lower bound as it was set, and the upper bound is compared with the one in effect.
-/

namespace TextureCatalog.Settings

variable {settings : Settings}

/-- What a warning says about the bounds in effect is so: the number that it calls negative is, or
the one that it calls the smaller, and the bound is what it says is used. -/
def Warning.Holds (low high : Int) : Warning → Prop
  | .noFile _ => True
  | .negativeMinimum minimum => minimum < 0 ∧ low = 0
  | .maximumBelowMinimum maximum minimum => maximum < minimum ∧ high = minimum

/-! ## Which warnings there are -/

theorem low_ne_minResolution_iff :
    settings.filter.bounds.1 ≠ settings.minResolution ↔ settings.minResolution < 0 := by
  change max 0 settings.minResolution ≠ settings.minResolution ↔ _
  omega

theorem high_ne_maxResolution_iff :
    settings.filter.bounds.2 ≠ settings.maxResolution ↔
      settings.maxResolution < max 0 settings.minResolution := by
  change max (max 0 settings.minResolution) settings.maxResolution ≠ settings.maxResolution ↔ _
  omega

theorem mem_warnings_iff {warning : Warning} :
    warning ∈ settings.warnings ↔
      (settings.minResolution < 0 ∧ warning = .negativeMinimum settings.minResolution) ∨
      (settings.maxResolution < max 0 settings.minResolution ∧
        warning = .maximumBelowMinimum settings.maxResolution settings.minResolution) := by
  simp only [warnings, List.mem_append, List.mem_ite_nil_right, List.mem_singleton]

theorem negativeMinimum_mem_warnings_iff {minimum : Int} :
    .negativeMinimum minimum ∈ settings.warnings ↔
      settings.filter.bounds.1 ≠ settings.minResolution ∧ minimum = settings.minResolution := by
  rw [mem_warnings_iff, low_ne_minResolution_iff]
  simp

theorem maximumBelowMinimum_mem_warnings_iff {maximum minimum : Int} :
    .maximumBelowMinimum maximum minimum ∈ settings.warnings ↔
      settings.filter.bounds.2 ≠ settings.maxResolution ∧
        maximum = settings.maxResolution ∧ minimum = settings.minResolution := by
  rw [mem_warnings_iff, high_ne_maxResolution_iff]
  simp

/-! ## Which warnings are true -/

/-- A warning about the lower bound is true. -/
theorem holds_negativeMinimum (h : settings.minResolution < 0) :
    (Warning.negativeMinimum settings.minResolution).Holds settings.filter.bounds.1
      settings.filter.bounds.2 :=
  ⟨h, Int.max_eq_left (Int.le_of_lt h)⟩

/-- A warning about the upper bound is true exactly if the lower bound is in effect. -/
theorem holds_maximumBelowMinimum_iff
    (h : settings.maxResolution < max 0 settings.minResolution) :
    (Warning.maximumBelowMinimum settings.maxResolution settings.minResolution).Holds
        settings.filter.bounds.1 settings.filter.bounds.2 ↔ 0 ≤ settings.minResolution := by
  change settings.maxResolution < settings.minResolution ∧
    max (max 0 settings.minResolution) settings.maxResolution = settings.minResolution ↔ _
  omega

/-- The warnings are all true unless both bounds are negative. -/
theorem forall_warnings_hold_iff :
    (∀ warning ∈ settings.warnings,
        warning.Holds settings.filter.bounds.1 settings.filter.bounds.2) ↔
      0 ≤ settings.minResolution ∨ 0 ≤ settings.maxResolution := by
  constructor
  · intro hall
    by_cases hbelow : settings.maxResolution < max 0 settings.minResolution
    · have hwarned := hall _ (mem_warnings_iff.2 (.inr ⟨hbelow, rfl⟩))
      exact .inl ((holds_maximumBelowMinimum_iff hbelow).1 hwarned)
    · omega
  · intro hbounds warning hwarning
    rcases mem_warnings_iff.1 hwarning with ⟨hnegative, rfl⟩ | ⟨hbelow, rfl⟩
    · exact holds_negativeMinimum hnegative
    · exact (holds_maximumBelowMinimum_iff hbelow).2 (by omega)

/-! ## Which warnings can be given -/

/-- The warnings come with the settings unless they quote a number that has no numeral. -/
theorem withWarnings_eq_ok_iff :
    settings.withWarnings = .ok (settings, settings.warnings) ↔
      ∀ warning ∈ settings.warnings, ∀ number ∈ warning.numbers,
        Text.isWritable number = true := by
  rw [withWarnings]
  simp only [List.all_eq_true]
  split
  · next hall => exact iff_of_true rfl hall
  · next hsome => exact iff_of_false (by simp) hsome

/-- There is a warning about each bound that is not in effect, and no other; it quotes the bounds
that are set, and is given unless these have no numerals.  What the warnings say is so unless both
bounds are negative: then the lower bound, which the upper one is said to give way to, is not in
effect itself, and both are zero. -/
theorem warnings_report_clamping (settings : Settings) :
    let low := settings.filter.bounds.1
    let high := settings.filter.bounds.2
    (∀ minimum, .negativeMinimum minimum ∈ settings.warnings ↔
        low ≠ settings.minResolution ∧ minimum = settings.minResolution) ∧
      (∀ maximum minimum, .maximumBelowMinimum maximum minimum ∈ settings.warnings ↔
        high ≠ settings.maxResolution ∧
          maximum = settings.maxResolution ∧ minimum = settings.minResolution) ∧
      ((∀ warning ∈ settings.warnings, warning.Holds low high) ↔
        0 ≤ settings.minResolution ∨ 0 ≤ settings.maxResolution) ∧
      (settings.minResolution < 0 → settings.maxResolution < 0 → low = 0 ∧ high = 0) ∧
      (settings.withWarnings = .ok (settings, settings.warnings) ↔
        ∀ warning ∈ settings.warnings, ∀ number ∈ warning.numbers,
          Text.isWritable number = true) := by
  intro low high
  refine ⟨fun _ => negativeMinimum_mem_warnings_iff, fun _ _ =>
    maximumBelowMinimum_mem_warnings_iff, forall_warnings_hold_iff, fun hmin hmax => ?_,
    withWarnings_eq_ok_iff⟩
  have hlow : max 0 settings.minResolution = 0 := Int.max_eq_left (Int.le_of_lt hmin)
  refine ⟨hlow, ?_⟩
  change max (max 0 settings.minResolution) settings.maxResolution = 0
  rw [hlow]
  exact Int.max_eq_left (Int.le_of_lt hmax)

/-- Of the range from -5 to -3 it is said that -3 is below -5, and that -5 is used. -/
theorem warning_about_negative_range_is_false :
    let settings : Settings := { minResolution := -5, maxResolution := -3 }
    settings.withWarnings =
        .ok (settings, [.negativeMinimum (-5), .maximumBelowMinimum (-3) (-5)]) ∧
      (Warning.maximumBelowMinimum (-3) (-5)).message =
        "filters.max_resolution=-3 is below min_resolution=-5, using min_resolution" ∧
      settings.filter.bounds = (0, 0) ∧
      ¬ (Warning.maximumBelowMinimum (-3) (-5)).Holds 0 0 := by
  refine ⟨withWarnings_eq_ok_iff.2 (by decide +kernel), by decide +kernel, by decide, ?_⟩
  rintro ⟨hbelow, -⟩
  exact absurd hbelow (by decide)

end TextureCatalog.Settings
