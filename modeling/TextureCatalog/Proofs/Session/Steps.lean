import TextureCatalog.Session.TabBar

/-!
# Steps of tab bars

What a step does, said once: a step by a valid index performs the operation at that position, and
any other step changes nothing.  Operations do not look into the tabs, so they commute with every
change of all tabs alike.
-/

namespace TextureCatalog.TabBar

variable {α β : Type}

theorem eq_of_tabs_active {left right : TabBar α} (htabs : left.tabs = right.tabs)
    (hactive : left.active = right.active) : left = right := by
  cases left
  cases right
  simp_all

theorem getElem?_active (bar : TabBar α) : bar.tabs[bar.active]? = some bar.activeTab :=
  List.getElem?_eq_getElem bar.active_lt

/-! ## Valid indices -/

/-- The position with an index is found, or the index is refused. -/
theorem map_position_cases {γ : Type} (bar : TabBar α) (index : Int)
    (operation : bar.Position → γ) :
    (∃ position : bar.Position, index = (position : Nat) ∧
        (bar.position index).map operation = .ok (operation position)) ∨
      (¬ (0 ≤ index ∧ index < bar.tabs.length) ∧
        (bar.position index).map operation = .error (.of index bar.tabs.length)) := by
  by_cases h : 0 ≤ index ∧ index < bar.tabs.length
  · refine Or.inl ⟨⟨index.toNat, by omega⟩, by simp only; omega, ?_⟩
    rw [TabBar.position, dif_pos h]
    rfl
  · refine Or.inr ⟨h, ?_⟩
    rw [TabBar.position, dif_neg h]
    rfl

/-- The place with an index to which a tab can be moved is found, or the index is refused. -/
theorem map_target_cases {γ : Type} (bar : TabBar α) (index : Int)
    (operation : Fin (bar.tabs.length + 1) → γ) :
    (∃ target : Fin (bar.tabs.length + 1), index = (target : Nat) ∧
        (bar.target index).map operation = .ok (operation target)) ∨
      (¬ (0 ≤ index ∧ index ≤ bar.tabs.length) ∧
        (bar.target index).map operation = .error (.of index bar.tabs.length)) := by
  by_cases h : 0 ≤ index ∧ index ≤ bar.tabs.length
  · refine Or.inl ⟨⟨index.toNat, by omega⟩, by simp only; omega, ?_⟩
    rw [TabBar.target, dif_pos h]
    rfl
  · refine Or.inr ⟨h, ?_⟩
    rw [TabBar.target, dif_neg h]
    rfl

/-! ## What steps do -/

/-- The steps that succeed, with the bars to which they lead. -/
inductive Performs (copy : α → α) (bar : TabBar α) : Step α → TabBar α → Prop
  | activate (position : bar.Position) :
      Performs copy bar (.activate (position : Nat)) (bar.activateAt position)
  | add (tab : α) : Performs copy bar (.add tab) (bar.add tab)
  | addAll (tabs : List α) : Performs copy bar (.addAll tabs) (bar.addAll tabs)
  | close (position : bar.Position) :
      Performs copy bar (.close (position : Nat)) (bar.closeAt position)
  | closeOthers (position : bar.Position) :
      Performs copy bar (.closeOthers (position : Nat)) (bar.closeOthersAt position)
  | closeToRight (position : bar.Position) :
      Performs copy bar (.closeToRight (position : Nat)) (bar.closeToRightAt position)
  | duplicate (position : bar.Position) :
      Performs copy bar (.duplicate (position : Nat))
        (bar.insertAfter position (copy (bar.tabs.get position)))
  | move (source : bar.Position) (target : Fin (bar.tabs.length + 1)) :
      Performs copy bar (.move (source : Nat) (target : Nat)) (bar.moveAt source target).1

/-- The index of the tab on which a step operates, if it operates on one. -/
def Step.index? : Step β → Option Int
  | .activate index | .close index | .closeOthers index | .closeToRight index
  | .duplicate index | .move index _ => some index
  | .add _ | .addAll _ => none

/-- The steps that fail, with their faults: there is no tab with the index, or a tab cannot be
moved to the target. -/
inductive Refuses (bar : TabBar α) (step : Step α) : OutOfRange → Prop
  | index {index : Int} : step.index? = some index →
      ¬ (0 ≤ index ∧ index < bar.tabs.length) → Refuses bar step (.of index bar.tabs.length)
  | target {index target : Int} : step = .move index target →
      (0 ≤ index ∧ index < bar.tabs.length) → ¬ (0 ≤ target ∧ target ≤ bar.tabs.length) →
        Refuses bar step (.of target bar.tabs.length)

theorem move_cases (bar : TabBar α) (index target : Int) :
    (∃ (source : bar.Position) (place : Fin (bar.tabs.length + 1)),
        index = (source : Nat) ∧ target = (place : Nat) ∧
          bar.move index target = .ok (bar.moveAt source place)) ∨
      ∃ fault, bar.move index target = .error fault ∧ Refuses bar (.move index target) fault := by
  by_cases hindex : 0 ≤ index ∧ index < bar.tabs.length
  · have hsource : bar.position index = .ok ⟨index.toNat, by omega⟩ := dif_pos hindex
    simp only [move, hsource]
    rcases bar.map_target_cases target (bar.moveAt ⟨index.toNat, by omega⟩) with
      ⟨place, htarget, hdone⟩ | ⟨hinvalid, hfault⟩
    · exact Or.inl ⟨_, place, by simp only; omega, htarget, hdone⟩
    · exact Or.inr ⟨_, hfault, Refuses.target rfl hindex hinvalid⟩
  · have hfault : bar.position index = .error (.of index bar.tabs.length) := dif_neg hindex
    simp only [move, hfault]
    exact Or.inr ⟨_, rfl, Refuses.index rfl hindex⟩

/-- A step succeeds by performing its operation, or it is refused. -/
theorem step_cases (copy : α → α) (bar : TabBar α) (step : Step α) :
    (∃ after result, bar.step copy step = .ok (after, result) ∧ Performs copy bar step after) ∨
      ∃ fault, bar.step copy step = .error fault ∧ Refuses bar step fault := by
  cases step with
  | activate index =>
      simp only [TabBar.step, activate]
      rcases bar.map_position_cases index bar.activateAt with
        ⟨position, rfl, hdone⟩ | ⟨hinvalid, hfault⟩
      · exact Or.inl ⟨_, none, by rw [hdone]; rfl, Performs.activate position⟩
      · exact Or.inr ⟨_, by rw [hfault]; rfl, Refuses.index rfl hinvalid⟩
  | add tab => exact Or.inl ⟨_, _, rfl, Performs.add tab⟩
  | addAll tabs => exact Or.inl ⟨_, _, rfl, Performs.addAll tabs⟩
  | close index =>
      simp only [TabBar.step, close]
      rcases bar.map_position_cases index bar.closeAt with
        ⟨position, rfl, hdone⟩ | ⟨hinvalid, hfault⟩
      · exact Or.inl ⟨_, none, by rw [hdone]; rfl, Performs.close position⟩
      · exact Or.inr ⟨_, by rw [hfault]; rfl, Refuses.index rfl hinvalid⟩
  | closeOthers index =>
      simp only [TabBar.step, closeOthers]
      rcases bar.map_position_cases index bar.closeOthersAt with
        ⟨position, rfl, hdone⟩ | ⟨hinvalid, hfault⟩
      · exact Or.inl ⟨_, none, by rw [hdone]; rfl, Performs.closeOthers position⟩
      · exact Or.inr ⟨_, by rw [hfault]; rfl, Refuses.index rfl hinvalid⟩
  | closeToRight index =>
      simp only [TabBar.step, closeToRight]
      rcases bar.map_position_cases index bar.closeToRightAt with
        ⟨position, rfl, hdone⟩ | ⟨hinvalid, hfault⟩
      · exact Or.inl ⟨_, none, by rw [hdone]; rfl, Performs.closeToRight position⟩
      · exact Or.inr ⟨_, by rw [hfault]; rfl, Refuses.index rfl hinvalid⟩
  | duplicate index =>
      simp only [TabBar.step, duplicate]
      rcases bar.map_position_cases index fun position =>
          bar.insertAfter position (copy bar.tabs[position]) with
        ⟨position, rfl, hdone⟩ | ⟨hinvalid, hfault⟩
      · exact Or.inl ⟨_, some (position + 1), by rw [hdone]; rfl, Performs.duplicate position⟩
      · exact Or.inr ⟨_, by rw [hfault]; rfl, Refuses.index rfl hinvalid⟩
  | move index target =>
      simp only [TabBar.step]
      rcases bar.move_cases index target with
        ⟨source, place, rfl, rfl, hdone⟩ | ⟨fault, hfault, hrefused⟩
      · exact Or.inl ⟨_, some (bar.moveAt source place).2, by rw [hdone]; rfl,
          Performs.move source place⟩
      · exact Or.inr ⟨fault, by rw [hfault]; rfl, hrefused⟩

theorem position_val (bar : TabBar α) (position : bar.Position) :
    bar.position (position : Nat) = .ok position :=
  dif_pos ⟨Int.natCast_nonneg _, Int.ofNat_lt.2 position.isLt⟩

theorem target_val (bar : TabBar α) (target : Fin (bar.tabs.length + 1)) :
    bar.target (target : Nat) = .ok target :=
  dif_pos ⟨Int.natCast_nonneg _, Int.ofNat_le.2 (Nat.le_of_lt_succ target.isLt)⟩

/-- A step that can perform its operation succeeds. -/
theorem exists_step_of_performs {copy : α → α} {bar after : TabBar α} {step : Step α}
    (h : Performs copy bar step after) : ∃ result, bar.step copy step = .ok (after, result) := by
  cases h with
  | activate position => exact ⟨none, by rw [TabBar.step, activate, position_val]; rfl⟩
  | add tab => exact ⟨_, rfl⟩
  | addAll tabs => exact ⟨_, rfl⟩
  | close position => exact ⟨none, by rw [TabBar.step, close, position_val]; rfl⟩
  | closeOthers position => exact ⟨none, by rw [TabBar.step, closeOthers, position_val]; rfl⟩
  | closeToRight position => exact ⟨none, by rw [TabBar.step, closeToRight, position_val]; rfl⟩
  | duplicate position =>
      exact ⟨some (position + 1), by rw [TabBar.step, duplicate, position_val]; rfl⟩
  | move source target =>
      refine ⟨some (bar.moveAt source target).2, ?_⟩
      simp only [TabBar.step, move, position_val, target_val]
      rfl

theorem performs_of_step {copy : α → α} {bar after : TabBar α} {step : Step α}
    {result : Option Nat} (h : bar.step copy step = .ok (after, result)) :
    Performs copy bar step after := by
  rcases bar.step_cases copy step with ⟨_, _, hdone, hperforms⟩ | ⟨fault, hfault, -⟩
  · rw [hdone] at h
    obtain ⟨rfl, -⟩ := Prod.mk.inj (Except.ok.inj h)
    exact hperforms
  · rw [hfault] at h
    exact absurd h (by simp)

end TextureCatalog.TabBar
