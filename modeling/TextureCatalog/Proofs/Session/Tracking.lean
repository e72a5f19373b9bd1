import Mathlib.Data.List.InsertIdx
import TextureCatalog.Proofs.Session.Steps
import TextureCatalog.Session.Workspace

/-!
# Tabs with an identity

Two tabs of a bar may look the same, so what happens to a single tab is said of bars in which every
tab carries a label that no other tab ever had.  Operations do not look into the tabs, so they move
the labels along, and a run with labels is the run of the program as soon as the labels are
forgotten.
-/

namespace TextureCatalog.TabBar

variable {α β : Type}

/-! ## Changing all tabs alike -/

/-- The bar with all its tabs changed in the same way. -/
def map (change : α → β) (bar : TabBar α) : TabBar β :=
  ⟨bar.tabs.map change, bar.active, by simpa using bar.active_lt⟩

theorem length_map (change : α → β) (bar : TabBar α) :
    (bar.map change).tabs.length = bar.tabs.length :=
  List.length_map change

/-- Changing an outcome twice changes it once. -/
theorem map_outcome_map {ε γ δ η : Type} (outcome : Except ε γ) (first : γ → δ)
    (second : δ → η) :
    (outcome.map first).map second = outcome.map fun value => second (first value) := by
  cases outcome <;> rfl

/-- The position in the changed bar. -/
def Position.map (change : α → β) {bar : TabBar α} (position : bar.Position) :
    (bar.map change).Position :=
  ⟨position.val, by rw [length_map]; exact position.isLt⟩

theorem map_position_map {γ : Type} (change : α → β) (bar : TabBar α) (index : Int)
    {left : (bar.map change).Position → γ} {right : bar.Position → γ}
    (h : ∀ position : bar.Position, index = (position : Nat) →
      left (position.map change) = right position) :
    ((bar.map change).position index).map left = (bar.position index).map right := by
  have hlength := bar.length_map change
  by_cases hindex : 0 ≤ index ∧ index < bar.tabs.length
  · simp only [position, hlength, hindex, and_self, dite_true]
    exact congrArg Except.ok (h ⟨index.toNat, by omega⟩ (Int.toNat_of_nonneg hindex.1).symm)
  · simp only [position, hlength, hindex, dite_false]
    rfl

/-- The place to which a tab can be moved, in the changed bar. -/
def mapTarget (change : α → β) {bar : TabBar α} (target : Fin (bar.tabs.length + 1)) :
    Fin ((bar.map change).tabs.length + 1) :=
  ⟨target.val, by rw [length_map]; exact target.isLt⟩

theorem get_map (change : α → β) (bar : TabBar α) (position : bar.Position) :
    (bar.map change).tabs.get (position.map change) = change (bar.tabs.get position) := by
  simp [map, Position.map]

theorem map_closeAt (change : α → β) (bar : TabBar α) (position : bar.Position) :
    (bar.map change).closeAt (position.map change) = (bar.closeAt position).map change := by
  by_cases h : bar.tabs.length ≤ 1
  · simp [closeAt, map, h]
  · simp [closeAt, map, h, Position.map, List.eraseIdx_map]

theorem map_moveAt (change : α → β) (bar : TabBar α) (source : bar.Position)
    (target : Fin (bar.tabs.length + 1)) :
    (bar.map change).moveAt (source.map change) (mapTarget change target) =
      ((bar.moveAt source target).1.map change, (bar.moveAt source target).2) := by
  by_cases h : target.val = source.val ∨ target.val = source.val + 1
  · simp [moveAt, h, Position.map, mapTarget]
  · have hchanged : ¬ ((mapTarget change target).val = (source.map change).val ∨
        (mapTarget change target).val = (source.map change).val + 1) := h
    rw [moveAt, moveAt, if_neg h, if_neg hchanged]
    refine Prod.ext (eq_of_tabs_active ?_ rfl) rfl
    have htab : (bar.map change).tabs[source.map change] = change bar.tabs[source] :=
      get_map change bar source
    simp only [htab]
    change ((bar.tabs.map change).eraseIdx source).insertIdx
        (if source.val < target.val then target.val - 1 else target.val) _ =
      ((bar.tabs.eraseIdx source).insertIdx
        (if source.val < target.val then target.val - 1 else target.val) _).map change
    rw [List.eraseIdx_map, List.map_insertIdx]

theorem map_insertAfter (change : α → β) (bar : TabBar α) (position : bar.Position) (tab : α) :
    (bar.map change).insertAfter (position.map change) (change tab) =
      (bar.insertAfter position tab).map change := by
  simp [insertAfter, map, Position.map, List.map_insertIdx]

theorem map_addAll (change : α → β) (bar : TabBar α) (added : List α) :
    (bar.map change).addAll (added.map change) = (bar.addAll added).map change := by
  by_cases h : added = []
  · simp [addAll, h]
  · simp [addAll, h, map]

theorem map_move (change : α → β) (bar : TabBar α) (index target : Int) :
    (bar.map change).move index target =
      (bar.move index target).map fun (after, place) => (after.map change, place) := by
  have hlength := bar.length_map change
  by_cases hindex : 0 ≤ index ∧ index < bar.tabs.length
  · by_cases htarget : 0 ≤ target ∧ target ≤ bar.tabs.length
    · simp only [move, position, TabBar.target, hlength, hindex, htarget, and_self, dite_true]
      exact congrArg Except.ok (map_moveAt change bar ⟨index.toNat, by omega⟩
        ⟨target.toNat, by omega⟩)
    · simp only [move, position, TabBar.target, hlength, hindex, htarget, and_self, dite_true,
        dite_false]
      rfl
  · simp only [move, position, hlength, hindex, dite_false]
    rfl

/-- A step does the same whatever the tabs are, if the tab that it copies is copied alike. -/
theorem map_step (change : α → β) (copy : α → α) (copyChanged : β → β) (bar : TabBar α)
    (step : Step α)
    (hcopy : ∀ position : bar.Position, step = .duplicate (position : Nat) →
      copyChanged (change (bar.tabs.get position)) = change (copy (bar.tabs.get position))) :
    (bar.map change).step copyChanged (step.map change) =
      (bar.step copy step).map fun (after, result) => (after.map change, result) := by
  cases step with
  | activate index =>
      simp only [TabBar.step, Step.map, activate, map_outcome_map]
      exact map_position_map change bar index fun position _ => rfl
  | add tab =>
      simp [TabBar.step, Step.map, add, map, Except.map]
  | addAll tabs =>
      simp [TabBar.step, Step.map, Except.map, map_addAll]
  | close index =>
      simp only [TabBar.step, Step.map, close, map_outcome_map]
      exact map_position_map change bar index fun position _ => by simp [map_closeAt]
  | closeOthers index =>
      simp only [TabBar.step, Step.map, closeOthers, map_outcome_map]
      exact map_position_map change bar index fun position _ => by
        simp [closeOthersAt, map, Position.map]
  | closeToRight index =>
      simp only [TabBar.step, Step.map, closeToRight, map_outcome_map]
      exact map_position_map change bar index fun position _ => by
        simp [closeToRightAt, map, Position.map]
  | duplicate index =>
      simp only [TabBar.step, Step.map, duplicate, map_outcome_map]
      exact map_position_map change bar index fun position hindex => by
        have htab : (bar.map change).tabs[position.map change] = change (bar.tabs.get position) :=
          get_map change bar position
        rw [htab, hcopy position (congrArg Step.duplicate hindex), map_insertAfter]
        rfl
  | move index target =>
      simp only [TabBar.step, Step.map, map_move, map_outcome_map]

/-! ## Labels -/

/-- A tab with the label by which it is known as long as it exists. -/
structure Labelled (α : Type) where
  label : Nat
  tab : α

/-- Tabs with consecutive labels. -/
def labelFrom (first : Nat) : List α → List (Labelled α)
  | [] => []
  | tab :: tabs => ⟨first, tab⟩ :: labelFrom (first + 1) tabs

/-- The step that gives labels to the tabs that it adds, and to the copy that it makes. -/
def Step.labelled (first : Nat) : Step α → Step (Labelled α)
  | .activate index => .activate index
  | .add tab => .add ⟨first, tab⟩
  | .addAll tabs => .addAll (labelFrom first tabs)
  | .close index => .close index
  | .closeOthers index => .closeOthers index
  | .closeToRight index => .closeToRight index
  | .duplicate index => .duplicate index
  | .move index target => .move index target

/-- How many labels a step gives. -/
def Step.labelCount : Step α → Nat
  | .add _ | .duplicate _ => 1
  | .addAll tabs => tabs.length
  | _ => 0

/-- A bar of tabs with labels, and the first label that was never given. -/
structure Tracked (α : Type) where
  bar : TabBar (Labelled α)
  fresh : Nat

namespace Tracked

/-- The labels of the tabs, in their order. -/
def labels (tracked : Tracked α) : List Nat :=
  tracked.bar.tabs.map Labelled.label

/-- The bar without the labels. -/
def forget (tracked : Tracked α) : TabBar α :=
  tracked.bar.map Labelled.tab

/-- Makes the copy of a tab, with the next label. -/
def copyTab (copy : α → α) (tracked : Tracked α) (tab : Labelled α) : Labelled α :=
  ⟨tracked.fresh, copy tab.tab⟩

/-- Does a step, and gives new labels to the tabs that come with it. -/
def step (copy : α → α) (tracked : Tracked α) (step : Step α) :
    Except OutOfRange (Tracked α × Option Nat) :=
  (tracked.bar.step (tracked.copyTab copy) (step.labelled tracked.fresh)).map
    fun (bar, result) => (⟨bar, tracked.fresh + step.labelCount⟩, result)

/-- The bar after a step; a step that fails changes nothing. -/
def next (copy : α → α) (tracked : Tracked α) (step : Step α) : Tracked α :=
  match tracked.step copy step with
  | .ok (after, _) => after
  | .error _ => tracked

/-- The bar after a run of steps. -/
def run (copy : α → α) (tracked : Tracked α) (steps : List (Step α)) : Tracked α :=
  steps.foldl (next copy) tracked

/-- The bar of the given tabs, each with a label of its own. -/
def ofList (tabs : List α) (spare : α) : Tracked α :=
  ⟨.ofList (labelFrom 0 tabs) ⟨tabs.length, spare⟩, tabs.length + 1⟩

theorem length_labelFrom (first : Nat) (tabs : List α) :
    (labelFrom first tabs).length = tabs.length := by
  induction tabs generalizing first with
  | nil => rfl
  | cons tab tabs ih => exact congrArg (· + 1) (ih (first + 1))

/-- A bar in any state, each tab of which has its position as its label. -/
def ofBar (bar : TabBar α) : Tracked α :=
  ⟨⟨labelFrom 0 bar.tabs, bar.active, by rw [length_labelFrom]; exact bar.active_lt⟩,
    bar.tabs.length⟩

/-! ## Forgetting the labels -/

theorem map_tab_labelFrom (first : Nat) (tabs : List α) :
    (labelFrom first tabs).map Labelled.tab = tabs := by
  induction tabs generalizing first with
  | nil => rfl
  | cons tab tabs ih => simp [labelFrom, ih]

theorem map_tab_labelled (first : Nat) (step : Step α) :
    (step.labelled first).map Labelled.tab = step := by
  cases step <;> simp [Step.labelled, Step.map, map_tab_labelFrom]

/-- A step with labels is the step of the program, whose faults and results it has. -/
theorem forget_step (copy : α → α) (tracked : Tracked α) (step : Step α) :
    tracked.forget.step copy step =
      (tracked.step copy step).map fun (after, result) => (after.forget, result) := by
  have hmap := map_step Labelled.tab (tracked.copyTab copy) copy tracked.bar
    (step.labelled tracked.fresh) fun position _ => rfl
  rw [map_tab_labelled] at hmap
  rw [forget, hmap, Tracked.step, map_outcome_map]
  rfl

theorem forget_next (copy : α → α) (tracked : Tracked α) (step : Step α) :
    (tracked.next copy step).forget = tracked.forget.next copy step := by
  rw [TabBar.next, forget_step, next]
  cases tracked.step copy step <;> rfl

theorem forget_run (copy : α → α) (tracked : Tracked α) (steps : List (Step α)) :
    (tracked.run copy steps).forget = tracked.forget.run copy steps := by
  induction steps generalizing tracked with
  | nil => rfl
  | cons step steps ih =>
      rw [run, List.foldl_cons, ← run, ih, forget_next]
      rfl

theorem forget_ofList (tabs : List α) (spare : α) :
    (ofList tabs spare).forget = TabBar.ofList tabs spare := by
  cases tabs with
  | nil => rfl
  | cons tab tabs =>
      refine eq_of_tabs_active ?_ rfl
      exact map_tab_labelFrom 0 (tab :: tabs)

theorem forget_ofBar (bar : TabBar α) : (ofBar bar).forget = bar :=
  eq_of_tabs_active (map_tab_labelFrom 0 bar.tabs) rfl

/-! ## Steps with labels -/

/-- A step with labels performs its operation, or is refused and changes nothing. -/
theorem next_cases (copy : α → α) (tracked : Tracked α) (step : Step α) :
    (Performs (tracked.copyTab copy) tracked.bar (step.labelled tracked.fresh)
        (tracked.next copy step).bar ∧
      (tracked.next copy step).fresh = tracked.fresh + step.labelCount) ∨
    tracked.next copy step = tracked := by
  unfold next Tracked.step
  rcases tracked.bar.step_cases (tracked.copyTab copy) (step.labelled tracked.fresh) with
    ⟨after, result, hdone, hperforms⟩ | ⟨fault, hfault, -⟩
  · rw [hdone]
    exact Or.inl ⟨hperforms, rfl⟩
  · rw [hfault]
    exact Or.inr rfl

theorem exists_step_of_performs {copy : α → α} {tracked : Tracked α} {step : Step α}
    {after : TabBar (Labelled α)}
    (h : Performs (tracked.copyTab copy) tracked.bar (step.labelled tracked.fresh) after) :
    ∃ result, tracked.step copy step =
      .ok (⟨after, tracked.fresh + step.labelCount⟩, result) := by
  obtain ⟨result, hstep⟩ := TabBar.exists_step_of_performs h
  exact ⟨result, by rw [Tracked.step, hstep]; rfl⟩

theorem performs_of_step {copy : α → α} {tracked after : Tracked α} {step : Step α}
    {result : Option Nat} (h : tracked.step copy step = .ok (after, result)) :
    Performs (tracked.copyTab copy) tracked.bar (step.labelled tracked.fresh) after.bar ∧
      after.fresh = tracked.fresh + step.labelCount := by
  unfold Tracked.step at h
  cases hstep : tracked.bar.step (tracked.copyTab copy) (step.labelled tracked.fresh) with
  | error fault => simp [hstep, Except.map] at h
  | ok outcome =>
      rw [hstep] at h
      obtain ⟨rfl, -⟩ := Prod.mk.inj (Except.ok.inj h)
      exact ⟨TabBar.performs_of_step hstep, rfl⟩

end Tracked

end TextureCatalog.TabBar

namespace TextureCatalog.Workspace

open TabBar

/-- What a run of steps of the bar does to the bar of a workspace. -/
theorem run_arrange (workspace : Workspace) (steps : List (TabBar.Step (Option Nat))) :
    workspace.run (steps.map .arrange) =
      { workspace with
        bar := workspace.bar.run (Tab.copy workspace.materials)
          (steps.map (TabBar.Step.map (Tab.assign workspace.materials {}))) } := by
  induction steps generalizing workspace with
  | nil => rfl
  | cons step steps ih =>
      have hnext : workspace.next (.arrange step) =
          { workspace with
            bar := workspace.bar.next (Tab.copy workspace.materials)
              (step.map (Tab.assign workspace.materials {})) } := by
        simp only [next, Workspace.step, TabBar.next]
        cases workspace.bar.step (Tab.copy workspace.materials)
          (step.map (Tab.assign workspace.materials {})) <;> rfl
      rw [List.map_cons, run, List.foldl_cons, ← run, hnext, ih]
      rfl

/-- A step of the bar that succeeds is a step with labels that succeeds, whatever the labels are. -/
theorem exists_step_of_forget_eq {workspace after : Workspace} {tracked : Tracked Tab}
    {step : TabBar.Step (Option Nat)} {result : Option Nat}
    (hforget : tracked.forget = workspace.bar)
    (h : workspace.step (.arrange step) = .ok (after, result)) :
    ∃ following, tracked.step (Tab.copy workspace.materials)
        (step.map (Tab.assign workspace.materials {})) = .ok (following, result) ∧
      after = { workspace with bar := following.forget } := by
  have hstep := Tracked.forget_step (Tab.copy workspace.materials) tracked
    (step.map (Tab.assign workspace.materials {}))
  rw [hforget] at hstep
  simp only [Workspace.step, hstep] at h
  cases htracked : tracked.step (Tab.copy workspace.materials)
      (step.map (Tab.assign workspace.materials {})) with
  | error fault =>
      rw [htracked] at h
      exact absurd h (by simp [Except.map])
  | ok outcome =>
      rw [htracked] at h
      obtain ⟨rfl, rfl⟩ := Prod.mk.inj (Except.ok.inj h)
      exact ⟨outcome.1, rfl, rfl⟩

/-- The bar of a session after a run, with a label on every tab. -/
def tracked (materials : List Material) (tabs : List Tab)
    (steps : List (TabBar.Step (Option Nat))) : Tracked Tab :=
  (Tracked.ofList tabs {}).run (Tab.copy materials)
    (steps.map (TabBar.Step.map (Tab.assign materials {})))

theorem tracked_append (materials : List Material) (tabs : List Tab)
    (steps later : List (TabBar.Step (Option Nat))) :
    tracked materials tabs (steps ++ later) =
      (tracked materials tabs steps).run (Tab.copy materials)
        (later.map (TabBar.Step.map (Tab.assign materials {}))) := by
  rw [tracked, List.map_append, Tracked.run, List.foldl_append]
  rfl

/-- Without the labels, that is the bar of the session. -/
theorem forget_tracked (materials : List Material) (tabs : List Tab)
    (steps : List (TabBar.Step (Option Nat))) :
    (tracked materials tabs steps).forget =
      ((ofTabs materials tabs).run (steps.map .arrange)).bar := by
  rw [tracked, Tracked.forget_run, Tracked.forget_ofList, run_arrange]
  rfl

end TextureCatalog.Workspace
