import TextureCatalog.Proofs.Session.Identity

/-!
# Changes of single tabs

A step of the bar does not look into the tabs that it keeps.  So it makes no difference whether a tab
is changed before the step, or after it at the place where the tab then stands.  Only if the step
copies this tab, the copy tells whether the change came first.
-/

namespace TextureCatalog.TabBar

variable {α : Type}

/-! ## Changing the tab with a label -/

/-- The tab changed, if it has the label. -/
def Labelled.changeAt (label : Nat) (change : α → α) (tab : Labelled α) : Labelled α :=
  if tab.label = label then { tab with tab := change tab.tab } else tab

namespace Labelled

variable {label : Nat} {change : α → α} {tab : Labelled α}

theorem changeAt_of_eq (h : tab.label = label) :
    tab.changeAt label change = { tab with tab := change tab.tab } :=
  if_pos h

theorem changeAt_of_ne (h : tab.label ≠ label) : tab.changeAt label change = tab :=
  if_neg h

end Labelled

theorem map_changeAt_labelFrom {first label : Nat} (h : label < first) (change : α → α)
    (tabs : List α) :
    (labelFrom first tabs).map (Labelled.changeAt label change) = labelFrom first tabs := by
  induction tabs generalizing first with
  | nil => rfl
  | cons tab tabs ih =>
      have hother : Labelled.changeAt label change ⟨first, tab⟩ = ⟨first, tab⟩ :=
        Labelled.changeAt_of_ne (Nat.ne_of_gt h)
      rw [labelFrom, List.map_cons, hother, ih (Nat.lt_succ_of_lt h)]

/-- A step brings no tab whose label has been given before. -/
theorem map_changeAt_labelled {first label : Nat} (h : label < first) (change : α → α)
    (step : Step α) :
    (step.labelled first).map (Labelled.changeAt label change) = step.labelled first := by
  cases step with
  | add tab =>
      have hother : Labelled.changeAt label change ⟨first, tab⟩ = ⟨first, tab⟩ :=
        Labelled.changeAt_of_ne (Nat.ne_of_gt h)
      rw [Step.labelled, Step.map, hother]
  | addAll tabs => rw [Step.labelled, Step.map, map_changeAt_labelFrom h]
  | _ => rfl

/-- Without the labels, the tab at the place of the label has been changed. -/
theorem map_tab_changeAt {tabs : List (Labelled α)} (hnodup : (tabs.map Labelled.label).Nodup)
    {place label : Nat} (hplace : (tabs.map Labelled.label)[place]? = some label)
    (change : α → α) :
    (tabs.map (Labelled.changeAt label change)).map Labelled.tab =
      (tabs.map Labelled.tab).modify place change := by
  apply List.ext_getElem?
  intro index
  rw [List.getElem?_modify, List.getElem?_map, List.getElem?_map, List.getElem?_map]
  cases htab : tabs[index]? with
  | none => rfl
  | some tab =>
      have hlabel : (tabs.map Labelled.label)[index]? = some tab.label := by
        rw [List.getElem?_map, htab]
        rfl
      by_cases hindex : place = index
      · have hsame : tab.label = label := by
          rw [← hindex, hplace] at hlabel
          exact (Option.some.inj hlabel).symm
        simp [hindex, Labelled.changeAt_of_eq hsame]
      · have hother : tab.label ≠ label := by
          rintro rfl
          have hlt := (List.getElem?_eq_some_iff.1 hplace).1
          exact hindex ((List.getElem?_inj hlt hnodup).1 (hplace.trans hlabel.symm))
        simp [hindex, Labelled.changeAt_of_ne hother]

namespace Tracked

variable {copy change : α → α} {tracked after : Tracked α} {step : Step α} {result : Option Nat}
  {label position place : Nat}

/-- The bar with the tab that has a label changed. -/
def changeAt (tracked : Tracked α) (label : Nat) (change : α → α) : Tracked α :=
  { tracked with bar := tracked.bar.map (Labelled.changeAt label change) }

/-- To change the tab at a place is to change the tab with the label that stands there. -/
theorem modify_forget (hnodup : tracked.labels.Nodup) (hplace : tracked.labels[place]? = some label)
    (change : α → α) :
    tracked.forget.modify (place : Nat) change = .ok (tracked.changeAt label change).forget := by
  have hlength : tracked.forget.tabs.length = tracked.labels.length :=
    (List.length_map _).trans (List.length_map _).symm
  have hlt : place < tracked.forget.tabs.length :=
    hlength ▸ (List.getElem?_eq_some_iff.1 hplace).1
  have hposition := tracked.forget.position_val ⟨place, hlt⟩
  rw [modify, hposition]
  exact congrArg Except.ok (eq_of_tabs_active (map_tab_changeAt hnodup hplace change).symm rfl)

/-- A step that does not copy the tab with a label does the same after a change of this tab. -/
theorem step_changeAt (hlabel : label < tracked.fresh)
    (hcopy : ∀ position : tracked.bar.Position, step = .duplicate (position : Nat) →
      (tracked.bar.tabs.get position).label ≠ label) :
    (tracked.changeAt label change).step copy step =
      (tracked.step copy step).map fun (after, result) => (after.changeAt label change, result) := by
  have hmap := map_step (Labelled.changeAt label change) (tracked.copyTab copy)
    (tracked.copyTab copy) tracked.bar (step.labelled tracked.fresh) fun position hduplicate => by
      have hstep : step = .duplicate (position : Nat) := by
        cases step <;> simp_all [Step.labelled]
      have hnew : (tracked.copyTab copy (tracked.bar.tabs.get position)).label ≠ label :=
        Nat.ne_of_gt hlabel
      rw [Labelled.changeAt_of_ne (hcopy position hstep), Labelled.changeAt_of_ne hnew]
  rw [map_changeAt_labelled hlabel] at hmap
  rw [Tracked.step, Tracked.step, map_outcome_map]
  exact (congrArg _ hmap).trans (map_outcome_map _ _ _)

/-- A tab can be changed before a step, or after it at the place to which the step takes it. -/
theorem exists_modify_step (hsound : tracked.Sound)
    (h : tracked.step copy step = .ok (after, result))
    (hposition : tracked.labels[position]? = some label)
    (hplace : after.labels[place]? = some label) (hcopy : step ≠ .duplicate (position : Nat))
    (change : α → α) :
    ∃ changed final, tracked.forget.modify (position : Nat) change = .ok changed ∧
      changed.step copy step = .ok (final, result) ∧
      after.forget.modify (place : Nat) change = .ok final := by
  have hlabel : label < tracked.fresh := hsound.lt_fresh _ (List.mem_of_getElem? hposition)
  have hafter : after.Sound := by
    have hnext : tracked.next copy step = after := by rw [next, h]
    exact hnext ▸ sound_next copy hsound step
  have hothers : ∀ other : tracked.bar.Position, step = .duplicate (other : Nat) →
      (tracked.bar.tabs.get other).label ≠ label := by
    rintro other rfl hsame
    have hother : tracked.labels[other.val]? = some label := by
      rw [labels, List.getElem?_map, List.getElem?_eq_getElem other.isLt]
      exact congrArg some hsame
    have hlt := (List.getElem?_eq_some_iff.1 hother).1
    have hindex := (List.getElem?_inj hlt hsound.nodup).1 (hother.trans hposition.symm)
    exact hcopy (by rw [hindex])
  refine ⟨(tracked.changeAt label change).forget, (after.changeAt label change).forget,
    modify_forget hsound.nodup hposition change, ?_, modify_forget hafter.nodup hplace change⟩
  rw [forget_step, step_changeAt hlabel hothers, h]
  rfl

end Tracked

end TextureCatalog.TabBar

namespace TextureCatalog.Workspace

open TabBar

/-- In every state: after a step of the bar that succeeds, a tab that was there before and is not the
one that the step copies can be edited at the place where it then stands, or it can be edited first
and the step done after that.  Both lead to the same state, and the step has the same result.  Which
tab stands where is told by labels, which are the positions before the step. -/
theorem tab_edits_commute_with_arranging {workspace after : Workspace}
    {step : TabBar.Step (Option Nat)} {result : Option Nat}
    (h : workspace.step (.arrange step) = .ok (after, result)) :
    let before := Tracked.ofBar workspace.bar
    let following := before.next (Tab.copy workspace.materials)
      (step.map (Tab.assign workspace.materials {}))
    before.labels = List.range' 0 workspace.bar.tabs.length ∧
      before.forget = workspace.bar ∧ following.forget = after.bar ∧ following.labels.Nodup ∧
      ∀ position < workspace.bar.tabs.length, ∀ place, following.labels[place]? = some position →
        step ≠ .duplicate (position : Nat) → ∀ edit, ∃ edited final,
          workspace.step (.editTab (position : Nat) edit) = .ok (edited, none) ∧
          edited.step (.arrange step) = .ok (final, result) ∧
          after.step (.editTab (place : Nat) edit) = .ok (final, none) := by
  intro before following
  have hsound : before.Sound := Tracked.sound_ofBar workspace.bar
  have hlabels : before.labels = List.range' 0 workspace.bar.tabs.length :=
    Tracked.labels_ofBar workspace.bar
  have hforget : before.forget = workspace.bar := Tracked.forget_ofBar workspace.bar
  obtain ⟨reached, hstep, rfl⟩ := exists_step_of_forget_eq hforget h
  have hfollowing : following = reached := by
    change before.next _ _ = reached
    rw [Tracked.next, hstep]
  have hreached : following.Sound := Tracked.sound_next _ hsound _
  refine ⟨hlabels, hforget, by rw [hfollowing], hreached.nodup, ?_⟩
  intro position hposition place hplace hcopy edit
  have hlabel : before.labels[position]? = some position := by
    rw [hlabels, List.getElem?_range' hposition]
    simp
  have hnotCopied : step.map (Tab.assign workspace.materials {}) ≠ .duplicate (position : Nat) := by
    cases step <;> simp_all [TabBar.Step.map]
  obtain ⟨changed, final, hchanged, hthen, hlater⟩ := Tracked.exists_modify_step hsound hstep hlabel
    (hfollowing ▸ hplace) hnotCopied fun tab => tab.edit workspace.materials edit
  rw [hforget] at hchanged
  refine ⟨{ workspace with bar := changed }, { workspace with bar := final }, ?_, ?_, ?_⟩
  · rw [Workspace.step, hchanged]
    rfl
  · simp only [Workspace.step]
    rw [hthen]
    rfl
  · simp only [Workspace.step]
    rw [hlater]
    rfl

/-- The first of three tabs is moved to the end, and its material is changed before or after that. -/
theorem tab_edits_commute_with_arranging_moved :
    let materials : List Material := [⟨"Moss", "", []⟩, ⟨"Stone", "", []⟩]
    let workspace := ofTabs materials [Tab.assign materials {} (some 0), {}, {}]
    let step : TabBar.Step (Option Nat) := .move 0 3
    let edit : Tab.Edit := .material (some 1)
    ((Tracked.ofBar workspace.bar).next (Tab.copy materials)
        (step.map (Tab.assign materials {}))).labels = [1, 2, 0] ∧
      step ≠ .duplicate 0 ∧
      ∃ after edited final, workspace.step (.arrange step) = .ok (after, some 2) ∧
        workspace.step (.editTab 0 edit) = .ok (edited, none) ∧
        edited.step (.arrange step) = .ok (final, some 2) ∧
        after.step (.editTab 2 edit) = .ok (final, none) ∧
        final.bar.tabs.map Tab.name = ["<no mat>", "<no mat>", "Stone"] := by
  intro materials workspace step edit
  let after : Workspace := ⟨materials, [{}, {}, Tab.assign materials {} (some 0)], 2, by decide⟩
  let last : Workspace := ⟨materials, [{}, {}, Tab.assign materials {} (some 1)], 2, by decide⟩
  have hstep : workspace.step (.arrange step) = .ok (after, some 2) := rfl
  have hlast : after.step (.editTab 2 edit) = .ok (last, none) := rfl
  have hplaces : ((Tracked.ofBar workspace.bar).next (Tab.copy materials)
      (step.map (Tab.assign materials {}))).labels = [1, 2, 0] := by decide
  obtain ⟨-, -, -, -, hcommutes⟩ := tab_edits_commute_with_arranging hstep
  obtain ⟨edited, final, hedited, hthen, hlater⟩ :=
    hcommutes 0 (by decide) 2 (congrArg (fun labels => labels[2]?) hplaces) (by decide) edit
  obtain ⟨rfl, -⟩ := Prod.mk.inj (Except.ok.inj (hlater.symm.trans hlast))
  exact ⟨hplaces, by decide, after, edited, last, hstep, hedited, hthen, hlater, rfl⟩

end TextureCatalog.Workspace
