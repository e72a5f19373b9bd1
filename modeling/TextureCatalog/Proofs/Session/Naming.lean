import TextureCatalog.Proofs.Session.Identity
import TextureCatalog.Proofs.Session.WorkspaceSteps

/-!
# Names of tabs

A copy of a tab does not keep the name of the tab but takes that of its material anew.  It is exact all
the same, because every step of a session keeps the names of tabs and materials together, except for
those that give a name to a tab or to a material.
-/

namespace TextureCatalog

namespace Tab

variable {materials : List Material} {tab : Tab}

/-- The tab has the name of its material, or the one of tabs without a material. -/
def IsNamed (materials : List Material) (tab : Tab) : Prop :=
  tab.name = ((tab.materialIn materials).map Material.name).getD "<no mat>"

theorem isNamed_iff : tab.IsNamed materials ↔ tab.name = nameFor materials tab.material := by
  rw [IsNamed, nameFor, materialIn]
  cases tab.material.bind fun place => materials[place]? <;> rfl

theorem isNamed_assign (materials : List Material) (tab : Tab) (material : Option Nat) :
    (tab.assign materials material).IsNamed materials :=
  isNamed_iff.2 rfl

theorem isNamed_copy (materials : List Material) (tab : Tab) :
    (tab.copy materials).IsNamed materials :=
  isNamed_iff.2 rfl

/-- The copy of a tab that is named by its material is the same tab. -/
theorem IsNamed.copy_eq (h : tab.IsNamed materials) : tab.copy materials = tab := by
  rw [copy, ← isNamed_iff.1 h]

/-- A change of a material that keeps its name keeps the tabs named. -/
theorem IsNamed.modify (h : tab.IsNamed materials) (place : Nat) {change : Material → Material}
    (hname : ∀ material, (change material).name = material.name) :
    tab.IsNamed (materials.modify place change) := by
  have hnames : Material.name ∘ change = Material.name := by
    funext material
    exact hname material
  rw [IsNamed, materialIn_modify]
  split
  · rw [Option.map_map, hnames]
    exact h
  · exact h

/-- The changes of a tab that do not name it. -/
def Edit.LeavesName : Edit → Prop
  | .name _ => False
  | _ => True

theorem IsNamed.edit (h : tab.IsNamed materials) {edit : Edit} (hedit : edit.LeavesName) :
    (tab.edit materials edit).IsNamed materials := by
  cases edit with
  | name => exact absurd hedit id
  | material value => exact isNamed_assign materials tab value
  | searchText | filter | resetResolution | showsFilter => exact h

end Tab

namespace Workspace

variable {workspace after : Workspace} {step : Step}

/-- The steps that give no name to a tab or to a material. -/
def Step.LeavesNames : Step → Prop
  | .editTab _ edit => edit.LeavesName
  | .renameMaterial _ _ => False
  | _ => True

/-- Every tab has the name of its material. -/
def IsNamed (workspace : Workspace) : Prop :=
  ∀ tab ∈ workspace.bar.tabs, tab.IsNamed workspace.materials

theorem isNamed_of_adds {materials : List Material} {added : List Tab}
    {step : TabBar.Step (Option Nat)}
    (h : (step.map (Tab.assign materials {})).Adds (Tab.copy materials) added) :
    ∀ tab ∈ added, tab.IsNamed materials := by
  cases step with
  | add material =>
      obtain rfl : added = _ := h
      exact List.forall_mem_singleton.2 (Tab.isNamed_assign materials {} material)
  | addAll places =>
      obtain rfl : added = _ := h
      exact List.forall_mem_map.2 fun material _ => Tab.isNamed_assign materials {} material
  | duplicate index =>
      obtain ⟨tab, rfl⟩ := h
      exact List.forall_mem_singleton.2 (Tab.isNamed_copy materials tab)
  | activate | close | closeOthers | closeToRight | move =>
      obtain rfl : added = [] := h
      exact List.forall_mem_nil _

/-- A step of the bar leaves tabs that were there and adds tabs that are named. -/
theorem IsNamed.arrange {step : TabBar.Step (Option Nat)} {bar : TabBar Tab}
    (h : workspace.IsNamed)
    (hperforms : TabBar.Performs (Tab.copy workspace.materials) workspace.bar
      (step.map (Tab.assign workspace.materials {})) bar) :
    IsNamed { workspace with bar } := by
  obtain ⟨kept, added, hkept, hperm, hadds, -⟩ := hperforms.exists_kept
  intro tab htab
  rcases List.mem_append.1 (hperm.mem_iff.1 htab) with hbefore | hnew
  · exact h tab (hkept.subset hbefore)
  · exact isNamed_of_adds hadds tab hnew

theorem IsNamed.modifyMaterial (h : workspace.IsNamed) (place : Nat)
    {change : Material → Material} (hname : ∀ material, (change material).name = material.name) :
    (workspace.modifyMaterial place change).IsNamed :=
  fun tab htab => (h tab htab).modify place hname

theorem IsNamed.performs (h : workspace.IsNamed) (hstep : step.LeavesNames)
    (hperforms : workspace.Performs step after) : after.IsNamed := by
  cases hperforms with
  | arrange hbar => exact h.arrange hbar
  | editTab position edit =>
      intro tab htab
      rcases TabBar.mem_modifyAt htab with hbefore | ⟨before, hbefore, rfl⟩
      · exact h tab hbefore
      · exact (h before hbefore).edit hstep
  | renameMaterial => exact absurd hstep id
  | addTexture place | removeTexture place => exact h.modifyMaterial place fun material => rfl

theorem IsNamed.run (h : workspace.IsNamed) {steps : List Step}
    (hsteps : ∀ step ∈ steps, step.LeavesNames) : (workspace.run steps).IsNamed := by
  refine run_induction (fun workspace step hstep hnamed => ?_) hsteps h
  rcases workspace.next_cases step with hperforms | hsame
  · exact hnamed.performs hstep hperforms
  · rwa [hsame]

theorem isNamed_ofTabs {materials : List Material} {tabs : List Tab}
    (h : ∀ tab ∈ tabs, tab.IsNamed materials) : (ofTabs materials tabs).IsNamed := by
  cases tabs with
  | nil => exact List.forall_mem_singleton.2 rfl
  | cons first tabs => exact h

/-- Duplicating a tab that is named puts the same tab right after it. -/
theorem step_duplicate_of_isNamed (h : workspace.IsNamed) (position : workspace.bar.Position) :
    workspace.step (.arrange (.duplicate (position : Nat))) =
      .ok ({ workspace with
        bar := workspace.bar.insertAfter position (workspace.bar.tabs.get position) },
        some (position + 1)) := by
  have hcopy : Tab.copy workspace.materials workspace.bar.tabs[position] =
      workspace.bar.tabs.get position := (h _ (List.get_mem _ position)).copy_eq
  simp only [Workspace.step, TabBar.Step.map, TabBar.step, TabBar.duplicate, TabBar.position_val,
    Except.map, hcopy]
  rfl

/-- As long as only the session gives names, beginning with tabs that were assigned their materials,
every tab has the name of its material.  So a duplicated tab is followed by one that is the same in
every respect, shows the same textures, and changes nothing else. -/
theorem duplicates_are_exact {materials : List Material} {tabs : List Tab}
    (htabs : ∀ tab ∈ tabs, ∃ blank material, tab = Tab.assign materials blank material)
    {steps : List Step} (hsteps : ∀ step ∈ steps, step.LeavesNames) :
    let workspace := (ofTabs materials tabs).run steps
    (∀ tab ∈ workspace.bar.tabs, tab.IsNamed workspace.materials) ∧
      ∀ position tab, workspace.bar.tabs[position]? = some tab →
        ∃ after, workspace.step (.arrange (.duplicate (position : Nat))) =
            .ok (after, some (position + 1)) ∧
          after.bar.tabs = workspace.bar.tabs.insertIdx (position + 1) tab ∧
          after.bar.tabs[position + 1]? = some tab ∧
          after.materials = workspace.materials ∧
          tab.visible after.materials = tab.visible workspace.materials := by
  intro workspace
  have hinitial : (ofTabs materials tabs).IsNamed := isNamed_ofTabs fun tab htab => by
    obtain ⟨blank, material, rfl⟩ := htabs tab htab
    exact Tab.isNamed_assign materials blank material
  have hnamed : workspace.IsNamed := hinitial.run hsteps
  refine ⟨hnamed, fun position tab htab => ?_⟩
  obtain ⟨hposition, rfl⟩ := List.getElem?_eq_some_iff.1 htab
  refine ⟨_, step_duplicate_of_isNamed hnamed ⟨position, hposition⟩, rfl, ?_, rfl, rfl⟩
  exact List.getElem?_insertIdx_self.trans (if_pos hposition)

/-- A tab that was assigned its material late, and a material that changed between. -/
theorem duplicates_are_exact_moss :
    let materials : List Material := [⟨"Moss", "", []⟩, ⟨"Stone", "", []⟩]
    let leaf : Texture := ⟨"", "", "", "Leaf", "", 1024, 1024, "", {}⟩
    let first := Tab.assign materials { searchText := "<2000" } none
    let steps : List Step := [.addTexture 0 leaf, .arrange (.add (some 1)),
      .editTab 0 (.material (some 0)), .removeTexture 0 0, .editTab 0 (.showsFilter true)]
    let moss : Tab := { name := "Moss", material := some 0, searchText := "<2000",
                        showsFilter := true }
    let stone : Tab := { name := "Stone", material := some 1 }
    let workspace := (ofTabs materials [first]).run steps
    ((∀ tab ∈ [first], ∃ blank material, tab = Tab.assign materials blank material) ∧
        ∀ step ∈ steps, step.LeavesNames) ∧
      workspace.bar.tabs = [moss, stone] ∧
      ∃ after, workspace.step (.arrange (.duplicate 0)) = .ok (after, some 1) ∧
        after.bar.tabs = [moss, moss, stone] := by
  intro materials leaf first steps moss stone workspace
  have htabs : ∀ tab ∈ [first], ∃ blank material, tab = Tab.assign materials blank material :=
    List.forall_mem_singleton.2 ⟨_, _, rfl⟩
  have hsteps : ∀ step ∈ steps, step.LeavesNames := by
    simp [steps, Step.LeavesNames, Tab.Edit.LeavesName]
  have hbefore : workspace.bar.tabs = [moss, stone] := by decide +kernel
  have hfirst : workspace.bar.tabs[0]? = some moss := by rw [hbefore]; rfl
  obtain ⟨after, hdone, hafter, -⟩ := (duplicates_are_exact htabs hsteps).2 0 moss hfirst
  refine ⟨⟨htabs, hsteps⟩, hbefore, after, hdone, hafter.trans ?_⟩
  exact congrArg (List.insertIdx · 1 moss) hbefore

/-- A tab does not follow its material when this is renamed, so its copy has another name. -/
example :
    let before := ofTabs [⟨"Moss", "", []⟩] [Tab.assign [⟨"Moss", "", []⟩] {} (some 0)]
    let after := before.run [.renameMaterial 0 "Fern", .arrange (.duplicate 0)]
    after.bar.tabs.map Tab.name = ["Moss", "Fern"] :=
  rfl

end Workspace

end TextureCatalog
