import TextureCatalog.Proofs.Session.Steps
import TextureCatalog.Session.Workspace

/-!
# Steps of workspaces

What a step of a session does, said once: it arranges the bar, changes one tab or changes one
material, or it fails and changes nothing.  What every step keeps is kept by every run.  A change of a
material is a change of the material of every tab that has it.
-/

namespace TextureCatalog

/-- A tab of a bar in which one tab was changed is a tab from before or a changed one. -/
theorem TabBar.mem_modifyAt {α : Type} {bar : TabBar α} {position : bar.Position} {change : α → α}
    {tab : α} (h : tab ∈ (bar.modifyAt position change).tabs) :
    tab ∈ bar.tabs ∨ ∃ before ∈ bar.tabs, change before = tab := by
  obtain ⟨index, hindex⟩ := List.mem_iff_getElem?.1 h
  rw [modifyAt, List.getElem?_modify] at hindex
  obtain ⟨before, hbefore, hchanged⟩ := Option.map_eq_some_iff.1 hindex
  have hmem := List.mem_of_getElem? hbefore
  split at hchanged
  · exact Or.inr ⟨before, hmem, hchanged⟩
  · exact Or.inl (hchanged ▸ hmem)

namespace Tab

/-- The material of a tab, if it has one. -/
def materialIn (materials : List Material) (tab : Tab) : Option Material :=
  tab.material.bind fun place => materials[place]?

/-- A change of the material at a place changes the material of the tabs that have it. -/
theorem materialIn_modify (materials : List Material) (tab : Tab) (place : Nat)
    (change : Material → Material) :
    tab.materialIn (materials.modify place change) =
      if tab.material = some place then (tab.materialIn materials).map change
      else tab.materialIn materials := by
  rw [materialIn, materialIn]
  cases tab.material with
  | none => rfl
  | some other =>
      rw [Option.bind_some, Option.bind_some, List.getElem?_modify]
      by_cases hplace : place = other
      · simp [hplace]
      · have hother : other ≠ place := fun h => hplace h.symm
        simp [hplace, hother]

end Tab

namespace Workspace

variable {workspace : Workspace}

/-- The steps that succeed, with the workspaces to which they lead. -/
inductive Performs (workspace : Workspace) : Step → Workspace → Prop
  | arrange {step : TabBar.Step (Option Nat)} {bar : TabBar Tab} :
      TabBar.Performs (Tab.copy workspace.materials) workspace.bar
        (step.map (Tab.assign workspace.materials {})) bar →
      Performs workspace (.arrange step) { workspace with bar }
  | editTab (position : workspace.bar.Position) (edit : Tab.Edit) :
      Performs workspace (.editTab (position : Nat) edit)
        { workspace with
          bar := workspace.bar.modifyAt position fun tab => tab.edit workspace.materials edit }
  | renameMaterial (place : Nat) (name : String) :
      Performs workspace (.renameMaterial place name)
        (workspace.modifyMaterial place fun material => { material with name })
  | addTexture (place : Nat) (texture : Texture) :
      Performs workspace (.addTexture place texture)
        (workspace.modifyMaterial place fun material =>
          { material with textures := material.textures ++ [texture] })
  | removeTexture (place position : Nat) :
      Performs workspace (.removeTexture place position)
        (workspace.modifyMaterial place fun material =>
          { material with textures := material.textures.eraseIdx position })

/-- A step succeeds by performing its operation, or it fails. -/
theorem step_cases (workspace : Workspace) (step : Step) :
    (∃ after result, workspace.step step = .ok (after, result) ∧ workspace.Performs step after) ∨
      ∃ fault, workspace.step step = .error fault := by
  cases step with
  | arrange step =>
      simp only [Workspace.step]
      cases hstep : workspace.bar.step (Tab.copy workspace.materials)
          (step.map (Tab.assign workspace.materials {})) with
      | ok outcome => exact Or.inl ⟨_, _, rfl, .arrange (TabBar.performs_of_step hstep)⟩
      | error fault => exact Or.inr ⟨fault, rfl⟩
  | editTab index edit =>
      simp only [Workspace.step, TabBar.modify]
      rcases workspace.bar.map_position_cases index fun position =>
          workspace.bar.modifyAt position fun tab => tab.edit workspace.materials edit with
        ⟨position, rfl, hdone⟩ | ⟨-, hfault⟩
      · exact Or.inl ⟨_, none, by rw [hdone]; rfl, .editTab position edit⟩
      · exact Or.inr ⟨_, by rw [hfault]; rfl⟩
  | renameMaterial place name => exact Or.inl ⟨_, _, rfl, .renameMaterial place name⟩
  | addTexture place texture => exact Or.inl ⟨_, _, rfl, .addTexture place texture⟩
  | removeTexture place position => exact Or.inl ⟨_, _, rfl, .removeTexture place position⟩

/-- A step performs its operation, or it changes nothing. -/
theorem next_cases (workspace : Workspace) (step : Step) :
    workspace.Performs step (workspace.next step) ∨ workspace.next step = workspace := by
  unfold next
  rcases workspace.step_cases step with ⟨after, result, hdone, hperforms⟩ | ⟨fault, hfault⟩
  · rw [hdone]
    exact Or.inl hperforms
  · rw [hfault]
    exact Or.inr rfl

/-- What every permitted step keeps is kept by every run of them. -/
theorem run_induction {Kept : Workspace → Prop} {Permitted : Step → Prop}
    (hstep : ∀ workspace step, Permitted step → Kept workspace → Kept (workspace.next step))
    {steps : List Step} (hsteps : ∀ step ∈ steps, Permitted step) (h : Kept workspace) :
    Kept (workspace.run steps) := by
  induction steps generalizing workspace with
  | nil => exact h
  | cons step steps ih =>
      have hnext := hstep workspace step (hsteps step List.mem_cons_self) h
      exact ih (fun later hlater => hsteps later (List.mem_cons_of_mem _ hlater)) hnext

end Workspace

end TextureCatalog
