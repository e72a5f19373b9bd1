import TextureCatalog.Session.Tab
import TextureCatalog.Session.TabBar

/-!
# Workspaces

The materials of a session and the bar of its tabs.  Tabs share the materials, so a change of a
material shows in every tab that has it.
-/

namespace TextureCatalog

structure Workspace where
  materials : List Material
  bar : TabBar Tab

namespace Workspace

/-- The workspace of some materials with the given tabs, or with an empty one if there are none. -/
def ofTabs (materials : List Material) (tabs : List Tab) : Workspace :=
  ⟨materials, .ofList tabs {}⟩

/-- One step of a session.  The steps of the bar describe the tabs that they add by their
materials. -/
inductive Step
  | arrange (step : TabBar.Step (Option Nat))
  | editTab (index : Int) (edit : Tab.Edit)
  | renameMaterial (place : Nat) (name : String)
  | addTexture (place : Nat) (texture : Texture)
  | removeTexture (place position : Nat)
  deriving DecidableEq, Repr

def modifyMaterial (workspace : Workspace) (place : Nat) (change : Material → Material) :
    Workspace :=
  { workspace with materials := workspace.materials.modify place change }

/-- Does a step.  Gives the workspace after it, and the position of the tab that was added or
moved. -/
def step (workspace : Workspace) : Step → Except OutOfRange (Workspace × Option Nat)
  | .arrange step =>
    let newTab := Tab.assign workspace.materials {}
    (workspace.bar.step (Tab.copy workspace.materials) (step.map newTab)).map
      fun (bar, position) => ({ workspace with bar }, position)
  | .editTab index edit =>
    (workspace.bar.modify index fun tab => tab.edit workspace.materials edit).map
      fun bar => ({ workspace with bar }, none)
  | .renameMaterial place name =>
    .ok (workspace.modifyMaterial place fun material => { material with name }, none)
  | .addTexture place texture =>
    .ok (workspace.modifyMaterial place fun material =>
      { material with textures := material.textures ++ [texture] }, none)
  | .removeTexture place position =>
    .ok (workspace.modifyMaterial place fun material =>
      { material with textures := material.textures.eraseIdx position }, none)

/-- The workspace after a step; a step that fails changes nothing. -/
def next (workspace : Workspace) (step : Step) : Workspace :=
  match workspace.step step with
  | .ok (after, _) => after
  | .error _ => workspace

def run (workspace : Workspace) (steps : List Step) : Workspace :=
  steps.foldl next workspace

def visible (workspace : Workspace) : Except Query.Fault (List (List Nat)) :=
  workspace.bar.tabs.mapM fun tab => tab.visible workspace.materials

end Workspace

end TextureCatalog
