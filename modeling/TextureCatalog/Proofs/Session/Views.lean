import TextureCatalog.Proofs.Query.Positions
import TextureCatalog.Proofs.Session.WorkspaceSteps

/-!
# What tabs show

What a tab shows can be kept up to date without searching again.  A texture that is added to its
material is searched alone, the position of one that is removed is taken out, and nothing else
concerns a tab that is not changed itself.
-/

namespace TextureCatalog

section Searching

variable {query : String} {filter : Filter} {textures : List Texture} {positions : List Nat}

theorem searchPositions_append_singleton (h : searchPositions textures query filter = .ok positions)
    (texture : Texture) :
    searchPositions (textures ++ [texture]) query filter =
      (search [texture] query filter).map fun found =>
        if found.isEmpty then positions else positions ++ [textures.length] := by
  rw [searchPositions_append, h, search_eq_map_searchPositions]
  obtain ⟨keeps, htest, hanswers⟩ | ⟨fault, -, hfails⟩ := answers_or_fails [texture] query filter
  · rw [searchPositions_of_answers htest hanswers, positionsOf_cons]
    cases passesBoth keeps filter texture <;>
      simp [positionsOf, Except.map, bind, Except.bind, pure, Except.pure]
  · rw [hfails]
    rfl

theorem searchPositions_eraseIdx (h : searchPositions textures query filter = .ok positions)
    (removed : Nat) :
    searchPositions (textures.eraseIdx removed) query filter =
      .ok (positionsWithout removed positions) := by
  obtain ⟨keeps, htest, hanswers⟩ | ⟨fault, -, hfails⟩ := answers_or_fails textures query filter
  · rw [searchPositions_of_answers htest hanswers] at h
    obtain rfl := Except.ok.inj h
    rw [searchPositions_of_answers htest fun texture htexture =>
      hanswers texture (List.mem_of_mem_eraseIdx htexture), positionsOf_eraseIdx]
  · rw [hfails] at h
    cases h

end Searching

namespace Tab

variable {materials : List Material} {tab : Tab} {material : Material} {shown : List Nat}

/-- Whether a texture passes the search and the filters of the tab. -/
def finds (tab : Tab) (texture : Texture) : Except Query.Fault Bool :=
  (search [texture] tab.searchText tab.filter).map fun found => !found.isEmpty

theorem visible_of_none (h : tab.materialIn materials = none) : tab.visible materials = .ok [] := by
  rw [materialIn] at h
  rw [visible, h]

theorem visible_of_some (h : tab.materialIn materials = some material) :
    tab.visible materials = searchPositions material.textures tab.searchText tab.filter := by
  rw [materialIn] at h
  rw [visible, h]

/-- What a tab shows depends on no other material. -/
theorem visible_congr {others : List Material}
    (h : tab.materialIn others = tab.materialIn materials) :
    tab.visible others = tab.visible materials := by
  unfold materialIn at h
  rw [visible, visible, h]

/-- A tab whose search text can be read shows something, if only nothing, where all dimensions can
be written. -/
theorem exists_visible_eq_ok (h : Query.Readable tab.searchText)
    (hnumerals : ∀ material ∈ materials, ∀ texture ∈ material.textures, texture.HasNumerals) :
    ∃ shown, tab.visible materials = .ok shown := by
  cases hmaterial : tab.materialIn materials with
  | none => exact ⟨[], visible_of_none hmaterial⟩
  | some material =>
      obtain ⟨place, -, hplace⟩ := Option.bind_eq_some_iff.1 hmaterial
      rw [visible_of_some hmaterial]
      exact exists_searchPositions_eq_ok h (hnumerals material (List.mem_of_getElem? hplace)) _

theorem exists_finds_eq_ok (h : Query.Readable tab.searchText) {texture : Texture}
    (hnumerals : texture.HasNumerals) : ∃ found, tab.finds texture = .ok found := by
  obtain ⟨positions, hpositions⟩ :=
    exists_searchPositions_eq_ok h (List.forall_mem_singleton.2 hnumerals) tab.filter
  rw [finds, search_eq_map_searchPositions, hpositions]
  exact ⟨_, rfl⟩

/-- What a tab shows after a change of the material at a place, where `update` is what the change
does to the positions that are shown of this material. -/
def shownAt (materials : List Material) (tab : Tab) (place : Nat)
    (update : Material → List Nat → Except Query.Fault (List Nat)) (shown : List Nat) :
    Except Query.Fault (List Nat) :=
  match materials[place]? with
  | none => .ok shown
  | some material => if tab.material = some place then update material shown else .ok shown

theorem shownAt_of_eq_some {place : Nat} (h : materials[place]? = some material)
    (update : Material → List Nat → Except Query.Fault (List Nat)) (shown : List Nat) :
    tab.shownAt materials place update shown =
      if tab.material = some place then update material shown else .ok shown := by
  rw [shownAt, h]

theorem shownAt_of_ne {place : Nat} (h : tab.material ≠ some place)
    (update : Material → List Nat → Except Query.Fault (List Nat)) :
    tab.shownAt materials place update shown = .ok shown := by
  rw [shownAt]
  cases materials[place]? with
  | none => rfl
  | some material => exact if_neg h

/-- A change of a material does nothing to tabs that have another one. -/
theorem visible_modify_of_ne {place : Nat} (h : tab.material ≠ some place)
    (change : Material → Material) :
    tab.visible (materials.modify place change) = tab.visible materials := by
  have hafter := materialIn_modify materials tab place change
  rw [if_neg h] at hafter
  exact visible_congr hafter

/-- A change of a material does to what its tabs show what it does to the positions in a search, and
it does nothing to other tabs. -/
theorem visible_modify (materials : List Material) (tab : Tab) (place : Nat)
    {change : Material → Material}
    {update : Material → List Nat → Except Query.Fault (List Nat)}
    (hupdate : ∀ material shown,
      searchPositions material.textures tab.searchText tab.filter = .ok shown →
        searchPositions (change material).textures tab.searchText tab.filter =
          update material shown)
    (hshown : tab.visible materials = .ok shown) :
    tab.visible (materials.modify place change) = tab.shownAt materials place update shown := by
  by_cases hplace : tab.material = some place
  · have hafter := materialIn_modify materials tab place change
    have hbefore : tab.materialIn materials = materials[place]? := by rw [materialIn, hplace]; rfl
    rw [if_pos hplace, hbefore] at hafter
    cases hmaterial : materials[place]? with
    | none =>
        rw [hmaterial] at hbefore hafter
        rw [visible_of_none hafter, shownAt, hmaterial, ← hshown, visible_of_none hbefore]
    | some material =>
        rw [hmaterial] at hbefore hafter
        rw [visible_of_some hbefore] at hshown
        rw [visible_of_some hafter, hupdate material shown hshown, shownAt_of_eq_some hmaterial,
          if_pos hplace]
  · rw [visible_modify_of_ne hplace, shownAt_of_ne hplace, hshown]

/-- What a tab shows after a step of the session that leaves the tab alone. -/
def shownAfter (materials : List Material) (tab : Tab) (step : Workspace.Step)
    (shown : List Nat) : Except Query.Fault (List Nat) :=
  match step with
  | .addTexture place texture =>
    tab.shownAt materials place (fun material shown =>
      (tab.finds texture).map fun found =>
        if found then shown ++ [material.textures.length] else shown) shown
  | .removeTexture place position =>
    tab.shownAt materials place (fun _ shown => .ok (positionsWithout position shown)) shown
  | .renameMaterial _ _ | .arrange _ | .editTab _ _ => .ok shown

end Tab

namespace Workspace

theorem materials_next_arrange (workspace : Workspace) (step : TabBar.Step (Option Nat)) :
    (workspace.next (.arrange step)).materials = workspace.materials := by
  rw [next, Workspace.step]
  cases workspace.bar.step _ _ <;> rfl

theorem materials_next_editTab (workspace : Workspace) (index : Int) (edit : Tab.Edit) :
    (workspace.next (.editTab index edit)).materials = workspace.materials := by
  rw [next, Workspace.step]
  cases workspace.bar.modify _ _ <;> rfl

/-- What a tab shows after a step is told by what it showed before, without another search of its
material. -/
theorem visible_next {workspace : Workspace} {tab : Tab} {shown : List Nat} (step : Step)
    (hshown : tab.visible workspace.materials = .ok shown) :
    tab.visible (workspace.next step).materials =
      tab.shownAfter workspace.materials step shown := by
  cases step with
  | arrange step => rw [materials_next_arrange, hshown, Tab.shownAfter]
  | editTab index edit => rw [materials_next_editTab, hshown, Tab.shownAfter]
  | renameMaterial place name =>
      have hvisible : tab.visible (workspace.next (.renameMaterial place name)).materials =
          tab.shownAt workspace.materials place (fun _ => .ok) shown :=
        tab.visible_modify workspace.materials place (fun _ _ h => h) hshown
      rw [hvisible, Tab.shownAfter, Tab.shownAt]
      cases workspace.materials[place]? with
      | none => rfl
      | some material => exact ite_self _
  | addTexture place texture =>
      rw [Tab.shownAfter]
      refine tab.visible_modify workspace.materials place (fun material shown h => ?_) hshown
      rw [searchPositions_append_singleton h, Tab.finds]
      cases search [texture] tab.searchText tab.filter with
      | error fault => rfl
      | ok found => cases found <;> rfl
  | removeTexture place position =>
      rw [Tab.shownAfter]
      exact tab.visible_modify workspace.materials place
        (fun _ _ h => searchPositions_eraseIdx h position) hshown

/-- What a tab shows after steps that leave the tab alone, told from step to step. -/
def shownAfter (workspace : Workspace) (tab : Tab) :
    List Step → List Nat → Except Query.Fault (List Nat)
  | [], shown => .ok shown
  | step :: steps, shown =>
    (tab.shownAfter workspace.materials step shown).bind
      ((workspace.next step).shownAfter tab steps)

/-- So it is after a run, as long as the tab is left alone and shows something after each step. -/
theorem visible_run {workspace : Workspace} {tab : Tab} {steps : List Step}
    {shown shownLast : List Nat} (hshown : tab.visible workspace.materials = .ok shown)
    (hlast : workspace.shownAfter tab steps shown = .ok shownLast) :
    tab.visible (workspace.run steps).materials = .ok shownLast := by
  induction steps generalizing workspace shown with
  | nil => exact hshown.trans hlast
  | cons step steps ih =>
      have hstep := visible_next step hshown
      rw [shownAfter] at hlast
      cases hnext : tab.shownAfter workspace.materials step shown with
      | error fault =>
          rw [hnext] at hlast
          cases hlast
      | ok shownNext =>
          rw [hnext] at hlast hstep
          exact ih hstep hlast

end Workspace

end TextureCatalog
