import TextureCatalog.Proofs.Session.Closings

/-!
# Operations on many tabs

To close many tabs at once is to close them one at a time, in any order; and to open many tabs is to
open them one at a time and to go to the first of them.
-/

namespace TextureCatalog.TabBar

variable {α β : Type}

/-! ## Tabs opened one at a time -/

/-- The steps that open tabs one at a time behind so many others, and go to the first of them. -/
def openings (count : Nat) : List β → List (Step β)
  | [] => []
  | added => added.map .add ++ [.activate count]

theorem map_openings (describe : β → α) (count : Nat) (added : List β) :
    (openings count added).map (Step.map describe) = openings count (added.map describe) := by
  cases added <;> simp [openings, Step.map, Function.comp_def]

namespace Tracked

theorem map_closings (describe : β → α) (copy : α → α) (tracked : Tracked α) (order : List Nat) :
    (tracked.closings copy order : List (Step β)).map (Step.map describe) =
      tracked.closings copy order := by
  induction order generalizing tracked with
  | nil => rfl
  | cons label order ih =>
      rw [closings, List.map_cons, ih]
      rfl

theorem exists_perform_adds (copy : α → α) (tracked : Tracked α) (added : List α) :
    ∃ after, tracked.perform copy (added.map .add) = .ok after ∧
      after.bar.tabs = tracked.bar.tabs ++ labelFrom tracked.fresh added ∧
      after.fresh = tracked.fresh + added.length := by
  induction added generalizing tracked with
  | nil => exact ⟨tracked, rfl, (List.append_nil _).symm, rfl⟩
  | cons tab added ih =>
      let next : Tracked α := ⟨tracked.bar.add ⟨tracked.fresh, tab⟩, tracked.fresh + 1⟩
      have hstep : tracked.step copy (.add tab) = .ok (next, some tracked.bar.tabs.length) := rfl
      obtain ⟨after, hperform, htabs, hfresh⟩ := ih next
      refine ⟨after, ?_, ?_, ?_⟩
      · rw [List.map_cons, perform_cons_of_ok hstep, hperform]
      · rw [htabs]
        exact List.append_assoc _ [_] _
      · rw [hfresh, List.length_cons]
        exact Nat.add_right_comm _ _ _

/-- Tabs that are opened one at a time have the same labels as if they were opened at once. -/
theorem perform_openings (copy : α → α) (tracked : Tracked α) (added : List α) :
    tracked.perform copy (openings tracked.bar.tabs.length added) =
      .ok ⟨tracked.bar.addAll (labelFrom tracked.fresh added), tracked.fresh + added.length⟩ := by
  cases added with
  | nil => rfl
  | cons tab others =>
      obtain ⟨after, hperform, htabs, hfresh⟩ := exists_perform_adds copy tracked (tab :: others)
      have hplace : tracked.bar.tabs.length < after.bar.tabs.length := by
        rw [htabs, List.length_append]
        exact Nat.lt_add_of_pos_right (Nat.succ_pos _)
      let first : after.bar.Position := ⟨tracked.bar.tabs.length, hplace⟩
      have hactivate : after.perform copy [.activate (first : Nat)] =
          .ok ⟨after.bar.activateAt first, after.fresh⟩ :=
        perform_singleton_of_performs (.activate first)
      have hbar : after.bar.activateAt first =
          tracked.bar.addAll (labelFrom tracked.fresh (tab :: others)) :=
        eq_of_tabs_active htabs rfl
      have hopenings : openings tracked.bar.tabs.length (tab :: others) =
          (tab :: others).map .add ++ [.activate (first : Nat)] := rfl
      rw [hopenings, perform_append_of_ok hperform, hactivate, hbar, hfresh]

end Tracked

end TextureCatalog.TabBar

namespace TextureCatalog.Workspace

open TabBar

/-! ## Many tabs at once -/

/-- After a run, some steps do together what another step does: none of them fails, and they end
with the same tabs, known by their labels, and with the same one active. -/
structure Replaces (materials : List Material) (tabs : List Tab)
    (steps single : List (TabBar.Step (Option Nat))) (bulk : TabBar.Step (Option Nat)) : Prop where
  performs : ∃ after,
    (tracked materials tabs steps).perform (Tab.copy materials)
        (single.map (TabBar.Step.map (Tab.assign materials {}))) = .ok after ∧
      (tracked materials tabs steps).perform (Tab.copy materials)
        [bulk.map (Tab.assign materials {})] = .ok after
  run_eq : (ofTabs materials tabs).run ((steps ++ single).map .arrange) =
    (ofTabs materials tabs).run ((steps ++ [bulk]).map .arrange)

theorem run_eq_tracked (materials : List Material) (tabs : List Tab)
    (steps : List (TabBar.Step (Option Nat))) :
    (ofTabs materials tabs).run (steps.map .arrange) =
      ⟨materials, (tracked materials tabs steps).forget⟩ := by
  rw [forget_tracked, run_arrange]
  rfl

variable {materials : List Material} {tabs : List Tab}
  {steps : List (TabBar.Step (Option Nat))}

/-- Only the tabs with their labels have to be compared. -/
theorem replaces_of_perform {single : List (TabBar.Step (Option Nat))}
    {bulk : TabBar.Step (Option Nat)} {after : Tracked Tab}
    (hsingle : (tracked materials tabs steps).perform (Tab.copy materials)
      (single.map (TabBar.Step.map (Tab.assign materials {}))) = .ok after)
    (hbulk : (tracked materials tabs steps).perform (Tab.copy materials)
      [bulk.map (Tab.assign materials {})] = .ok after) :
    Replaces materials tabs steps single bulk := by
  refine ⟨⟨after, hsingle, hbulk⟩, ?_⟩
  have hrunSingle := Tracked.run_eq_of_perform hsingle
  have hrunBulk := Tracked.run_eq_of_perform hbulk
  rw [run_eq_tracked, run_eq_tracked, tracked_append, tracked_append, hrunSingle,
    List.map_singleton, hrunBulk]

/-- In every state that a run of steps of the bar reaches: the tabs to the right of a position, or
all but one, can be closed at once or one at a time in any order, and tabs can be opened at once or
one at a time.  The tabs, their labels and the active position are the same in the end. -/
theorem bulk_steps_eq_single_steps (materials : List Material) (tabs : List Tab)
    (steps : List (TabBar.Step (Option Nat))) :
    let reached := tracked materials tabs steps
    reached.forget = ((ofTabs materials tabs).run (steps.map .arrange)).bar ∧
      (∀ (position : reached.bar.Position) (order : List Nat),
        order.Perm (reached.labels.drop (position + 1)) →
          Replaces materials tabs steps (reached.closings (Tab.copy materials) order)
            (.closeToRight (position : Nat))) ∧
      (∀ (position : reached.bar.Position) (order : List Nat),
        order.Perm (reached.labels.eraseIdx position) →
          Replaces materials tabs steps (reached.closings (Tab.copy materials) order)
            (.closeOthers (position : Nat))) ∧
      ∀ added : List (Option Nat),
        Replaces materials tabs steps (openings reached.bar.tabs.length added)
          (.addAll added) := by
  intro reached
  have hsound : reached.Sound := sound_tracked materials tabs steps
  refine ⟨forget_tracked materials tabs steps, fun position order horder => ?_,
    fun position order horder => ?_, fun added => ?_⟩
  · have hclosings := Tracked.perform_closings_right (Tab.copy materials) hsound.nodup position
      horder
    rw [← Tracked.map_closings (Tab.assign materials {})] at hclosings
    exact replaces_of_perform hclosings
      (Tracked.perform_singleton_of_performs (.closeToRight position))
  · have hclosings := Tracked.perform_closings_others (Tab.copy materials) hsound.nodup position
      horder
    rw [← Tracked.map_closings (Tab.assign materials {})] at hclosings
    exact replaces_of_perform hclosings
      (Tracked.perform_singleton_of_performs (.closeOthers position))
  · have hopenings := Tracked.perform_openings (Tab.copy materials) reached
      (added.map (Tab.assign materials {}))
    rw [← map_openings] at hopenings
    exact replaces_of_perform hopenings (Tracked.perform_singleton_of_performs (.addAll _))

/-- Of four tabs the last one is active.  The three behind the first are closed in a mixed order,
and so are the three others than the third; and two more are opened. -/
theorem bulk_steps_eq_single_steps_of_four :
    let tabs : List Tab := [{}, {}, {}, {}]
    let steps : List (TabBar.Step (Option Nat)) := [.activate 3]
    Replaces [] tabs steps [.close 3, .close 1, .close 1] (.closeToRight 0) ∧
      Replaces [] tabs steps [.close 3, .close 0, .close 0] (.closeOthers 2) ∧
      Replaces [] tabs steps [.add none, .add none, .activate 4] (.addAll [none, none]) := by
  intro tabs steps
  have hclosingsRight : (tracked [] tabs steps).closings (Tab.copy []) [3, 1, 2] =
      ([.close 3, .close 1, .close 1] : List (TabBar.Step (Option Nat))) := by
    decide +kernel
  have hclosingsOthers : (tracked [] tabs steps).closings (Tab.copy []) [3, 0, 1] =
      ([.close 3, .close 0, .close 0] : List (TabBar.Step (Option Nat))) := by
    decide +kernel
  obtain ⟨-, hright, hothers, hadded⟩ := bulk_steps_eq_single_steps [] tabs steps
  refine ⟨?_, ?_, hadded [none, none]⟩
  · rw [← hclosingsRight]
    exact hright ⟨0, by decide⟩ [3, 1, 2] (by decide +kernel)
  · rw [← hclosingsOthers]
    exact hothers ⟨2, by decide⟩ [3, 0, 1] (by decide +kernel)

end TextureCatalog.Workspace
