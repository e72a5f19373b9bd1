import TextureCatalog.Proofs.Session.Identity

/-!
# Which tab is active

Every operation repairs the active position in its own way.  Said of the tabs themselves, closing
and moving tabs leave the active one active as long as it is there; a closed one hands over to the
tab after it, or to the one before it at the end of the row; and new tabs become active.
-/

namespace TextureCatalog.TabBar

variable {α β : Type}

/-! ## Operations at positions -/

theorem activeTab_eq_of_getElem? {bar : TabBar α} {tab : α}
    (h : bar.tabs[bar.active]? = some tab) : bar.activeTab = tab := by
  rw [getElem?_active] at h
  exact Option.some.inj h

/-- The only tab is not closed. -/
theorem closeAt_of_length_le {bar : TabBar α} (h : bar.tabs.length ≤ 1)
    (position : bar.Position) : bar.closeAt position = bar := by
  simp [closeAt, h]

/-- What stands at the active position once a tab has been taken out. -/
theorem getElem?_closeAt_active {bar : TabBar α} (h : ¬ bar.tabs.length ≤ 1)
    (position : bar.Position) :
    (bar.closeAt position).tabs[(bar.closeAt position).active]? =
      if bar.active = position then
        if position + 1 < bar.tabs.length then bar.tabs[position.val + 1]?
        else bar.tabs[position.val - 1]?
      else bar.tabs[bar.active]? := by
  have hactive := bar.active_lt
  have hposition := position.isLt
  simp only [closeAt, h, dite_false, List.getElem?_eraseIdx, activeAfterClosing]
  by_cases hsame : bar.active = position
  · simp only [hsame, if_true]
    by_cases hlast : position.val + 1 < bar.tabs.length
    · have hnotLast : ¬ bar.tabs.length - 1 ≤ position.val := by omega
      simp [hlast, hnotLast]
    · have hisLast : bar.tabs.length - 1 ≤ position.val := by omega
      have hindex : bar.tabs.length - 1 - 1 = position.val - 1 := by omega
      have hbefore : position.val - 1 < position.val := by omega
      simp only [hlast, hisLast, hindex, hbefore, if_true, if_false]
  · simp only [hsame, if_false]
    by_cases hlast : bar.tabs.length - 1 ≤ bar.active
    · -- The active tab is the last one, and a tab before it is closed.
      have hbefore : ¬ bar.tabs.length - 1 - 1 < position.val := by omega
      have hindex : bar.tabs.length - 1 - 1 + 1 = bar.active := by omega
      simp [hlast, hbefore, hindex]
    · by_cases hleft : position.val < bar.active
      · have hbefore : ¬ bar.active - 1 < position.val := by omega
        have hindex : bar.active - 1 + 1 = bar.active := by omega
        simp [hlast, hleft, hbefore, hindex]
      · have hright : bar.active < position.val := by omega
        simp [hlast, hleft, hright]

/-- What stood at a position before a tab was taken from `source` and put at `destination` is then
found where the active position goes. -/
theorem getElem?_moved {tabs : List α} {source destination : Nat} (hsource : source < tabs.length)
    (hdestination : destination < tabs.length) (position : Nat) :
    ((tabs.eraseIdx source).insertIdx destination tabs[source])[
      activeAfterMoving position source destination]? = tabs[position]? := by
  have hlength : (tabs.eraseIdx source).length = tabs.length - 1 :=
    List.length_eraseIdx_of_lt hsource
  rw [List.getElem?_insertIdx, List.getElem?_eraseIdx, List.getElem?_eraseIdx, hlength]
  unfold activeAfterMoving
  by_cases hsame : position = source
  · have hplace : destination ≤ tabs.length - 1 := by omega
    simp [hsame, hplace]
  · by_cases hleft : source < position ∧ position ≤ destination
    · have hindex : position - 1 + 1 = position := by omega
      have hbefore : position - 1 < destination := by omega
      have hbeyond : ¬ position - 1 < source := by omega
      simp [hsame, hleft, hbefore, hbeyond, hindex]
    · by_cases hright : destination ≤ position ∧ position < source
      · have hbefore : ¬ position + 1 < destination := by omega
        have hother : position + 1 ≠ destination := by omega
        simp [hsame, hleft, hright, hbefore, hother]
      · simp only [hsame, hleft, hright, if_false]
        by_cases hfirst : position < source
        · have hbefore : position < destination := by omega
          simp [hfirst, hbefore]
        · have hbefore : ¬ position < destination := by omega
          have hother : position ≠ destination := by omega
          have hbeyond : ¬ position - 1 < source := by omega
          have hindex : position - 1 + 1 = position := by omega
          simp [hbefore, hother, hbeyond, hindex]

/-- A move takes the active position along with its tab. -/
theorem activeTab_moveAt (bar : TabBar α) (source : bar.Position)
    (target : Fin (bar.tabs.length + 1)) :
    (bar.moveAt source target).1.activeTab = bar.activeTab := by
  have hsource := source.isLt
  have htarget := target.isLt
  apply activeTab_eq_of_getElem?
  rw [← getElem?_active]
  unfold moveAt
  split
  · rfl
  · next hmoved =>
      have hdestination : (if source.val < target.val then target.val - 1 else target.val) <
          bar.tabs.length := by
        split <;> omega
      exact getElem?_moved hsource hdestination bar.active

/-! ## The active tab after a step -/

namespace Tracked

/-- The label of the active tab. -/
def activeLabel (tracked : Tracked α) : Nat :=
  tracked.bar.activeTab.label

/-- The label of the tab with an index. -/
def labelAt? (tracked : Tracked α) (index : Int) : Option Nat :=
  if 0 ≤ index then tracked.labels[index.toNat]? else none

/-- The labels of the tabs that came with a step. -/
def newLabels (before after : Tracked α) : List Nat :=
  after.labels.filter fun label => decide (label ∉ before.labels)

/-- Which tab is active after a step has been done. -/
def ActiveAfter (before after : Tracked α) : Step β → Prop
  | .activate index => before.labelAt? index = some after.activeLabel
  | .add _ | .duplicate _ => before.newLabels after = [after.activeLabel]
  | .addAll [] => after.activeLabel = before.activeLabel
  | .addAll (_ :: _) => (before.newLabels after).head? = some after.activeLabel
  | .close index =>
    if index ≠ before.bar.active ∨ before.bar.tabs.length = 1 then
      after.activeLabel = before.activeLabel
    else if index + 1 < before.bar.tabs.length then
      before.labelAt? (index + 1) = some after.activeLabel
    else before.labelAt? (index - 1) = some after.activeLabel
  | .closeOthers index => before.labelAt? index = some after.activeLabel
  | .closeToRight index =>
    if before.bar.active ≤ index then after.activeLabel = before.activeLabel
    else before.labelAt? index = some after.activeLabel
  | .move _ _ => after.activeLabel = before.activeLabel

theorem getElem?_labels (tracked : Tracked α) (position : Nat) :
    tracked.labels[position]? = tracked.bar.tabs[position]?.map Labelled.label :=
  List.getElem?_map

theorem labelAt?_natCast (tracked : Tracked α) (position : Nat) :
    tracked.labelAt? (position : Int) = tracked.bar.tabs[position]?.map Labelled.label := by
  rw [labelAt?, if_pos (by omega), Int.toNat_natCast, getElem?_labels]

theorem filter_notMem_labels_eq_nil {tracked : Tracked α} {labels : List Nat}
    (h : ∀ label ∈ labels, label ∈ tracked.labels) :
    labels.filter (fun label => decide (label ∉ tracked.labels)) = [] := by
  rw [List.filter_eq_nil_iff]
  intro label hlabel hunknown
  exact of_decide_eq_true hunknown (h label hlabel)

theorem filter_notMem_labels_eq_self {tracked : Tracked α} (hsound : tracked.Sound)
    {labels : List Nat} (h : ∀ label ∈ labels, tracked.fresh ≤ label) :
    labels.filter (fun label => decide (label ∉ tracked.labels)) = labels := by
  rw [List.filter_eq_self]
  intro label hlabel
  refine decide_eq_true fun hknown => ?_
  have hlt := hsound.lt_fresh _ hknown
  have hge := h label hlabel
  omega

/-- The new labels of a bar in which tabs with labels given before come with others. -/
theorem newLabels_perm {before after : Tracked α} {kept new : List (Labelled α)}
    (h : before.Keeps after kept new) (hsound : before.Sound) :
    (before.newLabels after).Perm (new.map Labelled.label) := by
  have hkept := filter_notMem_labels_eq_nil
    fun label (hlabel : label ∈ kept.map Labelled.label) => (h.kept_sublist.map _).subset hlabel
  have hfresh : ∀ label ∈ new.map Labelled.label, before.fresh ≤ label := by
    intro label hlabel
    obtain ⟨tab, htab, rfl⟩ := List.mem_map.1 hlabel
    exact h.fresh_le_label htab
  have hnew := filter_notMem_labels_eq_self hsound hfresh
  have hperm := (h.perm.map Labelled.label).filter
    fun label => decide (label ∉ before.labels)
  rwa [List.map_append, List.filter_append, hkept, hnew, List.nil_append] at hperm

/-- New tabs at the end come in their order. -/
theorem newLabels_of_append {before after : Tracked α} (hsound : before.Sound) {tabs : List α}
    (h : after.bar.tabs = before.bar.tabs ++ labelFrom before.fresh tabs) :
    before.newLabels after = List.range' before.fresh tabs.length := by
  have hlabels : after.labels = before.labels ++ List.range' before.fresh tabs.length := by
    rw [labels, h, List.map_append, map_label_labelFrom]
    rfl
  have hnew := filter_notMem_labels_eq_self hsound
    fun label (hlabel : label ∈ List.range' before.fresh tabs.length) =>
      (List.mem_range'_1.1 hlabel).1
  rw [newLabels, hlabels, List.filter_append,
    filter_notMem_labels_eq_nil fun label hlabel => hlabel, hnew, List.nil_append]

theorem newLabels_perm_range' {copy : α → α} {before after : Tracked α} {step : Step α}
    {result : Option Nat} (hsound : before.Sound)
    (h : before.step copy step = .ok (after, result)) :
    (before.newLabels after).Perm (List.range' before.fresh step.labelCount) := by
  obtain ⟨hperforms, hfresh⟩ := performs_of_step h
  obtain ⟨kept, new, hkept, hperm, hadds, -⟩ := hperforms.exists_kept
  have hlabels := map_label_of_adds hadds
  have hkeeps : before.Keeps after kept new := by
    refine ⟨hkept, hperm, by omega, ?_⟩
    rw [hlabels, hfresh, Nat.add_sub_cancel_left]
  rw [← hlabels]
  exact newLabels_perm hkeeps hsound

/-- A single new tab is the one with the next label. -/
theorem newLabels_eq_singleton {copy : α → α} {before after : Tracked α} {step : Step α}
    {result : Option Nat} (hsound : before.Sound)
    (h : before.step copy step = .ok (after, result)) (hcount : step.labelCount = 1) :
    before.newLabels after = [before.fresh] := by
  have hperm := newLabels_perm_range' hsound h
  rw [hcount] at hperm
  exact List.perm_singleton.1 hperm

/-- The label of the active tab, once that tab is known. -/
theorem activeLabel_eq {tracked : Tracked α} {tab : Labelled α}
    (h : tracked.bar.tabs[tracked.bar.active]? = some tab) : tracked.activeLabel = tab.label :=
  congrArg Labelled.label (activeTab_eq_of_getElem? h)

/-- The tab with an index is active in a bar that has it at its active position. -/
theorem labelAt?_eq_activeLabel {before after : Tracked α} {position : Nat}
    (h : before.bar.tabs[position]? = after.bar.tabs[after.bar.active]?) :
    before.labelAt? (position : Int) = some after.activeLabel := by
  rw [labelAt?_natCast, h, getElem?_active]
  rfl

theorem activeLabel_eq_of_getElem?_active {before after : Tracked α}
    (h : after.bar.tabs[after.bar.active]? = before.bar.tabs[before.bar.active]?) :
    after.activeLabel = before.activeLabel := by
  rw [getElem?_active before.bar] at h
  exact activeLabel_eq h

/-- After a step that opens one tab, that tab is active if the active label is the next one. -/
theorem newLabels_eq_activeLabel {copy : α → α} {before after : Tracked α} {step : Step α}
    {result : Option Nat} (hsound : before.Sound)
    (h : before.step copy step = .ok (after, result)) (hcount : step.labelCount = 1)
    (hactive : after.activeLabel = before.fresh) :
    before.newLabels after = [after.activeLabel] := by
  rw [hactive]
  exact newLabels_eq_singleton hsound h hcount

/-- The active tab after closing one is the same, or a neighbour of the closed one. -/
theorem activeAfter_close {before after : Tracked α} (position : before.bar.Position)
    (hbar : after.bar = before.bar.closeAt position) :
    before.ActiveAfter after (.close (position : Nat) : Step β) := by
  have hposition := position.isLt
  simp only [ActiveAfter]
  by_cases honly : before.bar.tabs.length ≤ 1
  · have hone : before.bar.tabs.length = 1 := by
      have hpos := before.bar.length_pos
      omega
    rw [if_pos (Or.inr hone), activeLabel, hbar, closeAt_of_length_le honly]
    rfl
  · have hactive := getElem?_closeAt_active honly position
    rw [← hbar] at hactive
    by_cases hsame : before.bar.active = position
    · rw [if_pos hsame] at hactive
      rw [if_neg (by omega)]
      by_cases hnext : position.val + 1 < before.bar.tabs.length
      · rw [if_pos hnext] at hactive
        rw [if_pos (by omega)]
        exact_mod_cast labelAt?_eq_activeLabel hactive.symm
      · rw [if_neg hnext] at hactive
        rw [if_neg (by omega)]
        have hindex : ((position.val : Int) - 1) = ((position.val - 1 : Nat) : Int) := by omega
        rw [hindex]
        exact labelAt?_eq_activeLabel hactive.symm
    · rw [if_neg hsame] at hactive
      rw [if_pos (Or.inl (by omega))]
      exact activeLabel_eq_of_getElem?_active hactive

theorem activeAfter_closeToRight {before after : Tracked α} (position : before.bar.Position)
    (hbar : after.bar = before.bar.closeToRightAt position) :
    before.ActiveAfter after (.closeToRight (position : Nat) : Step β) := by
  have hactive : after.bar.tabs[after.bar.active]? =
      before.bar.tabs[min before.bar.active position]? := by
    rw [hbar]
    change (before.bar.tabs.take (position + 1))[min before.bar.active position]? = _
    exact List.getElem?_take_of_lt (by omega)
  simp only [ActiveAfter]
  by_cases hkept : before.bar.active ≤ position.val
  · rw [if_pos (by omega)]
    rw [Nat.min_eq_left hkept] at hactive
    exact activeLabel_eq_of_getElem?_active hactive
  · rw [if_neg (by omega)]
    rw [Nat.min_eq_right (by omega)] at hactive
    exact labelAt?_eq_activeLabel hactive.symm

/-- After every successful step the active tab is the one it should be. -/
theorem activeAfter_of_step {copy : α → α} {before after : Tracked α} {step : Step α}
    {result : Option Nat} (hsound : before.Sound)
    (h : before.step copy step = .ok (after, result)) : before.ActiveAfter after step := by
  have hperforms := (performs_of_step h).1
  generalize hbar : after.bar = bar at hperforms
  cases step with
  | activate index =>
      cases hperforms with
      | activate position =>
          apply labelAt?_eq_activeLabel
          rw [hbar]
          rfl
  | add tab =>
      cases hperforms
      have htab : after.bar.tabs[after.bar.active]? = some ⟨before.fresh, tab⟩ := by
        rw [hbar]
        exact List.getElem?_concat_length
      exact newLabels_eq_activeLabel hsound h rfl (activeLabel_eq htab)
  | addAll tabs =>
      cases hperforms
      cases tabs with
      | nil =>
          apply activeLabel_eq_of_getElem?_active
          rw [hbar]
          rfl
      | cons tab tabs =>
          have hnew : before.newLabels after =
              List.range' before.fresh (tab :: tabs).length := by
            apply newLabels_of_append hsound
            rw [hbar]
            rfl
          have htab : after.bar.tabs[after.bar.active]? = some ⟨before.fresh, tab⟩ := by
            rw [hbar]
            change (before.bar.tabs ++ labelFrom before.fresh (tab :: tabs))[
              before.bar.tabs.length]? = _
            rw [List.getElem?_append_right (Nat.le_refl _), Nat.sub_self]
            rfl
          rw [ActiveAfter, hnew, activeLabel_eq htab]
          rfl
  | close index =>
      cases hperforms with
      | close position => exact activeAfter_close position hbar
  | closeOthers index =>
      cases hperforms with
      | closeOthers position =>
          apply labelAt?_eq_activeLabel
          rw [hbar]
          exact List.getElem?_eq_getElem position.isLt
  | closeToRight index =>
      cases hperforms with
      | closeToRight position => exact activeAfter_closeToRight position hbar
  | duplicate index =>
      cases hperforms with
      | duplicate position =>
          have htab : after.bar.tabs[after.bar.active]? =
              some (before.copyTab copy before.bar.tabs[position]) := by
            rw [hbar]
            exact List.getElem?_insertIdx_self.trans (if_pos position.isLt)
          exact newLabels_eq_activeLabel hsound h rfl (activeLabel_eq htab)
  | move index target =>
      cases hperforms with
      | move source place =>
          rw [ActiveAfter, activeLabel, hbar, activeTab_moveAt]
          rfl

theorem activeAfter_map_iff {γ : Type} {before after : Tracked α} {describe : β → γ}
    {step : Step β} : before.ActiveAfter after (step.map describe) ↔
      before.ActiveAfter after step := by
  cases step with
  | addAll tabs => cases tabs <;> rfl
  | _ => rfl

end Tracked

end TextureCatalog.TabBar

namespace TextureCatalog.Workspace

open TabBar

variable {materials : List Material} {tabs : List Tab}
  {steps : List (TabBar.Step (Option Nat))} {step : TabBar.Step (Option Nat)}

/-- A step of a session that succeeds is a step with labels that succeeds. -/
theorem tracked_step_of_step {after : Workspace} {result : Option Nat}
    (h : ((ofTabs materials tabs).run (steps.map .arrange)).step (.arrange step) =
      .ok (after, result)) :
    (tracked materials tabs steps).step (Tab.copy materials) (step.map (Tab.assign materials {})) =
        .ok (tracked materials tabs (steps ++ [step]), result) ∧
      (tracked materials tabs (steps ++ [step])).forget = after.bar := by
  have hmaterials : ((ofTabs materials tabs).run (steps.map .arrange)).materials = materials := by
    rw [run_arrange]
    rfl
  have hnext : tracked materials tabs (steps ++ [step]) =
      (tracked materials tabs steps).next (Tab.copy materials)
        (step.map (Tab.assign materials {})) := tracked_append materials tabs steps [step]
  obtain ⟨reached, hstep, rfl⟩ := exists_step_of_forget_eq (forget_tracked materials tabs steps) h
  rw [hmaterials] at hstep
  rw [hnext, Tracked.next, hstep]
  exact ⟨rfl, rfl⟩

/-- The active tab in every state that a run of steps of the bar reaches, after any further step
that succeeds: the tab that was activated or kept, the new one or the first of the new ones, the
neighbour of a closed one, and otherwise the tab that was active before. -/
theorem active_tab_after_step {after : Workspace} {result : Option Nat}
    (h : ((ofTabs materials tabs).run (steps.map .arrange)).step (.arrange step) =
      .ok (after, result)) :
    let reached := tracked materials tabs steps
    let following := tracked materials tabs (steps ++ [step])
    reached.forget = ((ofTabs materials tabs).run (steps.map .arrange)).bar ∧
      following.forget = after.bar ∧
      reached.labels.Nodup ∧ following.labels.Nodup ∧
      reached.ActiveAfter following step := by
  intro reached following
  have hsound : reached.Sound := sound_tracked materials tabs steps
  have hfollowing : following.Sound := sound_tracked materials tabs (steps ++ [step])
  obtain ⟨hstep, hforget⟩ := tracked_step_of_step h
  have hactive := Tracked.activeAfter_of_step hsound hstep
  exact ⟨forget_tracked materials tabs steps, hforget, hsound.nodup, hfollowing.nodup,
    Tracked.activeAfter_map_iff.1 hactive⟩

/-- Of three tabs the last one is active and is closed: the one before it becomes active. -/
theorem active_tab_after_closing_last :
    let steps : List (TabBar.Step (Option Nat)) := [.activate 2]
    ((ofTabs [] [{}, {}, {}]).run (steps.map .arrange)).step (.arrange (.close 2)) =
        .ok (⟨[], [{}, {}], 1, by decide⟩, none) ∧
      (tracked [] [{}, {}, {}] steps).activeLabel = 2 ∧
      (tracked [] [{}, {}, {}] (steps ++ [.close 2])).activeLabel = 1 ∧
      (tracked [] [{}, {}, {}] steps).ActiveAfter
        (tracked [] [{}, {}, {}] (steps ++ [.close 2])) (.close 2 : TabBar.Step (Option Nat)) := by
  intro steps
  have hstep : ((ofTabs [] [{}, {}, {}]).run (steps.map .arrange)).step (.arrange (.close 2)) =
      .ok (⟨[], [{}, {}], 1, by decide⟩, none) := rfl
  exact ⟨hstep, by decide, by decide, (active_tab_after_step hstep).2.2.2.2⟩

end TextureCatalog.Workspace
