import Mathlib.Data.List.Nodup
import Mathlib.Data.List.Perm.Basic
import TextureCatalog.Proofs.Session.Tracking

/-!
# What becomes of single tabs

Tabs are followed by their labels through runs of steps.  No label ever stands on two tabs, a tab is
never changed by a step, tabs are only removed by the closing steps that mean them and only come
with the steps that open tabs, and without moves they stay in their order.
-/

namespace TextureCatalog.TabBar

variable {α β : Type}

/-! ## Kinds of steps -/

/-- The steps that open tabs. -/
def Step.Opens : Step β → Prop
  | .add _ | .addAll _ | .duplicate _ => True
  | _ => False

/-- The steps that change the order of tabs. -/
def Step.Moves : Step β → Prop
  | .move _ _ => True
  | _ => False

/-- The steps that mean to close the tab at a position, by a valid index among `count` tabs. -/
def Step.Closes (count position : Nat) : Step β → Prop
  | .close index => 0 ≤ index ∧ index < count ∧ index = position
  | .closeOthers index => 0 ≤ index ∧ index < count ∧ index ≠ position
  | .closeToRight index => 0 ≤ index ∧ index < count ∧ index < position
  | _ => False

theorem closes_labelled_iff {count position first : Nat} {step : Step α} :
    (step.labelled first).Closes count position ↔ step.Closes count position := by
  cases step <;> rfl

theorem closes_map_iff {count position : Nat} {change : α → β} {step : Step α} :
    (step.map change).Closes count position ↔ step.Closes count position := by
  cases step <;> rfl

theorem opens_map_iff {change : α → β} {step : Step α} :
    (step.map change).Opens ↔ step.Opens := by
  cases step <;> rfl

theorem moves_map_iff {change : α → β} {step : Step α} :
    (step.map change).Moves ↔ step.Moves := by
  cases step <;> rfl

/-! ## Which tabs there are after a step -/

theorem moveAt_tabs_perm (bar : TabBar α) (source : bar.Position)
    (target : Fin (bar.tabs.length + 1)) :
    (bar.moveAt source target).1.tabs.Perm bar.tabs := by
  unfold moveAt
  split
  · exact List.Perm.refl _
  · next hmoved =>
      have hsource := source.isLt
      have htarget := target.isLt
      have hlength : (bar.tabs.eraseIdx source).length = bar.tabs.length - 1 :=
        List.length_eraseIdx_of_lt hsource
      have hplace : (if source.val < target.val then target.val - 1 else target.val) ≤
          (bar.tabs.eraseIdx source).length := by
        split <;> omega
      exact (List.perm_insertIdx _ _ hplace).trans (List.getElem_cons_eraseIdx_perm hsource)

/-- A tab that a step does not mean to close is there afterwards. -/
theorem Performs.mem_of_not_closes {copy : α → α} {bar after : TabBar α} {step : Step α}
    (h : Performs copy bar step after) (position : bar.Position)
    (hopen : ¬ step.Closes bar.tabs.length position) : bar.tabs.get position ∈ after.tabs := by
  have hlt := position.isLt
  have hmem : bar.tabs.get position ∈ bar.tabs := List.get_mem _ _
  cases h with
  | activate => exact hmem
  | add tab => exact List.mem_append_left _ hmem
  | addAll tabs =>
      unfold TabBar.addAll
      split
      · exact hmem
      · exact List.mem_append_left _ hmem
  | close closed =>
      have hother : position.val ≠ closed.val := by
        intro heq
        exact hopen ⟨by omega, by omega, by omega⟩
      unfold closeAt
      split
      · exact hmem
      · exact List.mem_eraseIdx_iff_getElem.2 ⟨position, hlt, hother, rfl⟩
  | closeOthers kept =>
      have hsame : position = kept := by
        apply Fin.ext
        by_cases hother : kept.val = position.val
        · exact hother.symm
        · exact absurd ⟨by omega, by omega, by omega⟩ hopen
      subst hsame
      exact List.mem_singleton_self _
  | closeToRight last =>
      have hle : position.val ≤ last.val := by
        by_cases hbeyond : last.val < position.val
        · exact absurd ⟨by omega, by omega, by omega⟩ hopen
        · omega
      exact List.mem_take_iff_getElem.2 ⟨position, by omega, rfl⟩
  | duplicate => exact List.subset_insertIdx _ _ _ hmem
  | move source target => exact (bar.moveAt_tabs_perm source target).mem_iff.2 hmem

/-- The tabs that come with a step are the ones it describes. -/
def Step.Adds (copy : α → α) (added : List α) : Step α → Prop
  | .add tab => added = [tab]
  | .addAll tabs => added = tabs
  | .duplicate _ => ∃ tab, added = [copy tab]
  | _ => added = []

/-- After a step there are some of the tabs from before and those that come with it.  Only a move
changes the order of those that were there before. -/
theorem Performs.exists_kept {copy : α → α} {bar after : TabBar α} {step : Step α}
    (h : Performs copy bar step after) :
    ∃ kept added, kept.Sublist bar.tabs ∧ after.tabs.Perm (kept ++ added) ∧
      step.Adds copy added ∧ (¬ step.Moves → kept.Sublist after.tabs) := by
  cases h with
  | activate =>
      refine ⟨bar.tabs, [], List.Sublist.refl _, ?_, rfl, fun _ => List.Sublist.refl _⟩
      simp [activateAt]
  | add tab =>
      exact ⟨bar.tabs, [tab], List.Sublist.refl _, List.Perm.refl _, rfl,
        fun _ => List.sublist_append_left _ _⟩
  | addAll tabs =>
      have htabs : (bar.addAll tabs).tabs = bar.tabs ++ tabs := by
        unfold TabBar.addAll
        split
        · next hnone => simp [hnone]
        · rfl
      rw [htabs]
      exact ⟨bar.tabs, tabs, List.Sublist.refl _, List.Perm.refl _, rfl,
        fun _ => List.sublist_append_left _ _⟩
  | close position =>
      have hsublist : (bar.closeAt position).tabs.Sublist bar.tabs := by
        unfold closeAt
        split
        · exact List.Sublist.refl _
        · exact List.eraseIdx_sublist _ _
      exact ⟨_, [], hsublist, by simp, rfl, fun _ => List.Sublist.refl _⟩
  | closeOthers position =>
      have hsublist : (bar.closeOthersAt position).tabs.Sublist bar.tabs :=
        List.singleton_sublist.2 (List.getElem_mem position.isLt)
      exact ⟨_, [], hsublist, by simp, rfl, fun _ => List.Sublist.refl _⟩
  | closeToRight position =>
      have hsublist : (bar.closeToRightAt position).tabs.Sublist bar.tabs :=
        List.take_sublist _ _
      exact ⟨_, [], hsublist, by simp, rfl, fun _ => List.Sublist.refl _⟩
  | duplicate position =>
      refine ⟨bar.tabs, [copy (bar.tabs.get position)], List.Sublist.refl _, ?_, ⟨_, rfl⟩,
        fun _ => List.sublist_insertIdx _ _ _⟩
      have hinserted : (bar.insertAfter position (copy (bar.tabs.get position))).tabs.Perm
          (copy (bar.tabs.get position) :: bar.tabs) :=
        List.perm_insertIdx _ _ position.isLt
      exact hinserted.trans (List.perm_append_singleton _ _).symm
  | move source target =>
      refine ⟨bar.tabs, [], List.Sublist.refl _, ?_, rfl, fun hmoves => absurd trivial hmoves⟩
      simpa using bar.moveAt_tabs_perm source target

/-! ## Labels after a step -/

namespace Tracked

theorem map_label_labelFrom (first : Nat) (tabs : List α) :
    (labelFrom first tabs).map Labelled.label = List.range' first tabs.length := by
  induction tabs generalizing first with
  | nil => rfl
  | cons tab tabs ih => simp [labelFrom, ih, List.range'_succ]

/-- The tabs that come with a step have the next labels. -/
theorem map_label_of_adds {copy : α → α} {tracked : Tracked α} {step : Step α}
    {added : List (Labelled α)}
    (h : (step.labelled tracked.fresh).Adds (tracked.copyTab copy) added) :
    added.map Labelled.label = List.range' tracked.fresh step.labelCount := by
  cases step with
  | addAll tabs =>
      subst h
      exact map_label_labelFrom _ _
  | duplicate index =>
      obtain ⟨tab, rfl⟩ := h
      rfl
  | _ =>
      subst h
      rfl

/-- No label stands on two tabs, and all have been given. -/
structure Sound (tracked : Tracked α) : Prop where
  nodup : tracked.labels.Nodup
  lt_fresh : ∀ label ∈ tracked.labels, label < tracked.fresh

/-- After a step there are some of the tabs from before, and new ones with the next labels. -/
structure Keeps (before after : Tracked α) (kept new : List (Labelled α)) : Prop where
  kept_sublist : kept.Sublist before.bar.tabs
  perm : after.bar.tabs.Perm (kept ++ new)
  fresh_le : before.fresh ≤ after.fresh
  new_labels : new.map Labelled.label =
    List.range' before.fresh (after.fresh - before.fresh)

theorem labelCount_eq_zero_of_not_opens {step : Step α} (h : ¬ step.Opens) :
    step.labelCount = 0 := by
  cases step <;> simp_all [Step.Opens, Step.labelCount]

/-- What a step keeps.  It brings new tabs only if it opens tabs, and changes the order only if it
moves one. -/
theorem exists_keeps_next (copy : α → α) (tracked : Tracked α) (step : Step α) :
    ∃ kept new, Keeps tracked (tracked.next copy step) kept new ∧
      (¬ step.Opens → new = []) ∧
      (¬ step.Moves → kept.Sublist (tracked.next copy step).bar.tabs) := by
  rcases tracked.next_cases copy step with ⟨hperforms, hfresh⟩ | hsame
  · obtain ⟨kept, new, hkept, hperm, hadds, horder⟩ := hperforms.exists_kept
    have hlabels := map_label_of_adds hadds
    refine ⟨kept, new, ⟨hkept, hperm, by omega, ?_⟩, ?_, fun hmoves => horder ?_⟩
    · rw [hlabels, hfresh, Nat.add_sub_cancel_left]
    · intro hopens
      rw [labelCount_eq_zero_of_not_opens hopens] at hlabels
      simpa using hlabels
    · cases step <;> exact hmoves
  · rw [hsame]
    exact ⟨tracked.bar.tabs, [], ⟨List.Sublist.refl _, by simp, Nat.le_refl _, by simp⟩,
      fun _ => rfl, fun _ => List.Sublist.refl _⟩

variable {before after : Tracked α} {kept new : List (Labelled α)}

theorem Keeps.fresh_le_label (h : Keeps before after kept new) {tab : Labelled α}
    (htab : tab ∈ new) : before.fresh ≤ tab.label := by
  have hlabel := List.mem_map_of_mem (f := Labelled.label) htab
  rw [h.new_labels, List.mem_range'_1] at hlabel
  exact hlabel.1

theorem Keeps.label_lt_fresh (h : Keeps before after kept new) {tab : Labelled α}
    (htab : tab ∈ new) : tab.label < after.fresh := by
  have hlabel := List.mem_map_of_mem (f := Labelled.label) htab
  have hle := h.fresh_le
  rw [h.new_labels, List.mem_range'_1] at hlabel
  omega

theorem Keeps.mem_before (h : Keeps before after kept new) {tab : Labelled α}
    (htab : tab ∈ kept) : tab ∈ before.bar.tabs :=
  h.kept_sublist.subset htab

theorem Keeps.mem_after_iff (h : Keeps before after kept new) {tab : Labelled α} :
    tab ∈ after.bar.tabs ↔ tab ∈ kept ∨ tab ∈ new := by
  rw [h.perm.mem_iff, List.mem_append]

theorem Sound.label_lt (hsound : before.Sound) {tab : Labelled α}
    (htab : tab ∈ before.bar.tabs) : tab.label < before.fresh :=
  hsound.lt_fresh _ (List.mem_map_of_mem htab)

/-- Labels stay distinct. -/
theorem Keeps.sound (h : Keeps before after kept new) (hsound : before.Sound) : after.Sound := by
  have hkept : (kept.map Labelled.label).Nodup :=
    hsound.nodup.sublist (h.kept_sublist.map _)
  have hnew : (new.map Labelled.label).Nodup := by
    rw [h.new_labels]
    exact List.nodup_range' 1
  have hdisjoint : (kept.map Labelled.label).Disjoint (new.map Labelled.label) := by
    intro label hold hfresh
    obtain ⟨oldTab, holdTab, rfl⟩ := List.mem_map.1 hold
    obtain ⟨newTab, hnewTab, hlabel⟩ := List.mem_map.1 hfresh
    have hlt := hsound.label_lt (h.mem_before holdTab)
    have hge := h.fresh_le_label hnewTab
    omega
  constructor
  · have hperm : after.labels.Perm (kept.map Labelled.label ++ new.map Labelled.label) := by
      rw [← List.map_append]
      exact h.perm.map _
    rw [hperm.nodup_iff]
    exact hkept.append hnew hdisjoint
  · intro label hlabel
    obtain ⟨tab, htab, rfl⟩ := List.mem_map.1 hlabel
    rcases h.mem_after_iff.1 htab with hold | hfresh
    · exact Nat.lt_of_lt_of_le (hsound.label_lt (h.mem_before hold)) h.fresh_le
    · exact h.label_lt_fresh hfresh

/-! ## Labels after a run -/

/-- Every tab of a later bar was there before, or has a label that had not been given. -/
structure Descends (before after : Tracked α) : Prop where
  fresh_le : before.fresh ≤ after.fresh
  old_or_new : ∀ tab ∈ after.bar.tabs, tab ∈ before.bar.tabs ∨ before.fresh ≤ tab.label

/-- The tabs that are still there have kept their order. -/
def KeepsOrder (before after : Tracked α) : Prop :=
  (after.labels.filter fun label => decide (label ∈ before.labels)).Sublist before.labels

theorem Keeps.descends (h : Keeps before after kept new) : before.Descends after where
  fresh_le := h.fresh_le
  old_or_new _ htab := (h.mem_after_iff.1 htab).imp h.mem_before h.fresh_le_label

theorem Descends.refl (tracked : Tracked α) : tracked.Descends tracked :=
  ⟨Nat.le_refl _, fun _ htab => Or.inl htab⟩

theorem Descends.trans {first second third : Tracked α} (hfirst : first.Descends second)
    (hsecond : second.Descends third) : first.Descends third := by
  refine ⟨Nat.le_trans hfirst.fresh_le hsecond.fresh_le, fun tab htab => ?_⟩
  rcases hsecond.old_or_new tab htab with hold | hfresh
  · exact hfirst.old_or_new tab hold
  · exact Or.inr (Nat.le_trans hfirst.fresh_le hfresh)

/-- A tab whose label is known from before was there before. -/
theorem Descends.mem_before (h : before.Descends after) (hsound : before.Sound)
    {tab : Labelled α} (htab : tab ∈ after.bar.tabs) (hlabel : tab.label ∈ before.labels) :
    tab ∈ before.bar.tabs := by
  have hlt := hsound.lt_fresh _ hlabel
  rcases h.old_or_new tab htab with hold | hfresh
  · exact hold
  · omega

/-- Tabs that have the same label are the same, before and after. -/
theorem Descends.eq_of_label_eq (h : before.Descends after) (hsound : before.Sound)
    {tab other : Labelled α} (htab : tab ∈ before.bar.tabs) (hother : other ∈ after.bar.tabs)
    (hlabel : tab.label = other.label) : tab = other := by
  have hknown : other.label ∈ before.labels := hlabel ▸ List.mem_map_of_mem htab
  exact List.inj_on_of_nodup_map hsound.nodup htab (h.mem_before hsound hother hknown) hlabel

theorem Keeps.keepsOrder (h : Keeps before after kept new) (hsound : before.Sound)
    (horder : kept.Sublist after.bar.tabs) : before.KeepsOrder after := by
  have hkept : (kept.map Labelled.label).filter (fun label => decide (label ∈ before.labels)) =
      kept.map Labelled.label := by
    rw [List.filter_eq_self]
    intro label hlabel
    exact decide_eq_true ((h.kept_sublist.map _).subset hlabel)
  have hnew : (new.map Labelled.label).filter (fun label => decide (label ∈ before.labels)) =
      [] := by
    rw [List.filter_eq_nil_iff]
    intro label hlabel hknown
    obtain ⟨tab, htab, rfl⟩ := List.mem_map.1 hlabel
    have hlt := hsound.lt_fresh _ (of_decide_eq_true hknown)
    have hge := h.fresh_le_label htab
    omega
  -- The labels that are still there are those of the kept tabs: they are among them, and as many.
  have hsublist := (horder.map Labelled.label).filter
    fun label => decide (label ∈ before.labels)
  have hperm := (h.perm.map Labelled.label).filter
    fun label => decide (label ∈ before.labels)
  rw [hkept] at hsublist
  rw [List.map_append, List.filter_append, hkept, hnew, List.append_nil] at hperm
  have hsame := hsublist.eq_of_length hperm.length_eq.symm
  change (List.filter _ (after.bar.tabs.map Labelled.label)).Sublist before.labels
  rw [← hsame]
  exact h.kept_sublist.map _

theorem KeepsOrder.refl (tracked : Tracked α) : tracked.KeepsOrder tracked :=
  List.filter_sublist

theorem KeepsOrder.trans {first second third : Tracked α} (hfirst : first.KeepsOrder second)
    (hsecond : second.KeepsOrder third) (hsound : first.Sound) (hdescends : first.Descends second)
    (hlater : second.Descends third) : first.KeepsOrder third := by
  -- A tab that was there at first and is there at last was there in between.
  have hbetween : third.labels.filter (fun label => decide (label ∈ first.labels)) =
      (third.labels.filter fun label => decide (label ∈ second.labels)).filter
        fun label => decide (label ∈ first.labels) := by
    rw [List.filter_filter]
    apply List.filter_congr
    intro label hlabel
    obtain ⟨tab, htab, rfl⟩ := List.mem_map.1 hlabel
    by_cases hknown : tab.label ∈ first.labels
    · have hlt := hsound.lt_fresh _ hknown
      have hle := hdescends.fresh_le
      rcases hlater.old_or_new tab htab with hold | hfresh
      · have hsecondLabel : tab.label ∈ second.labels := List.mem_map_of_mem hold
        simp [hknown, hsecondLabel]
      · omega
    · simp [hknown]
  unfold KeepsOrder
  rw [hbetween]
  exact (hsecond.filter _).trans hfirst

theorem sound_next (copy : α → α) {tracked : Tracked α} (h : tracked.Sound) (step : Step α) :
    (tracked.next copy step).Sound := by
  obtain ⟨_, _, hkeeps, -, -⟩ := exists_keeps_next copy tracked step
  exact hkeeps.sound h

theorem descends_next (copy : α → α) (tracked : Tracked α) (step : Step α) :
    tracked.Descends (tracked.next copy step) := by
  obtain ⟨_, _, hkeeps, -, -⟩ := exists_keeps_next copy tracked step
  exact hkeeps.descends

theorem keepsOrder_next (copy : α → α) {tracked : Tracked α} (h : tracked.Sound) {step : Step α}
    (hmoves : ¬ step.Moves) : tracked.KeepsOrder (tracked.next copy step) := by
  obtain ⟨_, _, hkeeps, -, horder⟩ := exists_keeps_next copy tracked step
  exact hkeeps.keepsOrder h (horder hmoves)

theorem sound_run (copy : α → α) {tracked : Tracked α} (h : tracked.Sound)
    (steps : List (Step α)) : (tracked.run copy steps).Sound := by
  induction steps generalizing tracked with
  | nil => exact h
  | cons step steps ih => exact ih (sound_next copy h step)

theorem descends_run (copy : α → α) (tracked : Tracked α) (steps : List (Step α)) :
    tracked.Descends (tracked.run copy steps) := by
  induction steps generalizing tracked with
  | nil => exact Descends.refl tracked
  | cons step steps ih => exact (descends_next copy tracked step).trans (ih _)

/-- Without moves the tabs that are still there have kept their order. -/
theorem keepsOrder_run (copy : α → α) {tracked : Tracked α} (h : tracked.Sound)
    {steps : List (Step α)} (hmoves : ∀ step ∈ steps, ¬ step.Moves) :
    tracked.KeepsOrder (tracked.run copy steps) := by
  induction steps generalizing tracked with
  | nil => exact KeepsOrder.refl tracked
  | cons step steps ih =>
      have hfirst := keepsOrder_next copy h (hmoves step (by simp))
      have hothers := ih (sound_next copy h step) fun other hother =>
        hmoves other (List.mem_cons_of_mem _ hother)
      exact hfirst.trans hothers h (descends_next copy tracked step)
        (descends_run copy _ steps)

theorem sound_ofList (tabs : List α) (spare : α) : (ofList tabs spare).Sound := by
  have hlabels : (ofList tabs spare).labels = List.range' 0 (max 1 tabs.length) := by
    cases tabs with
    | nil => rfl
    | cons tab tabs =>
        have hmax : max 1 (tab :: tabs).length = (tab :: tabs).length := by simp
        rw [hmax]
        exact map_label_labelFrom 0 (tab :: tabs)
  constructor
  · rw [hlabels]
    exact List.nodup_range' 1
  · intro label hlabel
    rw [hlabels, List.mem_range'_1] at hlabel
    change label < tabs.length + 1
    omega

theorem labels_ofBar (bar : TabBar α) :
    (ofBar bar).labels = List.range' 0 bar.tabs.length :=
  map_label_labelFrom 0 bar.tabs

theorem sound_ofBar (bar : TabBar α) : (ofBar bar).Sound := by
  constructor
  · rw [labels_ofBar]
    exact List.nodup_range' 1
  · intro label hlabel
    rw [labels_ofBar, List.mem_range'_1] at hlabel
    change label < bar.tabs.length
    omega

/-- What a step does to single tabs: none of them is changed, they are only removed by a step that
means to close them, and only come with a step that opens tabs. -/
structure Respects (before : Tracked α) (step : Step β) (after : Tracked α) : Prop where
  unchanged : ∀ tab ∈ before.bar.tabs, ∀ other ∈ after.bar.tabs,
    tab.label = other.label → tab.tab = other.tab
  removed : ∀ position : before.bar.Position,
    before.bar.tabs[position].label ∉ after.labels →
      step.Closes before.bar.tabs.length position
  introduced : ∀ tab ∈ after.bar.tabs, tab.label ∉ before.labels → step.Opens

theorem respects_next (copy : α → α) {tracked : Tracked α} (h : tracked.Sound) (step : Step α) :
    tracked.Respects step (tracked.next copy step) where
  unchanged tab htab other hother hlabel :=
    congrArg Labelled.tab ((descends_next copy tracked step).eq_of_label_eq h htab hother hlabel)
  removed position hremoved := by
    rcases Classical.em (step.Closes tracked.bar.tabs.length position) with hcloses | hopen
    · exact hcloses
    · refine absurd (List.mem_map_of_mem ?_) hremoved
      rcases tracked.next_cases copy step with ⟨hperforms, -⟩ | hsame
      · exact hperforms.mem_of_not_closes position fun hcloses =>
          hopen (closes_labelled_iff.1 hcloses)
      · rw [hsame]
        exact List.getElem_mem position.isLt
  introduced tab htab hnew := by
    obtain ⟨kept, new, hkeeps, hnone, -⟩ := exists_keeps_next copy tracked step
    rcases Classical.em step.Opens with hopens | hcloses
    · exact hopens
    · rcases hkeeps.mem_after_iff.1 htab with hold | hfresh
      · exact absurd (List.mem_map_of_mem (hkeeps.mem_before hold)) hnew
      · rw [hnone hcloses] at hfresh
        exact absurd hfresh List.not_mem_nil

end Tracked

end TextureCatalog.TabBar

namespace TextureCatalog.Workspace

open TabBar

variable (materials : List Material) (tabs : List Tab)

theorem sound_tracked (steps : List (TabBar.Step (Option Nat))) :
    (tracked materials tabs steps).Sound :=
  Tracked.sound_run _ (Tracked.sound_ofList tabs {}) _

/-- The tabs of a session in every state that a run of steps of the bar reaches, failing ones
included: there is a tab, one of them is active, and no tab stands in two places.  The next step
changes no tab and adds and removes only the tabs that it means to, and all steps but moves leave
the tabs that stay in their order. -/
theorem bar_invariant (steps : List (TabBar.Step (Option Nat))) :
    let reached := tracked materials tabs steps
    reached.forget = ((ofTabs materials tabs).run (steps.map .arrange)).bar ∧
      0 < reached.bar.tabs.length ∧ reached.bar.active < reached.bar.tabs.length ∧
      reached.labels.Nodup ∧
      (∀ step, reached.Respects step (tracked materials tabs (steps ++ [step]))) ∧
      ∀ later, (∀ step ∈ later, ¬ step.Moves) →
        reached.KeepsOrder (tracked materials tabs (steps ++ later)) := by
  intro reached
  have hsound : reached.Sound := sound_tracked materials tabs steps
  refine ⟨forget_tracked materials tabs steps, reached.bar.length_pos, reached.bar.active_lt,
    hsound.nodup, fun step => ?_, fun later hmoves => ?_⟩
  · have hrespects := Tracked.respects_next (Tab.copy materials) hsound
      (step.map (Tab.assign materials {}))
    rw [tracked_append]
    exact ⟨hrespects.unchanged,
      fun position hremoved => closes_map_iff.1 (hrespects.removed position hremoved),
      fun tab htab hnew => opens_map_iff.1 (hrespects.introduced tab htab hnew)⟩
  · rw [tracked_append]
    apply Tracked.keepsOrder_run _ hsound
    intro step hstep
    obtain ⟨described, hdescribed, rfl⟩ := List.mem_map.1 hstep
    exact fun hmove => hmoves described hdescribed (moves_map_iff.1 hmove)

/-- Among two tabs a copy is made, a closing fails and the first tab is closed; of the two that are
left, the copy is closed after another tab was opened. -/
theorem bar_invariant_copied :
    let steps : List (TabBar.Step (Option Nat)) := [.duplicate 0, .close 7, .close 0]
    let later : List (TabBar.Step (Option Nat)) := [.add none, .close 0]
    (tracked [] [{}, {}] steps).labels = [3, 1] ∧
      (tracked [] [{}, {}] (steps ++ later)).labels = [1, 4] ∧
      (∀ step ∈ later, ¬ step.Moves) ∧
      (tracked [] [{}, {}] steps).KeepsOrder (tracked [] [{}, {}] (steps ++ later)) := by
  intro steps later
  have hmoves : ∀ step ∈ later, ¬ step.Moves := by
    simp [later, TabBar.Step.Moves]
  exact ⟨by decide, by decide, hmoves,
    (bar_invariant [] [{}, {}] steps).2.2.2.2.2 later hmoves⟩

end TextureCatalog.Workspace
