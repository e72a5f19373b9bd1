import Mathlib.Data.List.InsertIdx
import TextureCatalog.Proofs.Session.Identity

/-!
# Tabs closed one at a time

Every closing moves the tabs behind it and repairs the active position, so the indices of the tabs
that are still to be closed depend on the order.  What is left does not: the tabs that are kept stay
in their order, and which of them is active can be told beforehand.
-/

namespace TextureCatalog.TabBar

variable {α β : Type}

/-! ## Tabs without one of them -/

section Lists

variable {tabs : List α} {keeps : α → Bool} {place : Nat}

theorem filter_eraseIdx_of_neg (hplace : place < tabs.length)
    (hclosed : keeps tabs[place] = false) :
    (tabs.eraseIdx place).filter keeps = tabs.filter keeps := by
  have htabs : tabs = tabs.take place ++ tabs[place] :: tabs.drop (place + 1) := by
    rw [← List.drop_eq_getElem_cons hplace, List.take_append_drop]
  rw [List.eraseIdx_eq_take_drop_succ]
  conv_rhs => rw [htabs]
  rw [List.filter_append, List.filter_append, List.filter_cons_of_neg (by simp [hclosed])]

theorem countP_eraseIdx_of_neg (hplace : place < tabs.length)
    (hclosed : keeps tabs[place] = false) :
    (tabs.eraseIdx place).countP keeps = tabs.countP keeps := by
  rw [List.countP_eq_length_filter, filter_eraseIdx_of_neg hplace hclosed,
    List.countP_eq_length_filter]

theorem take_eraseIdx_of_lt {count : Nat} (h : place < count) :
    (tabs.eraseIdx place).take (count - 1) = (tabs.take count).eraseIdx place :=
  List.ext_getElem (by grind) (by grind)

/-- One entry more or less counts at most once. -/
theorem countP_take_le (tabs : List α) (keeps : α → Bool) (count : Nat) :
    (tabs.take count).countP keeps ≤ (tabs.take (count - 1)).countP keeps + 1 := by
  cases count with
  | zero => simp
  | succ count =>
      have hlast : (tabs[count]?.toList).countP keeps ≤ 1 :=
        Nat.le_trans List.countP_le_length (by cases tabs[count]? <;> simp)
      rw [List.take_add_one, List.countP_append, Nat.add_sub_cancel]
      omega

variable {left middle right : List α}

theorem filter_middle (hleft : ∀ tab ∈ left, keeps tab = false)
    (hmiddle : ∀ tab ∈ middle, keeps tab = true) (hright : ∀ tab ∈ right, keeps tab = false) :
    (left ++ (middle ++ right)).filter keeps = middle := by
  have hnone {tabs : List α} (h : ∀ tab ∈ tabs, keeps tab = false) : tabs.filter keeps = [] :=
    List.filter_eq_nil_iff.2 fun tab htab => by simp [h tab htab]
  rw [List.filter_append, List.filter_append, hnone hleft, hnone hright,
    List.filter_eq_self.2 hmiddle, List.nil_append, List.append_nil]

theorem filter_not_middle (hleft : ∀ tab ∈ left, keeps tab = false)
    (hmiddle : ∀ tab ∈ middle, keeps tab = true) (hright : ∀ tab ∈ right, keeps tab = false) :
    ((left ++ (middle ++ right)).filter fun tab => !keeps tab) = left ++ right := by
  have hall {tabs : List α} (h : ∀ tab ∈ tabs, keeps tab = false) :
      (tabs.filter fun tab => !keeps tab) = tabs :=
    List.filter_eq_self.2 fun tab htab => by simp [h tab htab]
  have hnone : (middle.filter fun tab => !keeps tab) = [] :=
    List.filter_eq_nil_iff.2 fun tab htab => by simp [hmiddle tab htab]
  rw [List.filter_append, List.filter_append, hall hleft, hall hright, hnone, List.nil_append]

end Lists

/-! ## What is left when tabs are closed -/

/-- What is left of a bar of which only some tabs are kept: they stay in their order, and the first
of them that does not come before the active tab is active, or else the last one. -/
structure Leaves (before : TabBar α) (keeps : α → Bool) (after : TabBar α) : Prop where
  tabs : after.tabs = before.tabs.filter keeps
  active : after.active =
    min ((before.tabs.take before.active).countP keeps) (before.tabs.countP keeps - 1)

variable {before after other : TabBar α} {keeps : α → Bool}

theorem Leaves.unique (h : before.Leaves keeps after) (hother : before.Leaves keeps other) :
    after = other :=
  eq_of_tabs_active (h.tabs.trans hother.tabs.symm) (h.active.trans hother.active.symm)

/-- Nothing changes if all tabs are kept. -/
theorem leaves_self (h : ∀ tab ∈ before.tabs, keeps tab = true) : before.Leaves keeps before where
  tabs := (List.filter_eq_self.2 h).symm
  active := by
    have hactive := before.active_lt
    have hall : before.tabs.countP keeps = before.tabs.length := List.countP_eq_length.2 h
    have hbefore : (before.tabs.take before.active).countP keeps = before.active := by
      rw [List.countP_eq_length.2 fun tab htab => h tab (List.mem_of_mem_take htab),
        List.length_take]
      omega
    rw [hall, hbefore]
    omega

theorem activeAfterClosing_eq_pred {active place count : Nat} (hactive : active ≤ count)
    (h : place < active ∨ count ≤ active) : activeAfterClosing active place count = active - 1 := by
  unfold activeAfterClosing
  grind

theorem activeAfterClosing_eq_self {active place count : Nat} (hactive : active < count)
    (hplace : active ≤ place) : activeAfterClosing active place count = active := by
  rw [activeAfterClosing, if_neg (Nat.not_le.2 hactive), if_neg (Nat.not_lt.2 hplace)]

/-- A tab that is not kept is not alone, if any is. -/
theorem not_length_le_one_of_closed {position : before.Position}
    (hclosed : keeps (before.tabs.get position) = false) (hkept : before.tabs.filter keeps ≠ []) :
    ¬ before.tabs.length ≤ 1 := by
  have hposition := position.isLt
  intro hlength
  have hlist : before.tabs.eraseIdx position = [] := by
    apply List.eq_nil_of_length_eq_zero
    rw [List.length_eraseIdx_of_lt hposition]
    omega
  apply hkept
  rw [← filter_eraseIdx_of_neg hposition hclosed, hlist]
  rfl

/-- To close a tab that is not kept does not change what is left in the end. -/
theorem Leaves.of_closeAt {position : before.Position}
    (hclosed : keeps (before.tabs.get position) = false) (hkept : before.tabs.filter keeps ≠ [])
    (h : (before.closeAt position).Leaves keeps after) : before.Leaves keeps after := by
  have hmany := not_length_le_one_of_closed hclosed hkept
  have hposition := position.isLt
  have hactive := before.active_lt
  obtain ⟨htabs, hpositionActive⟩ := h
  simp only [closeAt, hmany, dite_false] at htabs hpositionActive
  rw [filter_eraseIdx_of_neg hposition hclosed] at htabs
  rw [countP_eraseIdx_of_neg hposition hclosed] at hpositionActive
  refine ⟨htabs, hpositionActive.trans ?_⟩
  by_cases hleft : position.val < before.active
  · have hplace : position.val < (before.tabs.take before.active).length := by
      rw [List.length_take]
      omega
    rw [activeAfterClosing_eq_pred (by omega) (.inl hleft), take_eraseIdx_of_lt hleft,
      countP_eraseIdx_of_neg hplace (by simpa using hclosed)]
  · have hsame (count : Nat) (h : count ≤ before.active) :
        (before.tabs.eraseIdx position).take count = before.tabs.take count :=
      List.take_eraseIdx_eq_take_of_le _ _ _ (by omega)
    by_cases hlast : before.tabs.length - 1 ≤ before.active
    · -- The last tab is active and is closed, so all that are kept come before it.
      have hcount : before.tabs.countP keeps =
          (before.tabs.take before.active).countP keeps := by
        have hlength := List.length_eraseIdx_of_lt hposition
        rw [← hsame _ (Nat.le_refl _), List.take_of_length_le (by omega),
          countP_eraseIdx_of_neg hposition hclosed]
      have hstep := countP_take_le before.tabs keeps before.active
      rw [activeAfterClosing_eq_pred (by omega) (.inr hlast), hsame _ (Nat.sub_le _ _), hcount]
      omega
    · rw [activeAfterClosing_eq_self (Nat.not_le.1 hlast) (Nat.not_lt.1 hleft),
        hsame _ (Nat.le_refl _)]

/-- What is left if those tabs are kept that stand together in the row. -/
theorem leaves_middle {left middle right : List α} (htabs : before.tabs = left ++ (middle ++ right))
    (hleft : ∀ tab ∈ left, keeps tab = false) (hmiddle : ∀ tab ∈ middle, keeps tab = true)
    (hright : ∀ tab ∈ right, keeps tab = false) (hafter : after.tabs = middle)
    (hactive : after.active = min (before.active - left.length) (middle.length - 1)) :
    before.Leaves keeps after := by
  have hnone {tabs : List α} (h : ∀ tab ∈ tabs, keeps tab = false) : tabs.countP keeps = 0 :=
    List.countP_eq_zero.2 fun tab htab => by simp [h tab htab]
  have hcount : before.tabs.countP keeps = middle.length := by
    rw [List.countP_eq_length_filter, htabs, filter_middle hleft hmiddle hright]
  have hbefore : (before.tabs.take before.active).countP keeps =
      min (before.active - left.length) middle.length := by
    rw [htabs, List.take_append, List.take_append, List.countP_append, List.countP_append,
      hnone fun tab htab => hleft tab (List.mem_of_mem_take htab),
      hnone fun tab htab => hright tab (List.mem_of_mem_take htab),
      List.countP_eq_length.2 fun tab htab => hmiddle tab (List.mem_of_mem_take htab),
      List.length_take]
    omega
  constructor
  · rw [hafter, htabs, filter_middle hleft hmiddle hright]
  · rw [hactive, hbefore, hcount]
    omega

namespace Tracked

variable {copy : α → α} {tracked : Tracked α}

/-! ## Steps that all succeed -/

/-- The bar after steps none of which may fail. -/
def perform (copy : α → α) (tracked : Tracked α) (steps : List (Step α)) :
    Except OutOfRange (Tracked α) :=
  steps.foldlM (fun reached step => (reached.step copy step).map Prod.fst) tracked

theorem perform_cons_of_ok {next : Tracked α} {step : Step α} {result : Option Nat}
    (h : tracked.step copy step = .ok (next, result)) (steps : List (Step α)) :
    tracked.perform copy (step :: steps) = next.perform copy steps := by
  rw [perform, List.foldlM_cons, h]
  rfl

theorem perform_singleton_of_performs {step : Step α} {after : TabBar (Labelled α)}
    (h : Performs (tracked.copyTab copy) tracked.bar (step.labelled tracked.fresh) after) :
    tracked.perform copy [step] = .ok ⟨after, tracked.fresh + step.labelCount⟩ := by
  obtain ⟨result, hstep⟩ := exists_step_of_performs h
  rw [perform_cons_of_ok hstep]
  rfl

theorem perform_append_of_ok {next : Tracked α} {steps : List (Step α)}
    (h : tracked.perform copy steps = .ok next) (later : List (Step α)) :
    tracked.perform copy (steps ++ later) = next.perform copy later := by
  unfold perform at h
  rw [perform, List.foldlM_append, h]
  rfl

theorem run_eq_of_perform {next : Tracked α} {steps : List (Step α)}
    (h : tracked.perform copy steps = .ok next) : tracked.run copy steps = next := by
  induction steps generalizing tracked with
  | nil => exact Except.ok.inj h
  | cons step steps ih =>
      cases hstep : tracked.step copy step with
      | error fault =>
          rw [perform, List.foldlM_cons, hstep] at h
          cases h
      | ok outcome =>
          rw [perform_cons_of_ok hstep] at h
          have hnext : tracked.next copy step = outcome.1 := by rw [Tracked.next, hstep]
          rw [run, List.foldl_cons, hnext]
          exact ih h

/-! ## Closing tabs one at a time -/

/-- The steps that close the tabs with some labels one at a time.  Where each of them stands is told
when its turn has come. -/
def closings (copy : α → α) (tracked : Tracked α) : List Nat → List (Step β)
  | [] => []
  | label :: order =>
    let index : Int := tracked.labels.idxOf label
    .close index :: closings copy (tracked.next copy (.close index)) order

theorem filter_tabs_ne_nil {keeps : Nat → Bool} (h : tracked.labels.filter keeps ≠ []) :
    tracked.bar.tabs.filter (fun tab => keeps tab.label) ≠ [] := by
  intro hnil
  apply h
  rw [labels, List.filter_map]
  exact (congrArg _ hnil).trans List.map_nil

theorem getElem_labels (tracked : Tracked α) (position : tracked.bar.Position)
    (h : position.val < tracked.labels.length) :
    tracked.labels[position.val] = (tracked.bar.tabs.get position).label :=
  List.getElem_map _

/-- The tab with a label stands where the label does. -/
theorem exists_position_of_mem_labels {label : Nat} (h : label ∈ tracked.labels) :
    ∃ position : tracked.bar.Position, position.val = tracked.labels.idxOf label ∧
      (tracked.bar.tabs.get position).label = label := by
  have hplace : tracked.labels.idxOf label < tracked.labels.length :=
    List.idxOf_lt_length_of_mem h
  have hlength : tracked.labels.length = tracked.bar.tabs.length := List.length_map _
  let position : tracked.bar.Position := ⟨tracked.labels.idxOf label, by omega⟩
  refine ⟨position, rfl, ?_⟩
  rw [← getElem_labels tracked position hplace]
  exact List.getElem_idxOf hplace

/-- The other labels stay when a tab is closed. -/
theorem labels_closeAt {fresh : Nat} (position : tracked.bar.Position)
    (hmany : ¬ tracked.bar.tabs.length ≤ 1) :
    (⟨tracked.bar.closeAt position, fresh⟩ : Tracked α).labels =
      tracked.labels.eraseIdx position := by
  simp [labels, closeAt, hmany, List.eraseIdx_map]

/-- Closing one of the tabs that are not kept: it is no longer among those that are to be closed, and
nothing changes about those that are kept and about what is left in the end. -/
theorem exists_step_close (copy : α → α) {keeps : Nat → Bool} {label : Nat}
    (hkept : tracked.labels.filter keeps ≠ []) (hlabel : label ∈ tracked.labels)
    (hclosed : keeps label = false) :
    ∃ next result, tracked.step copy (.close (tracked.labels.idxOf label : Nat)) =
        .ok (next, result) ∧
      next.labels.filter keeps = tracked.labels.filter keeps ∧
      (label :: next.labels.filter fun other => !keeps other).Perm
        (tracked.labels.filter fun other => !keeps other) ∧
      (∀ after, next.bar.Leaves (fun tab => keeps tab.label) after →
        tracked.bar.Leaves (fun tab => keeps tab.label) after) ∧
      next.fresh = tracked.fresh := by
  obtain ⟨position, hindex, hget⟩ := exists_position_of_mem_labels hlabel
  have hnot : keeps (tracked.bar.tabs.get position).label = false := by rw [hget, hclosed]
  have hkeptTabs := filter_tabs_ne_nil hkept
  have hmany := not_length_le_one_of_closed hnot hkeptTabs
  have hplace : position.val < tracked.labels.length := by
    rw [labels, List.length_map]
    exact position.isLt
  have hfound : tracked.labels[position.val] = label :=
    (getElem_labels tracked position hplace).trans hget
  let next : Tracked α := ⟨tracked.bar.closeAt position, tracked.fresh⟩
  have hlabels : next.labels = tracked.labels.eraseIdx position := labels_closeAt position hmany
  have hperforms : Performs (tracked.copyTab copy) tracked.bar
      ((Step.close (position : Nat) : Step α).labelled tracked.fresh) next.bar :=
    Performs.close position
  obtain ⟨result, hstep⟩ := exists_step_of_performs hperforms
  refine ⟨next, result, hindex ▸ hstep, ?_, ?_, fun after h => h.of_closeAt hnot hkeptTabs, rfl⟩
  · rw [hlabels, filter_eraseIdx_of_neg hplace (by rw [hfound, hclosed])]
  · have hperm := (List.getElem_cons_eraseIdx_perm hplace).filter fun other => !keeps other
    rwa [← hlabels, hfound, List.filter_cons, if_pos (by rw [hclosed]; rfl)] at hperm

/-- If some tabs are kept, all others can be closed in any order, and what is left is the same. -/
theorem exists_perform_closings (copy : α → α) {keeps : Nat → Bool} {order : List Nat}
    (hkept : tracked.labels.filter keeps ≠ [])
    (horder : order.Perm (tracked.labels.filter fun label => !keeps label)) :
    ∃ after, tracked.perform copy (tracked.closings copy order) = .ok after ∧
      tracked.bar.Leaves (fun tab => keeps tab.label) after.bar ∧ after.fresh = tracked.fresh := by
  induction order generalizing tracked with
  | nil =>
      refine ⟨tracked, rfl, leaves_self fun tab htab => ?_, rfl⟩
      have hnone := List.filter_eq_nil_iff.1 horder.nil_eq.symm tab.label
        (List.mem_map_of_mem htab)
      simpa using hnone
  | cons label order ih =>
      obtain ⟨hlabel, hclosed⟩ := List.mem_filter.1 (horder.subset List.mem_cons_self)
      obtain ⟨next, result, hstep, hsame, hothers, hleaves, hfresh⟩ :=
        exists_step_close copy hkept hlabel (by simpa using hclosed)
      obtain ⟨after, hperform, hleft, hfreshAfter⟩ :=
        ih (hsame ▸ hkept) (horder.trans hothers.symm).cons_inv
      refine ⟨after, ?_, hleaves _ hleft, hfreshAfter.trans hfresh⟩
      have hnext : tracked.next copy (.close (tracked.labels.idxOf label : Nat)) = next := by
        rw [Tracked.next, hstep]
      rw [closings, hnext, perform_cons_of_ok hstep]
      exact hperform

/-- All tabs but those that stand together in the row, closed in any order. -/
theorem perform_closings_middle (copy : α → α) (hnodup : tracked.labels.Nodup)
    {left middle right : List (Labelled α)}
    (htabs : tracked.bar.tabs = left ++ (middle ++ right)) (hne : middle ≠ []) {order : List Nat}
    (horder : order.Perm ((left ++ right).map Labelled.label)) {after : TabBar (Labelled α)}
    (hafter : after.tabs = middle)
    (hactive : after.active = min (tracked.bar.active - left.length) (middle.length - 1)) :
    tracked.perform copy (tracked.closings copy order) = .ok ⟨after, tracked.fresh⟩ := by
  let keeps : Nat → Bool := fun label => decide (label ∈ middle.map Labelled.label)
  have hlabels : tracked.labels = left.map Labelled.label ++
      (middle.map Labelled.label ++ right.map Labelled.label) := by
    rw [labels, htabs, List.map_append, List.map_append]
  rw [hlabels, List.nodup_append, List.nodup_append] at hnodup
  obtain ⟨-, ⟨-, -, hmiddleRight⟩, hleftOthers⟩ := hnodup
  have hleft : ∀ label ∈ left.map Labelled.label, keeps label = false := fun label hlabel =>
    decide_eq_false fun hmem => hleftOthers label hlabel label (List.mem_append_left _ hmem) rfl
  have hmiddle : ∀ label ∈ middle.map Labelled.label, keeps label = true := fun label hlabel =>
    decide_eq_true hlabel
  have hright : ∀ label ∈ right.map Labelled.label, keeps label = false := fun label hlabel =>
    decide_eq_false fun hmem => hmiddleRight label hmem label hlabel rfl
  have hkept : tracked.labels.filter keeps ≠ [] := by
    rw [hlabels, filter_middle hleft hmiddle hright]
    exact fun hnil => hne (List.map_eq_nil_iff.1 hnil)
  have hclosed : (tracked.labels.filter fun label => !keeps label) =
      (left ++ right).map Labelled.label := by
    rw [hlabels, filter_not_middle hleft hmiddle hright, List.map_append]
  obtain ⟨reached, hperform, hleaves, hfresh⟩ :=
    exists_perform_closings copy hkept (hclosed ▸ horder)
  have hmiddleLeft := leaves_middle htabs
    (fun tab htab => hleft _ (List.mem_map_of_mem htab))
    (fun tab htab => hmiddle _ (List.mem_map_of_mem htab))
    (fun tab htab => hright _ (List.mem_map_of_mem htab)) hafter hactive
  rw [hperform, ← hleaves.unique hmiddleLeft, ← hfresh]

/-- The tabs to the right of a position, closed in any order. -/
theorem perform_closings_right (copy : α → α) (hnodup : tracked.labels.Nodup)
    (position : tracked.bar.Position) {order : List Nat}
    (horder : order.Perm (tracked.labels.drop (position + 1))) :
    tracked.perform copy (tracked.closings copy order) =
      .ok ⟨tracked.bar.closeToRightAt position, tracked.fresh⟩ := by
  have hposition := position.isLt
  have htabs : tracked.bar.tabs = [] ++ (tracked.bar.tabs.take (position + 1) ++
      tracked.bar.tabs.drop (position + 1)) := by
    rw [List.take_append_drop, List.nil_append]
  have hlength : (tracked.bar.tabs.take (position + 1)).length = position + 1 :=
    List.length_take_of_le hposition
  refine perform_closings_middle copy hnodup htabs ?_ ?_ rfl ?_
  · exact List.ne_nil_of_length_pos (by omega)
  · rwa [List.nil_append, List.map_drop]
  · rw [hlength]
    rfl

/-- The tabs other than the one at a position, closed in any order. -/
theorem perform_closings_others (copy : α → α) (hnodup : tracked.labels.Nodup)
    (position : tracked.bar.Position) {order : List Nat}
    (horder : order.Perm (tracked.labels.eraseIdx position)) :
    tracked.perform copy (tracked.closings copy order) =
      .ok ⟨tracked.bar.closeOthersAt position, tracked.fresh⟩ := by
  have hdrop : tracked.bar.tabs.drop position =
      tracked.bar.tabs[position] :: tracked.bar.tabs.drop (position + 1) :=
    List.drop_eq_getElem_cons position.isLt
  have htabs : tracked.bar.tabs = tracked.bar.tabs.take position ++
      ([tracked.bar.tabs[position]] ++ tracked.bar.tabs.drop (position + 1)) := by
    rw [List.singleton_append, ← hdrop, List.take_append_drop]
  refine perform_closings_middle copy hnodup htabs (List.cons_ne_nil _ _) ?_ rfl ?_
  · rwa [← List.eraseIdx_eq_take_drop_succ, ← List.eraseIdx_map]
  · exact (Nat.min_zero _).symm

end Tracked

end TextureCatalog.TabBar
