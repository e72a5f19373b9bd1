import TextureCatalog.Proofs.Session.Identity

/-!
# Where a moved tab goes

The target of a move is a place between the tabs as they stand before it, but the tab is taken out
first, so the places behind it are counted one lower.  Told by the labels, the tab is inserted
between the others that stood before the target and the others that stood from the target on.
-/

namespace TextureCatalog.TabBar

variable {α : Type}

/-! ## The other tabs -/

/-- The tabs that do not have a label. -/
def others (label : Nat) (tabs : List (Labelled α)) : List (Labelled α) :=
  tabs.filter fun tab => tab.label ≠ label

theorem others_append (label : Nat) (left right : List (Labelled α)) :
    others label (left ++ right) = others label left ++ others label right :=
  List.filter_append left right

theorem others_cons_of_ne {label : Nat} {tab : Labelled α} (h : tab.label ≠ label)
    (tabs : List (Labelled α)) : others label (tab :: tabs) = tab :: others label tabs :=
  List.filter_cons_of_pos (decide_eq_true h)

theorem others_labelFrom_of_lt {first label : Nat} (h : label < first) (tabs : List α) :
    others label (labelFrom first tabs) = labelFrom first tabs := by
  induction tabs generalizing first with
  | nil => rfl
  | cons tab tabs ih =>
      rw [labelFrom, others_cons_of_ne (Nat.ne_of_gt h), ih (Nat.lt_succ_of_lt h)]

/-- The tabs other than the one at a place are those that are left when it is taken out. -/
theorem others_labelFrom (first place : Nat) (tabs : List α) :
    others (first + place) (labelFrom first tabs) = (labelFrom first tabs).eraseIdx place := by
  induction tabs generalizing first place with
  | nil => rfl
  | cons tab tabs ih =>
      rw [labelFrom]
      cases place with
      | zero =>
          have hrest := others_labelFrom_of_lt (Nat.lt_succ_self first) tabs
          rw [List.eraseIdx_cons_zero]
          refine Eq.trans ?_ hrest
          rw [others, List.filter_cons_of_neg (by simp)]
          rfl
      | succ place =>
          have hlater : first + (place + 1) = first + 1 + place := by omega
          rw [others_cons_of_ne (by simp), hlater, ih, List.eraseIdx_cons_succ]

theorem take_labelFrom (first count : Nat) (tabs : List α) :
    (labelFrom first tabs).take count = labelFrom first (tabs.take count) := by
  induction tabs generalizing first count with
  | nil => simp [labelFrom]
  | cons tab tabs ih =>
      cases count with
      | zero => rfl
      | succ count => rw [List.take_succ_cons, labelFrom, labelFrom, List.take_succ_cons, ih]

theorem getElem?_labelFrom (first place : Nat) (tabs : List α) :
    (labelFrom first tabs)[place]? = tabs[place]?.map fun tab => ⟨first + place, tab⟩ := by
  induction tabs generalizing first place with
  | nil => rfl
  | cons tab tabs ih =>
      cases place with
      | zero => rfl
      | succ place =>
          rw [labelFrom, List.getElem?_cons_succ, List.getElem?_cons_succ, ih]
          congr 2
          funext tab
          congr 1
          omega

/-! ## The place of the moved tab -/

/-- The place of the moved tab among the others. -/
def destination (source target : Nat) : Nat :=
  if source < target then target - 1 else target

theorem destination_eq_source_iff {source target : Nat} :
    destination source target = source ↔ target = source ∨ target = source + 1 := by
  unfold destination
  split <;> omega

/-- Also a move to the place where the tab stands already takes it out and puts it back. -/
theorem tabs_moveAt (bar : TabBar α) (source : bar.Position)
    (target : Fin (bar.tabs.length + 1)) :
    (bar.moveAt source target).1.tabs =
      (bar.tabs.eraseIdx source).insertIdx (destination source target) (bar.tabs.get source) := by
  unfold moveAt
  split
  · next hstays =>
      rw [destination_eq_source_iff.2 hstays]
      exact (List.insertIdx_eraseIdx_getElem source.isLt).symm
  · rfl

theorem moveAt_place (bar : TabBar α) (source : bar.Position)
    (target : Fin (bar.tabs.length + 1)) :
    (bar.moveAt source target).2 = destination source target := by
  unfold moveAt
  split
  · next hstays => exact (destination_eq_source_iff.2 hstays).symm
  · rfl

/-- The place of the moved tab is the number of the others before the target. -/
theorem length_others_take {tabs : List α} {source target : Nat} (htarget : target ≤ tabs.length) :
    (others source ((labelFrom 0 tabs).take target)).length = destination source target := by
  have hothers := others_labelFrom 0 source (tabs.take target)
  rw [Nat.zero_add] at hothers
  have hlength : (tabs.take target).length = target := List.length_take_of_le htarget
  rw [take_labelFrom, hothers, List.length_eraseIdx, Tracked.length_labelFrom, hlength]
  rfl

theorem insertIdx_length_append (left right : List α) (tab : α) :
    (left ++ right).insertIdx left.length tab = left ++ tab :: right := by
  induction left with
  | nil => rfl
  | cons first left ih =>
      rw [List.cons_append, List.length_cons, List.insertIdx_succ_cons, ih, List.cons_append]

/-- Of the tabs from the target on, the others begin with the one at the target, if that is not the
moved tab itself. -/
theorem head?_others_drop {tabs : List α} {source target : Nat} (h : target ≠ source) :
    (others source ((labelFrom 0 tabs).drop target))[0]? = (labelFrom 0 tabs)[target]? := by
  have hat := getElem?_labelFrom 0 target tabs
  cases htab : (labelFrom 0 tabs)[target]? with
  | none =>
      rw [List.drop_eq_nil_of_le (List.getElem?_eq_none_iff.1 htab)]
      rfl
  | some tab =>
      obtain ⟨hlt, rfl⟩ := List.getElem?_eq_some_iff.1 htab
      have hlabel : ((labelFrom 0 tabs)[target]).label ≠ source := by
        rw [htab] at hat
        obtain ⟨inner, -, hinner⟩ := Option.map_eq_some_iff.1 hat.symm
        rw [← hinner, Nat.zero_add]
        exact h
      rw [List.drop_eq_getElem_cons hlt, others_cons_of_ne hlabel]
      rfl

/-! ## Moves of labelled tabs -/

theorem move_val (bar : TabBar α) (source : bar.Position) (target : Fin (bar.tabs.length + 1)) :
    bar.move (source : Nat) (target : Nat) =
      .ok ((bar.moveAt source target).1, destination source target) := by
  have hposition : bar.position (source : Nat) = .ok source := bar.position_val source
  have htarget : bar.target (target : Nat) = .ok target := bar.target_val target
  simp only [move, hposition, htarget]
  exact congrArg Except.ok (Prod.ext rfl (bar.moveAt_place source target))

section Labelled

variable (bar : TabBar α)

theorem length_tabs_ofBar : (Tracked.ofBar bar).bar.tabs.length = bar.tabs.length :=
  Tracked.length_labelFrom 0 bar.tabs

/-- The label of a tab is the place where it stands. -/
theorem getElem?_tabs_ofBar (place : Nat) :
    (Tracked.ofBar bar).bar.tabs[place]? = bar.tabs[place]?.map fun tab => ⟨place, tab⟩ := by
  have hlabelled := getElem?_labelFrom 0 place bar.tabs
  rwa [Nat.zero_add] at hlabelled

theorem label_of_getElem?_ofBar {place : Nat} {tab : Labelled α}
    (h : (Tracked.ofBar bar).bar.tabs[place]? = some tab) : tab.label = place := by
  rw [getElem?_tabs_ofBar] at h
  obtain ⟨inner, -, rfl⟩ := Option.map_eq_some_iff.1 h
  rfl

variable (source : (Tracked.ofBar bar).bar.Position)
  (target : Fin ((Tracked.ofBar bar).bar.tabs.length + 1))

/-- Told by the labels, the moved tab stands between the others from before the target and the
others from the target on. -/
theorem tabs_moveAt_ofBar :
    ((Tracked.ofBar bar).bar.moveAt source target).1.tabs =
      others source ((Tracked.ofBar bar).bar.tabs.take target) ++
        (Tracked.ofBar bar).bar.tabs.get source ::
          others source ((Tracked.ofBar bar).bar.tabs.drop target) := by
  have htarget : target.val ≤ bar.tabs.length :=
    length_tabs_ofBar bar ▸ Nat.le_of_lt_succ target.isLt
  have hothers : (labelFrom 0 bar.tabs).eraseIdx source =
      others source ((labelFrom 0 bar.tabs).take target) ++
        others source ((labelFrom 0 bar.tabs).drop target) := by
    rw [← others_append, List.take_append_drop, ← others_labelFrom 0 source, Nat.zero_add]
  rw [tabs_moveAt]
  change ((labelFrom 0 bar.tabs).eraseIdx source).insertIdx _ _ = _
  rw [hothers, ← length_others_take htarget, insertIdx_length_append]
  rfl

theorem length_others_take_ofBar :
    (others source ((Tracked.ofBar bar).bar.tabs.take target)).length =
      destination source target :=
  length_others_take (length_tabs_ofBar bar ▸ Nat.le_of_lt_succ target.isLt)

theorem getElem?_moveAt_destination :
    ((Tracked.ofBar bar).bar.moveAt source target).1.tabs[destination source target]? =
      some ((Tracked.ofBar bar).bar.tabs.get source) := by
  rw [tabs_moveAt_ofBar, ← length_others_take_ofBar bar,
    List.getElem?_append_right (Nat.le_refl _), Nat.sub_self]
  rfl

/-- Behind the moved tab stands the one that stood at the target. -/
theorem getElem?_moveAt_succ (h : target.val ≠ source.val) :
    ((Tracked.ofBar bar).bar.moveAt source target).1.tabs[destination source target + 1]? =
      (Tracked.ofBar bar).bar.tabs[target.val]? := by
  rw [tabs_moveAt_ofBar, ← length_others_take_ofBar bar,
    List.getElem?_append_right (Nat.le_add_right _ 1), Nat.add_sub_cancel_left]
  exact head?_others_drop h

/-- A move changes nothing exactly if the target is right before or right after the tab. -/
theorem moveAt_eq_self_iff :
    ((Tracked.ofBar bar).bar.moveAt source target).1 = (Tracked.ofBar bar).bar ↔
      target.val = source.val ∨ target.val = source.val + 1 := by
  constructor
  · intro hsame
    have hmoved := getElem?_moveAt_destination bar source target
    have hstood : (Tracked.ofBar bar).bar.tabs[source.val]? =
        some ((Tracked.ofBar bar).bar.tabs.get source) := List.getElem?_eq_getElem source.isLt
    rw [hsame] at hmoved
    have hplace := label_of_getElem?_ofBar bar hmoved
    rw [label_of_getElem?_ofBar bar hstood] at hplace
    exact destination_eq_source_iff.1 hplace.symm
  · intro hstays
    rw [moveAt, if_pos hstays]

end Labelled

/-- A move takes one tab out and puts it before the tab that stood at the target, or at the end;
the others keep their order.  It gives the new place of the tab, and it changes nothing exactly if
the target is right before or right after the tab.  Which tab stands where is told by labels, which
are the positions before the move. -/
theorem move_rotates (bar : TabBar α) (source : bar.Position)
    (target : Fin (bar.tabs.length + 1)) :
    let before := (Tracked.ofBar bar).bar
    let moved : Labelled α := ⟨source, bar.tabs.get source⟩
    before.map Labelled.tab = bar ∧
      before.tabs.map Labelled.label = List.range' 0 bar.tabs.length ∧
      ∃ after place,
        before.move (source : Nat) (target : Nat) = .ok (after, place) ∧
        bar.move (source : Nat) (target : Nat) = .ok (after.map Labelled.tab, place) ∧
        after.tabs = others source (before.tabs.take target) ++
          moved :: others source (before.tabs.drop target) ∧
        after.tabs[place]? = some moved ∧
        (target.val ≠ source.val → after.tabs[place + 1]? = before.tabs[target.val]?) ∧
        (after = before ↔ target.val = source.val ∨ target.val = source.val + 1) := by
  intro before moved
  have hlength : before.tabs.length = bar.tabs.length := length_tabs_ofBar bar
  have hforget : before.map Labelled.tab = bar := Tracked.forget_ofBar bar
  let taken : before.Position := ⟨source, by rw [hlength]; exact source.isLt⟩
  let given : Fin (before.tabs.length + 1) := ⟨target, by rw [hlength]; exact target.isLt⟩
  have hmove : before.move (source : Nat) (target : Nat) =
      .ok ((before.moveAt taken given).1, destination source target) := before.move_val taken given
  have hmoved : before.tabs.get taken = moved := by
    have hstood := getElem?_tabs_ofBar bar source
    rw [List.getElem?_eq_getElem source.isLt] at hstood
    exact (List.getElem?_eq_some_iff.1 hstood).2
  refine ⟨hforget, Tracked.labels_ofBar bar, _, _, hmove, ?_, ?_, ?_, ?_, ?_⟩
  · have hmap := map_move Labelled.tab before (source : Nat) (target : Nat)
    rw [hforget, hmove] at hmap
    exact hmap
  · exact (tabs_moveAt_ofBar bar taken given).trans (by rw [← hmoved])
  · exact (getElem?_moveAt_destination bar taken given).trans (congrArg some hmoved)
  · exact getElem?_moveAt_succ bar taken given
  · exact moveAt_eq_self_iff bar taken given

/-- The first of four tabs is moved before the last one, and the tab that was active stays so. -/
example : ((⟨["a", "b", "c", "d"], 1, by decide⟩ : TabBar String).move 0 3).map
    (fun (after, place) => (after.tabs, after.active, place)) =
      .ok (["b", "c", "a", "d"], 0, 2) := by
  rfl

end TextureCatalog.TabBar
