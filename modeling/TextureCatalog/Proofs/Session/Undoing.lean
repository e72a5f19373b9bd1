import TextureCatalog.Proofs.Session.Identity
import TextureCatalog.Proofs.Session.Moving

/-!
# Undoing moves

A move is undone by one move.  A target is a place between the tabs before the tab is taken out, so
a tab that went to the right comes back at its old place as the target, and one that went to the
left or stayed comes back at the place behind it.  Then the tabs between the two places are shifted
back, and the position of the active tab with them.
-/

namespace TextureCatalog.TabBar

variable {α : Type}

/-- The target of a move by which the tab at a place comes to the place `source`. -/
def returnTarget (place source : Nat) : Nat :=
  if source < place then source else source + 1

theorem destination_returnTarget (place source : Nat) :
    destination place (returnTarget place source) = source := by
  unfold destination returnTarget
  split <;> split <;> omega

theorem returnTarget_le {place source count : Nat} (h : source < count) :
    returnTarget place source ≤ count := by
  unfold returnTarget
  split <;> omega

/-! ## The active position -/

theorem activeAfterMoving_self (active place : Nat) :
    activeAfterMoving active place place = active := by
  unfold activeAfterMoving
  split
  · omega
  · rw [if_neg (by omega), if_neg (by omega)]

/-- The tabs between the two places are shifted one way by a move and the other way by the move
back. -/
theorem activeAfterMoving_back (active source place : Nat) :
    activeAfterMoving (activeAfterMoving active source place) place source = active := by
  grind [activeAfterMoving]

theorem active_moveAt (bar : TabBar α) (source : bar.Position)
    (target : Fin (bar.tabs.length + 1)) :
    (bar.moveAt source target).1.active =
      activeAfterMoving bar.active source (destination source target) := by
  unfold moveAt
  split
  · next hstays => rw [destination_eq_source_iff.2 hstays, activeAfterMoving_self]
  · rfl

/-! ## The move back -/

section MoveBack

variable (bar : TabBar α) (source : bar.Position) (target : Fin (bar.tabs.length + 1))

theorem length_tabs_moveAt : (bar.moveAt source target).1.tabs.length = bar.tabs.length :=
  (bar.moveAt_tabs_perm source target).length_eq

theorem getElem?_tabs_moveAt :
    (bar.moveAt source target).1.tabs[destination source target]? =
      some (bar.tabs.get source) := by
  have hlength : (bar.tabs.eraseIdx source).length = bar.tabs.length - 1 :=
    List.length_eraseIdx_of_lt source.isLt
  have hplace : destination source target ≤ (bar.tabs.eraseIdx source).length := by
    have hsource := source.isLt
    have htarget := target.isLt
    unfold destination
    split <;> omega
  rw [tabs_moveAt, List.getElem?_insertIdx_self, if_pos hplace]

/-- The tab at the new place is the moved one, so moving it to its old place restores the tabs and
the active position. -/
theorem moveAt_moveAt (place : (bar.moveAt source target).1.Position)
    (back : Fin ((bar.moveAt source target).1.tabs.length + 1))
    (hplace : place.val = destination source target)
    (hback : destination place back = source) :
    ((bar.moveAt source target).1.moveAt place back).1 = bar := by
  have htab : (bar.moveAt source target).1.tabs.get place = bar.tabs.get source := by
    have hmoved := getElem?_tabs_moveAt bar source target
    rw [← hplace, List.getElem?_eq_getElem place.isLt] at hmoved
    exact Option.some.inj hmoved
  apply eq_of_tabs_active
  · calc ((bar.moveAt source target).1.moveAt place back).1.tabs
      _ = ((bar.moveAt source target).1.tabs.eraseIdx place).insertIdx source
            (bar.tabs.get source) := by rw [tabs_moveAt, hback, htab]
      _ = (bar.tabs.eraseIdx source).insertIdx source (bar.tabs.get source) := by
            rw [hplace, tabs_moveAt, List.eraseIdx_insertIdx_self]
      _ = bar.tabs := List.insertIdx_eraseIdx_getElem source.isLt
  · rw [active_moveAt, active_moveAt, hback, hplace, activeAfterMoving_back]

/-- The move of the tab from its new place to the return target restores the bar. -/
theorem move_returnTarget :
    (bar.moveAt source target).1.move (destination source target : Nat)
        (returnTarget (destination source target) source : Nat) =
      .ok (bar, (source : Nat)) := by
  have hmoved : destination source target < (bar.moveAt source target).1.tabs.length :=
    (List.getElem?_eq_some_iff.1 (getElem?_tabs_moveAt bar source target)).1
  have hsource : source.val < (bar.moveAt source target).1.tabs.length := by
    rw [length_tabs_moveAt]
    exact source.isLt
  let place : (bar.moveAt source target).1.Position := ⟨destination source target, hmoved⟩
  let back : Fin ((bar.moveAt source target).1.tabs.length + 1) :=
    ⟨returnTarget place source, Nat.lt_succ_of_le (returnTarget_le hsource)⟩
  have hback : destination place back = source := destination_returnTarget place source
  have hmove := move_val (bar.moveAt source target).1 place back
  rw [hback, moveAt_moveAt bar source target place back rfl hback] at hmove
  exact hmove

end MoveBack

/-- After a move, the tab that was moved is moved once more: to its old place if that is further to
the left, and behind it otherwise.  This restores the order of the tabs and the active position, and
gives the old place. -/
theorem move_undone (bar : TabBar α) (source : bar.Position)
    (target : Fin (bar.tabs.length + 1)) :
    ∃ moved place, bar.move (source : Nat) (target : Nat) = .ok (moved, place) ∧
      (source.val < place → moved.move (place : Nat) (source : Nat) = .ok (bar, source.val)) ∧
      (place ≤ source.val →
        moved.move (place : Nat) (source + 1 : Nat) = .ok (bar, source.val)) := by
  have hback := move_returnTarget bar source target
  refine ⟨_, _, bar.move_val source target, fun hright => ?_, fun hleft => ?_⟩
  · rwa [returnTarget, if_pos hright] at hback
  · rwa [returnTarget, if_neg (Nat.not_lt.2 hleft)] at hback

/-- The last of four tabs, which is active, is moved before the second one and back. -/
example : ((⟨["a", "b", "c", "d"], 3, by decide⟩ : TabBar String).move 3 1).bind
    (fun (moved, place) => (moved.move place 4).map fun (after, returned) =>
      (moved.tabs, moved.active, after.tabs, after.active, returned)) =
      .ok (["a", "d", "b", "c"], 1, ["a", "b", "c", "d"], 3, 3) := by
  rfl

/-! ## Runs of moves -/

/-- The steps that move a tab. -/
def Step.IsMove : Step α → Prop
  | .move _ _ => True
  | _ => False

/-- Each move is undone by one move; one that fails has changed nothing and fails again. -/
theorem exists_next_back (copy : α → α) (bar : TabBar α) {step : Step α} (h : step.IsMove) :
    ∃ back : Step α, back.IsMove ∧ next copy (next copy bar step) back = bar := by
  cases step with
  | move index target =>
      rcases bar.move_cases index target with ⟨source, place, rfl, rfl, hmove⟩ | ⟨fault, hfault, -⟩
      · have hback := move_returnTarget bar source place
        refine ⟨.move (destination source place : Nat)
          (returnTarget (destination source place) source : Nat), trivial, ?_⟩
        simp only [next, TabBar.step, hmove, hback, Except.map]
      · exact ⟨.move index target, trivial, by simp only [next, TabBar.step, hfault, Except.map]⟩
  | _ => exact absurd h id

/-- However tabs were moved, as many moves restore the bar. -/
theorem exists_run_back (copy : α → α) {steps : List (Step α)}
    (h : ∀ step ∈ steps, step.IsMove) (bar : TabBar α) :
    ∃ back : List (Step α), back.length = steps.length ∧ (∀ step ∈ back, step.IsMove) ∧
      run copy (run copy bar steps) back = bar := by
  induction steps generalizing bar with
  | nil => exact ⟨[], rfl, h, rfl⟩
  | cons step steps ih =>
      obtain ⟨last, hlast, hnext⟩ := exists_next_back copy bar (h step List.mem_cons_self)
      obtain ⟨back, hlength, hback, hrun⟩ :=
        ih (fun other hother => h other (List.mem_cons_of_mem _ hother)) (next copy bar step)
      -- The moves are undone from the last one to the first one.
      refine ⟨back ++ [last], by simp [hlength], ?_, ?_⟩
      · exact List.forall_mem_append.2 ⟨hback, List.forall_mem_singleton.2 hlast⟩
      · rw [run, run, List.foldl_append, List.foldl_cons]
        change next copy (run copy (run copy (next copy bar step) steps) back) last = bar
        rw [hrun, hnext]

end TextureCatalog.TabBar
