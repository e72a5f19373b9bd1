import TextureCatalog.Proofs.Session.Steps

/-!
# Operations as scripts

The operations on a row of tabs as they come about: one test or assignment after the other, on
variables that keep what was assigned to them when an operation is interrupted.  So a script could
leave a row behind in which only half of its assignments were made.  None does, because each makes
all of its tests before the first assignment.
-/

namespace TextureCatalog

variable {α γ : Type}

/-- The variables of a row of tabs. -/
structure Variables (α : Type) where
  tabs : List α
  active : Int

def TabBar.variables (bar : TabBar α) : Variables α :=
  ⟨bar.tabs, bar.active⟩

@[simp]
theorem TabBar.variables_tabs (bar : TabBar α) : bar.variables.tabs = bar.tabs :=
  rfl

@[simp]
theorem TabBar.variables_active (bar : TabBar α) : bar.variables.active = bar.active :=
  rfl

/-- What interrupts a script: a fault that it reports, or an index without an entry in a list. -/
inductive Interruption
  | outOfRange (fault : OutOfRange)
  | noEntry
  deriving DecidableEq, Repr

/-- What is done to the variables of a row until the end, or until an interruption. -/
abbrev Script (α γ : Type) := EStateM Interruption (Variables α) γ

namespace Script

/-! ## Lists -/

/-- An index counted from the end if it is negative. -/
def fromEnd (count : Nat) (index : Int) : Int :=
  if index < 0 then count + index else index

/-- The tab with an index. -/
def tabAt (index : Int) : Script α α := do
  let row ← get
  let place := fromEnd row.tabs.length index
  match (if 0 ≤ place then row.tabs[place.toNat]? else none) with
  | some tab => return tab
  | none => throw .noEntry

/-- Takes out the tab with an index. -/
def delete (index : Int) : Script α Unit := do
  let row ← get
  let place := fromEnd row.tabs.length index
  if 0 ≤ place ∧ place < row.tabs.length then
    set { row with tabs := row.tabs.eraseIdx place.toNat }
  else
    throw .noEntry

/-- Takes out the tabs from an index on. -/
def deleteFrom (index : Int) : Script α Unit :=
  modify fun row => { row with tabs := row.tabs.take (fromEnd row.tabs.length index).toNat }

/-- Inserts a tab before the one with an index, or at the end. -/
def insert (index : Int) (tab : α) : Script α Unit :=
  modify fun row =>
    let place := min (fromEnd row.tabs.length index).toNat row.tabs.length
    { row with tabs := row.tabs.insertIdx place tab }

def append (tab : α) : Script α Unit :=
  modify fun row => { row with tabs := row.tabs ++ [tab] }

def setTabs (tabs : List α) : Script α Unit :=
  modify fun row => { row with tabs }

def setActive (index : Int) : Script α Unit :=
  modify fun row => { row with active := index }

/-! ## Operations -/

/-- Reports an index at which there is no tab. -/
def checkIndex (index : Int) : Script α Unit := do
  let row ← get
  unless 0 ≤ index ∧ index < row.tabs.length do
    throw (.outOfRange (.of index row.tabs.length))

/-- Reports an index to which no tab can be moved. -/
def checkTarget (target : Int) : Script α Unit := do
  let row ← get
  unless 0 ≤ target ∧ target ≤ row.tabs.length do
    throw (.outOfRange (.of target row.tabs.length))

def activate (index : Int) : Script α Unit := do
  checkIndex index
  setActive index

def add (tab : α) : Script α Int := do
  append tab
  let row ← get
  setActive (row.tabs.length - 1)
  return row.tabs.length - 1

def addAll (tabs : List α) : Script α Unit := do
  let first := (← get).tabs.length
  forM tabs append
  if first < (← get).tabs.length then
    setActive first

/-- Repairs the active position after the tab with an index was taken out. -/
def followClosed (index : Int) : Script α Unit := do
  let row ← get
  if row.tabs.length ≤ row.active then
    setActive (row.tabs.length - 1)
  else if index < row.active then
    setActive (row.active - 1)

def close (index : Int) : Script α Unit := do
  checkIndex index
  if (← get).tabs.length ≤ 1 then
    return
  delete index
  followClosed index

def closeOthers (index : Int) : Script α Unit := do
  checkIndex index
  let kept ← tabAt index
  setTabs [kept]
  setActive 0

def closeToRight (index : Int) : Script α Unit := do
  checkIndex index
  deleteFrom (index + 1)
  if index < (← get).active then
    setActive index

def duplicate (copy : α → α) (index : Int) : Script α Int := do
  checkIndex index
  let tab ← tabAt index
  insert (index + 1) (copy tab)
  setActive (index + 1)
  return index + 1

/-- Repairs the active position after the tab with an index was moved. -/
def followMoved (index destination : Int) : Script α Unit := do
  let active := (← get).active
  if active = index then
    setActive destination
  else if index < active ∧ active ≤ destination then
    setActive (active - 1)
  else if destination ≤ active ∧ active < index then
    setActive (active + 1)

/-- The position that a moved tab gets among `count` others. -/
def destination (count : Nat) (index target : Int) : Int :=
  min (max (if index < target then target - 1 else target) 0) count

/-- Moves a tab, without a test of the indices. -/
def shift (index target : Int) : Script α Int := do
  if target = index ∨ target = index + 1 then
    return index
  let tab ← tabAt index
  delete index
  let place := destination (← get).tabs.length index target
  insert place tab
  followMoved index place
  return place

def move (index target : Int) : Script α Int := do
  checkIndex index
  checkTarget target
  shift index target

/-- The script of a step.  Gives the position of the tab that was added or moved. -/
def ofStep (copy : α → α) : TabBar.Step α → Script α (Option Int)
  | .activate index => do activate index; return none
  | .add tab => do return some (← add tab)
  | .addAll tabs => do addAll tabs; return none
  | .close index => do close index; return none
  | .closeOthers index => do closeOthers index; return none
  | .closeToRight index => do closeToRight index; return none
  | .duplicate index => do return some (← duplicate copy index)
  | .move index target => do return some (← move index target)

/-! ## What single commands do -/

theorem run_bind_of_ok {β : Type} {first : Script α β} {next : β → Script α γ}
    {row after : Variables α} {value : β} (h : first.run row = .ok value after) :
    (first >>= next).run row = (next value).run after := by
  rw [EStateM.run_bind, h]

theorem run_bind_of_error {β : Type} {first : Script α β} {next : β → Script α γ}
    {row after : Variables α} {interruption : Interruption}
    (h : first.run row = .error interruption after) :
    (first >>= next).run row = .error interruption after := by
  rw [EStateM.run_bind, h]

theorem run_get_bind (next : Variables α → Script α γ) (row : Variables α) :
    (get >>= next).run row = (next row).run row :=
  rfl

theorem fromEnd_natCast (count place : Nat) : fromEnd count place = place :=
  if_neg (Int.not_lt.2 (Int.natCast_nonneg place))

theorem run_tabAt (row : Variables α) {place : Nat} {tab : α} (h : row.tabs[place]? = some tab) :
    (tabAt (place : Int)).run row = .ok tab row := by
  simp [tabAt, fromEnd_natCast, h]

theorem run_delete (row : Variables α) {place : Nat} (h : place < row.tabs.length) :
    (delete (place : Int)).run row = .ok () ⟨row.tabs.eraseIdx place, row.active⟩ := by
  simp [delete, fromEnd_natCast, h]

theorem run_deleteFrom (row : Variables α) (place : Nat) :
    (deleteFrom (place : Int)).run row = .ok () ⟨row.tabs.take place, row.active⟩ := by
  simp [deleteFrom, fromEnd_natCast]

theorem run_insert (row : Variables α) {place : Nat} (h : place ≤ row.tabs.length) (tab : α) :
    (insert (place : Int) tab).run row = .ok () ⟨row.tabs.insertIdx place tab, row.active⟩ := by
  simp [insert, fromEnd_natCast, h]

theorem run_setActive (row : Variables α) (index : Int) :
    (setActive index).run row = .ok () ⟨row.tabs, index⟩ :=
  rfl

theorem run_forM_append (tabs : List α) (row : Variables α) :
    (forM tabs append : Script α Unit).run row = .ok () ⟨row.tabs ++ tabs, row.active⟩ := by
  induction tabs generalizing row with
  | nil => simp
  | cons tab tabs ih =>
      have hfirst : (append tab).run row = .ok () ⟨row.tabs ++ [tab], row.active⟩ := rfl
      rw [List.forM_cons, run_bind_of_ok hfirst, ih, List.append_assoc]
      rfl

theorem run_checkIndex (row : Variables α) (index : Int) :
    (checkIndex index).run row =
      if 0 ≤ index ∧ index < row.tabs.length then .ok () row
      else .error (.outOfRange (.of index row.tabs.length)) row := by
  rw [checkIndex, run_get_bind]
  split <;> rfl

theorem run_checkTarget (row : Variables α) (target : Int) :
    (checkTarget target).run row =
      if 0 ≤ target ∧ target ≤ row.tabs.length then .ok () row
      else .error (.outOfRange (.of target row.tabs.length)) row := by
  rw [checkTarget, run_get_bind]
  split <;> rfl

theorem run_followClosed (tabs : List α) (hpos : 0 < tabs.length) (active place : Nat) :
    (followClosed (place : Int)).run ⟨tabs, active⟩ =
      .ok () ⟨tabs, TabBar.activeAfterClosing active place tabs.length⟩ := by
  rw [followClosed, run_get_bind]
  simp only [TabBar.activeAfterClosing, Int.ofNat_le, Int.ofNat_lt]
  by_cases hlast : tabs.length ≤ active
  · simp [hlast, run_setActive]
    omega
  · by_cases hleft : place < active
    · simp [hlast, hleft, run_setActive]
      omega
    · simp [hlast, hleft]

theorem run_followMoved (tabs : List α) (active source destination : Nat) :
    (followMoved (source : Int) destination).run ⟨tabs, active⟩ =
      .ok () ⟨tabs, TabBar.activeAfterMoving active source destination⟩ := by
  rw [followMoved, run_get_bind]
  simp only [TabBar.activeAfterMoving, Int.ofNat_le, Int.ofNat_lt, Int.natCast_inj]
  by_cases hsame : active = source
  · simp [hsame, run_setActive]
  · by_cases hleft : source < active ∧ active ≤ destination
    · simp [hsame, hleft, run_setActive]
      omega
    · by_cases hright : destination ≤ active ∧ active < source
      · simp [hsame, hleft, hright, run_setActive]
      · simp [hsame, hleft, hright]

end Script

/-! ## What scripts do -/

/-- How the script of an operation on a bar ends: with the variables of the bar after it, or, if it
reports a fault, with those of the bar before it. -/
def TabBar.ending (bar : TabBar α) :
    Except OutOfRange (TabBar α × γ) → EStateM.Result Interruption (Variables α) γ
  | .ok (after, result) => .ok result after.variables
  | .error fault => .error (.outOfRange fault) bar.variables

namespace Script

variable {bar : TabBar α} {index : Int}

/-- A script that begins with the test of the index on which it operates. -/
theorem run_checked {script : Script α γ} {operation : bar.Position → TabBar α × γ}
    (h : ∀ position : bar.Position, index = (position : Nat) →
      script.run bar.variables =
        .ok (operation position).2 (operation position).1.variables) :
    (do checkIndex index; script).run bar.variables =
      bar.ending ((bar.position index).map operation) := by
  have hcheck := run_checkIndex bar.variables index
  rw [TabBar.variables_tabs] at hcheck
  rcases bar.map_position_cases index operation with
    ⟨position, hindex, hdone⟩ | ⟨hinvalid, hfault⟩
  · have hposition := position.isLt
    rw [if_pos (by omega)] at hcheck
    rw [run_bind_of_ok hcheck, hdone]
    exact h position hindex
  · -- Nothing has been assigned yet when the test interrupts the script.
    rw [if_neg hinvalid] at hcheck
    rw [run_bind_of_error hcheck, hfault]
    rfl

theorem run_activate :
    (activate index).run bar.variables =
      bar.ending ((bar.position index).map fun position => (bar.activateAt position, ())) := by
  refine run_checked fun position hindex => ?_
  rw [hindex, run_setActive]
  rfl

theorem run_add (tab : α) :
    (add tab).run bar.variables = .ok (bar.tabs.length : Int) (bar.add tab).variables := by
  have hlength : ((bar.tabs ++ [tab]).length : Int) - 1 = bar.tabs.length := by simp
  have happend : (append tab).run bar.variables = .ok () ⟨bar.tabs ++ [tab], bar.active⟩ := rfl
  rw [add, run_bind_of_ok happend, run_get_bind, hlength, run_bind_of_ok (run_setActive _ _)]
  rfl

theorem run_addAll (tabs : List α) :
    (addAll tabs).run bar.variables = .ok () (bar.addAll tabs).variables := by
  rw [addAll, run_get_bind, run_bind_of_ok (run_forM_append tabs _), run_get_bind]
  by_cases hnone : tabs = []
  · simp [hnone, TabBar.addAll, TabBar.variables]
  · have hpos := List.length_pos_iff.2 hnone
    simp [hnone, hpos, TabBar.addAll, run_setActive, TabBar.variables]

theorem run_close :
    (close index).run bar.variables =
      bar.ending ((bar.position index).map fun position => (bar.closeAt position, ())) := by
  refine run_checked fun position hindex => ?_
  have hposition := position.isLt
  rw [run_get_bind, TabBar.variables_tabs]
  by_cases honly : bar.tabs.length ≤ 1
  · simp [TabBar.closeAt, honly]
  · have hlength := List.length_eraseIdx_of_lt hposition
    have hdelete := run_delete bar.variables hposition
    have hfollow := run_followClosed (bar.tabs.eraseIdx position) (by omega) bar.active position
    rw [if_neg honly, hindex, run_bind_of_ok hdelete]
    exact hfollow.trans (by simp [TabBar.closeAt, honly, TabBar.variables, hlength])

theorem run_closeOthers :
    (closeOthers index).run bar.variables =
      bar.ending ((bar.position index).map fun position => (bar.closeOthersAt position, ())) := by
  refine run_checked fun position hindex => ?_
  have htab := run_tabAt bar.variables (List.getElem?_eq_getElem position.isLt)
  rw [hindex, run_bind_of_ok htab]
  rfl

theorem run_closeToRight :
    (closeToRight index).run bar.variables =
      bar.ending ((bar.position index).map fun position => (bar.closeToRightAt position, ())) := by
  refine run_checked fun position hindex => ?_
  have hdelete := run_deleteFrom bar.variables (position + 1)
  rw [Int.natCast_add, Int.natCast_one, ← hindex] at hdelete
  rw [run_bind_of_ok hdelete, run_get_bind, TabBar.variables_active, hindex]
  by_cases hkept : bar.active ≤ position.val
  · rw [if_neg (by omega)]
    simp [hkept, TabBar.closeToRightAt, TabBar.variables]
  · have hmin : min bar.active position = position := Nat.min_eq_right (by omega)
    rw [if_pos (by omega), run_setActive]
    simp only [TabBar.closeToRightAt, TabBar.variables, hmin]

theorem run_duplicate (copy : α → α) :
    (duplicate copy index).run bar.variables =
      bar.ending ((bar.position index).map fun position =>
        (bar.insertAfter position (copy (bar.tabs.get position)), (position.val : Int) + 1)) := by
  refine run_checked fun position hindex => ?_
  have htab : bar.variables.tabs[position.val]? = some (bar.tabs.get position) :=
    List.getElem?_eq_getElem position.isLt
  have hplace : position.val + 1 ≤ bar.variables.tabs.length := position.isLt
  have hinsert := run_insert bar.variables hplace (copy (bar.tabs.get position))
  rw [Int.natCast_add, Int.natCast_one] at hinsert
  rw [hindex, run_bind_of_ok (run_tabAt _ htab), run_bind_of_ok hinsert]
  rfl

theorem destination_natCast (count source target : Nat) (hsource : source ≤ count)
    (htarget : target ≤ count + 1) :
    destination count source target =
      ((if source < target then target - 1 else target : Nat) : Int) := by
  unfold destination
  by_cases hright : source < target
  · rw [if_pos hright, if_pos (Int.ofNat_lt.2 hright)]
    omega
  · rw [if_neg hright, if_neg (fun hlt => hright (Int.ofNat_lt.1 hlt))]
    omega

theorem run_shift (bar : TabBar α) (source : bar.Position) (target : Fin (bar.tabs.length + 1)) :
    (shift (source : Nat) (target : Nat)).run bar.variables =
      .ok ((bar.moveAt source target).2 : Int) (bar.moveAt source target).1.variables := by
  have hsource := source.isLt
  have htarget := target.isLt
  have hlength : (bar.tabs.eraseIdx source).length = bar.tabs.length - 1 :=
    List.length_eraseIdx_of_lt source.isLt
  unfold shift TabBar.moveAt
  by_cases hstays : target.val = source.val ∨ target.val = source.val + 1
  · have hstaysInt : (target.val : Int) = source.val ∨ (target.val : Int) = source.val + 1 := by
      omega
    rw [if_pos hstaysInt, if_pos hstays]
    rfl
  · have hmoves :
        ¬ ((target.val : Int) = source.val ∨ (target.val : Int) = source.val + 1) := by
      omega
    have htab := run_tabAt bar.variables (List.getElem?_eq_getElem hsource)
    have hdelete := run_delete bar.variables hsource
    have hdestination := destination_natCast (bar.tabs.eraseIdx source).length source target
      (by omega) (by omega)
    have hplace : (if source.val < target.val then target.val - 1 else target.val) ≤
        (bar.tabs.eraseIdx source).length := by
      split <;> omega
    have hinsert := run_insert ⟨bar.tabs.eraseIdx source, bar.active⟩ hplace
      bar.tabs[source.val]
    simp only [if_neg hstays, if_neg hmoves]
    rw [run_bind_of_ok htab, run_bind_of_ok hdelete, run_get_bind]
    simp only [TabBar.variables_tabs, TabBar.variables_active, hdestination]
    rw [run_bind_of_ok hinsert, run_bind_of_ok (run_followMoved _ _ _ _)]
    rfl

theorem run_move (index target : Int) :
    (move index target).run bar.variables =
      bar.ending ((bar.move index target).map fun (after, place) => (after, (place : Int))) := by
  have hcheck := run_checkIndex bar.variables index
  have hcheckTarget := run_checkTarget bar.variables target
  rw [TabBar.variables_tabs] at hcheck hcheckTarget
  unfold move TabBar.move
  by_cases hindex : 0 ≤ index ∧ index < bar.tabs.length
  · have hsource : bar.position index = .ok ⟨index.toNat, by omega⟩ := dif_pos hindex
    rw [if_pos hindex] at hcheck
    rw [run_bind_of_ok hcheck, hsource]
    rcases bar.map_target_cases target (bar.moveAt ⟨index.toNat, by omega⟩) with
      ⟨place, htarget, hdone⟩ | ⟨hinvalid, hfault⟩
    · have hplace := place.isLt
      have hshift := run_shift bar ⟨index.toNat, by omega⟩ place
      have hnat : ((index.toNat : Nat) : Int) = index := by omega
      rw [← htarget, hnat] at hshift
      rw [if_pos (by omega)] at hcheckTarget
      rw [run_bind_of_ok hcheckTarget, hshift]
      simp only [hdone]
      rfl
    · rw [if_neg hinvalid] at hcheckTarget
      rw [run_bind_of_error hcheckTarget]
      simp only [hfault]
      rfl
  · have hfault : bar.position index = .error (.of index bar.tabs.length) := dif_neg hindex
    rw [if_neg hindex] at hcheck
    rw [run_bind_of_error hcheck, hfault]
    rfl

theorem run_bind_pure {δ : Type} {script : Script α γ}
    {outcome : Except OutOfRange (TabBar α × γ)}
    (h : script.run bar.variables = bar.ending outcome) (describe : γ → δ) :
    (script >>= fun result => pure (describe result)).run bar.variables =
      bar.ending (outcome.map fun (after, result) => (after, describe result)) := by
  cases outcome with
  | ok outcome => exact run_bind_of_ok h
  | error fault => exact run_bind_of_error h

/-- A script does what its step does.  If the step fails, the script reports its fault and leaves
the variables as they were. -/
theorem run_ofStep (copy : α → α) (bar : TabBar α) (step : TabBar.Step α) :
    (ofStep copy step).run bar.variables =
      bar.ending ((bar.step copy step).map fun (after, result) =>
        (after, result.map Int.ofNat)) := by
  cases step with
  | activate index =>
      refine (run_bind_pure run_activate fun _ => none).trans ?_
      simp only [TabBar.step, TabBar.activate]
      cases bar.position index <;> rfl
  | add tab =>
      have hadd : (add tab).run bar.variables = bar.ending (.ok (bar.add tab, _)) := run_add tab
      exact run_bind_pure hadd some
  | addAll tabs =>
      have haddAll : (addAll tabs).run bar.variables = bar.ending (.ok (bar.addAll tabs, ())) :=
        run_addAll tabs
      exact run_bind_pure haddAll fun _ => none
  | close index =>
      refine (run_bind_pure run_close fun _ => none).trans ?_
      simp only [TabBar.step, TabBar.close]
      cases bar.position index <;> rfl
  | closeOthers index =>
      refine (run_bind_pure run_closeOthers fun _ => none).trans ?_
      simp only [TabBar.step, TabBar.closeOthers]
      cases bar.position index <;> rfl
  | closeToRight index =>
      refine (run_bind_pure run_closeToRight fun _ => none).trans ?_
      simp only [TabBar.step, TabBar.closeToRight]
      cases bar.position index <;> rfl
  | duplicate index =>
      refine (run_bind_pure (run_duplicate copy) some).trans ?_
      simp only [TabBar.step, TabBar.duplicate]
      cases bar.position index <;> rfl
  | move index target =>
      refine (run_bind_pure (run_move index target) some).trans ?_
      simp only [TabBar.step]
      cases bar.move index target <;> rfl

end Script

end TextureCatalog
