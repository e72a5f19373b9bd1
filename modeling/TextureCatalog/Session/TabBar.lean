import TextureCatalog.Text.Numeral

/-!
# Tab bars

A row of tabs, one of which is active.  The row is never empty and the active position always lies
in it, which the type ensures.  Tabs are named by their index; an index outside the row is an error
that leaves the bar as it was.
-/

namespace TextureCatalog

/-- A row of tabs and the position of the active one. -/
structure TabBar (α : Type) where
  tabs : List α
  active : Nat := 0
  active_lt : active < tabs.length

/-- Why a step by an index fails: there is no tab with the index, or none can be moved to it.  The
message names the index, so it cannot be made for one with more digits than are ever written. -/
inductive OutOfRange
  | reported (index : Int) (count : Nat)
  | numeralTooLong
  deriving DecidableEq, Repr

namespace OutOfRange

def of (index : Int) (count : Nat) : OutOfRange :=
  if Text.isWritable index && Text.isWritable count then .reported index count
  else .numeralTooLong

def message : OutOfRange → String
  | .reported index count =>
    s!"Tab index {Text.decimalText index} out of range (have {Text.decimalText count} tabs)"
  | .numeralTooLong => "A number has too many digits."

end OutOfRange

namespace TabBar

variable {α β : Type}

theorem length_pos (bar : TabBar α) : 0 < bar.tabs.length :=
  Nat.lt_of_le_of_lt (Nat.zero_le _) bar.active_lt

/-- The bar of the given tabs with the first of them active; without any, of the spare one. -/
def ofList (tabs : List α) (spare : α) : TabBar α :=
  match tabs with
  | [] => ⟨[spare], 0, by simp⟩
  | first :: rest => ⟨first :: rest, 0, by simp⟩

abbrev Position (bar : TabBar α) := Fin bar.tabs.length

def activeTab (bar : TabBar α) : α :=
  bar.tabs.get ⟨bar.active, bar.active_lt⟩

def position (bar : TabBar α) (index : Int) : Except OutOfRange bar.Position :=
  if h : 0 ≤ index ∧ index < bar.tabs.length then .ok ⟨index.toNat, by omega⟩
  else .error (.of index bar.tabs.length)

/-- The place with a given index to which a tab can be moved: before any tab or at the end. -/
def target (bar : TabBar α) (index : Int) : Except OutOfRange (Fin (bar.tabs.length + 1)) :=
  if h : 0 ≤ index ∧ index ≤ bar.tabs.length then .ok ⟨index.toNat, by omega⟩
  else .error (.of index bar.tabs.length)

/-! ## Operations at positions -/

def activateAt (bar : TabBar α) (position : bar.Position) : TabBar α :=
  ⟨bar.tabs, position, position.isLt⟩

/-- Adds a tab at the end, which becomes active. -/
def add (bar : TabBar α) (tab : α) : TabBar α :=
  ⟨bar.tabs ++ [tab], bar.tabs.length, by simp⟩

/-- Adds tabs at the end, the first of which becomes active. -/
def addAll (bar : TabBar α) (added : List α) : TabBar α :=
  if h : added = [] then bar
  else ⟨bar.tabs ++ added, bar.tabs.length, by simpa using List.length_pos_iff.mpr h⟩

/-- The active position after the tab at a position has been taken out of `count + 1` tabs. -/
def activeAfterClosing (active position count : Nat) : Nat :=
  if count ≤ active then count - 1
  else if position < active then active - 1
  else active

/-- Closes the tab at a position, unless it is the only one. -/
def closeAt (bar : TabBar α) (position : bar.Position) : TabBar α :=
  if h : bar.tabs.length ≤ 1 then bar
  else
    { tabs := bar.tabs.eraseIdx position
      active := activeAfterClosing bar.active position (bar.tabs.length - 1)
      active_lt := by
        have := bar.active_lt
        rw [List.length_eraseIdx_of_lt position.isLt]
        grind [activeAfterClosing] }

def closeOthersAt (bar : TabBar α) (position : bar.Position) : TabBar α :=
  ⟨[bar.tabs[position]], 0, by simp⟩

/-- Closes the tabs after a position.  If the active one is among them, the tab at the position
becomes active. -/
def closeToRightAt (bar : TabBar α) (position : bar.Position) : TabBar α :=
  { tabs := bar.tabs.take (position + 1)
    active := min bar.active position
    active_lt := by
      have := bar.active_lt
      have := position.isLt
      rw [List.length_take]
      omega }

/-- Inserts a tab right after a position; it becomes active. -/
def insertAfter (bar : TabBar α) (position : bar.Position) (tab : α) : TabBar α :=
  { tabs := bar.tabs.insertIdx (position + 1) tab
    active := position + 1
    active_lt := by
      have := position.isLt
      rw [List.length_insertIdx_of_le_length (by omega)]
      omega }

/-- The active position after the tab at position `source` has been moved to position
`destination`: the same tab stays active. -/
def activeAfterMoving (active source destination : Nat) : Nat :=
  if active = source then destination
  else if source < active ∧ active ≤ destination then active - 1
  else if destination ≤ active ∧ active < source then active + 1
  else active

/-- Moves the tab at a position before the tab that stands at the target, or to the end.  Gives the
new position of the moved tab. -/
def moveAt (bar : TabBar α) (source : bar.Position) (target : Fin (bar.tabs.length + 1)) :
    TabBar α × Nat :=
  if target.val = source.val ∨ target.val = source.val + 1 then (bar, source)
  else
    let destination := if source.val < target.val then target.val - 1 else target.val
    ({ tabs := (bar.tabs.eraseIdx source).insertIdx destination bar.tabs[source]
       active := activeAfterMoving bar.active source destination
       active_lt := by
        have := bar.active_lt
        have := source.isLt
        have := target.isLt
        have hlength : (bar.tabs.eraseIdx source).length = bar.tabs.length - 1 :=
          List.length_eraseIdx_of_lt source.isLt
        rw [List.length_insertIdx_of_le_length (by grind)]
        grind [activeAfterMoving] },
     destination)

def modifyAt (bar : TabBar α) (position : bar.Position) (change : α → α) : TabBar α :=
  ⟨bar.tabs.modify position change, bar.active, by simpa using bar.active_lt⟩

/-! ## Operations by index -/

def activate (bar : TabBar α) (index : Int) : Except OutOfRange (TabBar α) :=
  (bar.position index).map bar.activateAt

def close (bar : TabBar α) (index : Int) : Except OutOfRange (TabBar α) :=
  (bar.position index).map bar.closeAt

def closeOthers (bar : TabBar α) (index : Int) : Except OutOfRange (TabBar α) :=
  (bar.position index).map bar.closeOthersAt

def closeToRight (bar : TabBar α) (index : Int) : Except OutOfRange (TabBar α) :=
  (bar.position index).map bar.closeToRightAt

/-- Puts a copy of a tab right after it; the copy becomes active. -/
def duplicate (copy : α → α) (bar : TabBar α) (index : Int) : Except OutOfRange (TabBar α) :=
  (bar.position index).map fun position => bar.insertAfter position (copy bar.tabs[position])

/-- Moves a tab before the one at the target index, or to the end.  Gives its new position. -/
def move (bar : TabBar α) (index targetIndex : Int) : Except OutOfRange (TabBar α × Nat) :=
  match bar.position index with
  | .error fault => .error fault
  | .ok source => (bar.target targetIndex).map (bar.moveAt source)

def modify (bar : TabBar α) (index : Int) (change : α → α) : Except OutOfRange (TabBar α) :=
  (bar.position index).map fun position => bar.modifyAt position change

/-! ## Steps -/

/-- An operation on a bar, where added tabs are described by values of `β`. -/
inductive Step (β : Type)
  | activate (index : Int)
  | add (tab : β)
  | addAll (tabs : List β)
  | close (index : Int)
  | closeOthers (index : Int)
  | closeToRight (index : Int)
  | duplicate (index : Int)
  | move (index target : Int)
  deriving DecidableEq, Repr

def Step.map (describe : β → α) : Step β → Step α
  | .activate index => .activate index
  | .add tab => .add (describe tab)
  | .addAll tabs => .addAll (tabs.map describe)
  | .close index => .close index
  | .closeOthers index => .closeOthers index
  | .closeToRight index => .closeToRight index
  | .duplicate index => .duplicate index
  | .move index target => .move index target

/-- Does a step.  Gives the bar after it, and the position of the tab that was added or moved. -/
def step (copy : α → α) (bar : TabBar α) : Step α → Except OutOfRange (TabBar α × Option Nat)
  | .activate index => (bar.activate index).map (·, none)
  | .add tab => .ok (bar.add tab, some bar.tabs.length)
  | .addAll tabs => .ok (bar.addAll tabs, none)
  | .close index => (bar.close index).map (·, none)
  | .closeOthers index => (bar.closeOthers index).map (·, none)
  | .closeToRight index => (bar.closeToRight index).map (·, none)
  | .duplicate index => (bar.duplicate copy index).map fun after => (after, some after.active)
  | .move index target =>
    (bar.move index target).map fun (after, position) => (after, some position)

/-- The bar after a step; a step that fails changes nothing. -/
def next (copy : α → α) (bar : TabBar α) (step : Step α) : TabBar α :=
  match bar.step copy step with
  | .ok (after, _) => after
  | .error _ => bar

def run (copy : α → α) (bar : TabBar α) (steps : List (Step α)) : TabBar α :=
  steps.foldl (next copy) bar

end TabBar

end TextureCatalog
