import TextureCatalog.Proofs.Session.Scripts
import TextureCatalog.Session.Workspace

/-!
# Steps that fail

A step fails if an index lies outside the row, and in no other case.  It reports the index and how
many tabs there are, if these numbers can be written, and changes nothing.  So it leaves no trace in
a run: without the steps that fail, the run leads to the same state, and the other steps have the
same results.
-/

namespace TextureCatalog.TabBar

variable {α β : Type} {copy : α → α} {bar after : TabBar α} {fault : OutOfRange}

/-! ## Which steps fail -/

/-- The index for which a step on so many tabs fails, if it fails.  A tab to be moved is looked for
before its target. -/
def Step.offending? (count : Nat) : Step β → Option Int
  | .activate index | .close index | .closeOthers index | .closeToRight index
  | .duplicate index => if 0 ≤ index ∧ index < count then none else some index
  | .move index target =>
    if 0 ≤ index ∧ index < count then
      if 0 ≤ target ∧ target ≤ count then none else some target
    else some index
  | .add _ | .addAll _ => none

theorem offending?_map (describe : β → α) (count : Nat) (step : Step β) :
    (step.map describe).offending? count = step.offending? count := by
  cases step <;> rfl

theorem Performs.offending?_eq_none {step : Step α} (h : Performs copy bar step after) :
    step.offending? bar.tabs.length = none := by
  have hvalid (position : bar.Position) :
      0 ≤ (position.val : Int) ∧ (position.val : Int) < bar.tabs.length :=
    ⟨Int.natCast_nonneg _, Int.ofNat_lt.2 position.isLt⟩
  cases h with
  | add | addAll => rfl
  | activate position | close position | closeOthers position | closeToRight position
  | duplicate position => exact if_pos (hvalid position)
  | move source target =>
      have htarget : 0 ≤ (target.val : Int) ∧ (target.val : Int) ≤ bar.tabs.length :=
        ⟨Int.natCast_nonneg _, Int.ofNat_le.2 (Nat.le_of_lt_succ target.isLt)⟩
      rw [Step.offending?, if_pos (hvalid source), if_pos htarget]

theorem Refuses.offending?_eq_some {step : Step α} (h : Refuses bar step fault) :
    ∃ index, step.offending? bar.tabs.length = some index ∧ fault = .of index bar.tabs.length := by
  cases h with
  | @index index hindex hinvalid =>
      refine ⟨index, ?_, rfl⟩
      cases step with
      | add | addAll => cases hindex
      | activate | close | closeOthers | closeToRight | duplicate | move =>
          cases hindex
          exact if_neg hinvalid
  | @target index target hstep hvalid hinvalid =>
      refine ⟨target, ?_, rfl⟩
      subst hstep
      rw [Step.offending?, if_pos hvalid, if_neg hinvalid]

/-- A step fails by its offending index, if it has one. -/
theorem step_eq_error_iff {step : Step α} :
    bar.step copy step = .error fault ↔
      ∃ index, step.offending? bar.tabs.length = some index ∧
        fault = .of index bar.tabs.length := by
  rcases bar.step_cases copy step with
    ⟨after, result, hdone, hperforms⟩ | ⟨reported, hfault, hrefuses⟩
  · rw [hdone, hperforms.offending?_eq_none]
    simp
  · obtain ⟨index, hindex, rfl⟩ := hrefuses.offending?_eq_some
    rw [hfault, hindex]
    simp [eq_comm]

end TextureCatalog.TabBar

namespace TextureCatalog.Workspace

variable (workspace : Workspace)

/-- The script of a step of the bar. -/
def script (step : TabBar.Step (Option Nat)) : Script Tab (Option Int) :=
  .ofStep (Tab.copy workspace.materials) (step.map (Tab.assign workspace.materials {}))

theorem step_arrange_eq_error_iff {step : TabBar.Step (Option Nat)} {fault : OutOfRange} :
    workspace.step (.arrange step) = .error fault ↔
      ∃ index, step.offending? workspace.bar.tabs.length = some index ∧
        fault = .of index workspace.bar.tabs.length := by
  have hbar := @TabBar.step_eq_error_iff _ (Tab.copy workspace.materials) workspace.bar fault
    (step.map (Tab.assign workspace.materials {}))
  simp only [TabBar.offending?_map] at hbar
  rw [← hbar, Workspace.step]
  cases workspace.bar.step (Tab.copy workspace.materials)
    (step.map (Tab.assign workspace.materials {})) <;> simp [Except.map]

/-- The script of a step does what the step does, and nothing if the step fails. -/
theorem run_script (step : TabBar.Step (Option Nat)) :
    (workspace.script step).run workspace.bar.variables =
      match workspace.step (.arrange step) with
      | .ok (after, result) => .ok (result.map Int.ofNat) after.bar.variables
      | .error fault => .error (.outOfRange fault) workspace.bar.variables := by
  rw [script, Script.run_ofStep, Workspace.step]
  cases workspace.bar.step (Tab.copy workspace.materials)
    (step.map (Tab.assign workspace.materials {})) <;> rfl

/-! ## Runs without the steps that fail -/

/-- What becomes of the steps of a run: each has a result or a fault. -/
def outcomes (workspace : Workspace) : List Step → List (Except OutOfRange (Option Nat))
  | [] => []
  | step :: steps =>
    (workspace.step step).map Prod.snd :: (workspace.next step).outcomes steps

/-- The steps of a run that do not fail. -/
def succeeding (steps : List Step) : List Step :=
  ((steps.zip (workspace.outcomes steps)).filter fun (_, outcome) => outcome.isOk).map Prod.fst

variable {workspace} {after : Workspace} {step : Step}

theorem run_cons_of_ok {result : Option Nat} (h : workspace.step step = .ok (after, result))
    (steps : List Step) : workspace.run (step :: steps) = after.run steps := by
  rw [run, List.foldl_cons, next, h]
  rfl

theorem run_cons_of_error {fault : OutOfRange} (h : workspace.step step = .error fault)
    (steps : List Step) : workspace.run (step :: steps) = workspace.run steps := by
  rw [run, List.foldl_cons, next, h]
  rfl

theorem outcomes_cons_of_ok {result : Option Nat} (h : workspace.step step = .ok (after, result))
    (steps : List Step) :
    workspace.outcomes (step :: steps) = .ok result :: after.outcomes steps := by
  rw [outcomes, next, h]
  rfl

theorem outcomes_cons_of_error {fault : OutOfRange} (h : workspace.step step = .error fault)
    (steps : List Step) :
    workspace.outcomes (step :: steps) = .error fault :: workspace.outcomes steps := by
  rw [outcomes, next, h]
  rfl

theorem succeeding_cons_of_ok {result : Option Nat} (h : workspace.step step = .ok (after, result))
    (steps : List Step) :
    workspace.succeeding (step :: steps) = step :: after.succeeding steps := by
  rw [succeeding, outcomes_cons_of_ok h]
  rfl

theorem succeeding_cons_of_error {fault : OutOfRange} (h : workspace.step step = .error fault)
    (steps : List Step) : workspace.succeeding (step :: steps) = workspace.succeeding steps := by
  rw [succeeding, outcomes_cons_of_error h]
  rfl

/-- The steps that do not fail lead to the same state, and have the results that they had among the
others. -/
theorem run_succeeding (workspace : Workspace) (steps : List Step) :
    workspace.run (workspace.succeeding steps) = workspace.run steps ∧
      workspace.outcomes (workspace.succeeding steps) =
        (workspace.outcomes steps).filter Except.isOk := by
  induction steps generalizing workspace with
  | nil => exact ⟨rfl, rfl⟩
  | cons step steps ih =>
      cases h : workspace.step step with
      | ok outcome =>
          obtain ⟨hrun, houtcomes⟩ := ih outcome.1
          rw [succeeding_cons_of_ok h, run_cons_of_ok h, run_cons_of_ok h, outcomes_cons_of_ok h,
            outcomes_cons_of_ok h, houtcomes]
          exact ⟨hrun, rfl⟩
      | error fault =>
          obtain ⟨hrun, houtcomes⟩ := ih workspace
          rw [succeeding_cons_of_error h, run_cons_of_error h, outcomes_cons_of_error h]
          exact ⟨hrun, houtcomes⟩

/-- Indices do not count from the end, and a tab cannot be moved beyond it. -/
example : (ofTabs [] [{}, {}]).outcomes
    [.arrange (.close (-1)), .arrange (.add none), .arrange (.move 2 5), .arrange (.move 2 0)] =
      [.error (.reported (-1) 2), .ok (some 2), .error (.reported 5 3), .ok (some 0)] :=
  rfl

end TextureCatalog.Workspace
