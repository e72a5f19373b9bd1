import TextureCatalog.Program.Run
import TextureCatalog.Proofs.Program.Actions

/-!
# How actions can end

A failure can end an action at any of its steps, so what is to hold of every run must hold wherever
the run ends.  This module follows the file tree through actions and tells which exit codes a
command can end with.
-/

namespace TextureCatalog.Program

open CommandLine Terminal

variable {α β : Type} {action : Action α} {next : α → Action β} {screen : Screen}
  {before between after : RunState} {failure : Failure}

/-! ## Every ending -/

theorem completes_or_fails (action : Action α) (screen : Screen) (before : RunState) :
    (∃ value after, Completes action screen before value after) ∨
      ∃ failure after, Fails action screen before failure after := by
  cases h : action.run screen before with
  | ok value after => exact .inl ⟨value, after, h⟩
  | error failure after => exact .inr ⟨failure, after, h⟩

theorem Completes.not_fails {value : α} (h : Completes action screen before value between) :
    ¬ Fails action screen before failure after := by
  intro hfails
  cases h.symm.trans hfails

/-- Two steps complete one after the other. -/
theorem Completes.of_bind {result : β}
    (h : Completes (action >>= next) screen before result after) :
    ∃ value between, Completes action screen before value between ∧
      Completes (next value) screen between result after := by
  rcases completes_or_fails action screen before with ⟨value, between, hfirst⟩ | ⟨_, _, hfails⟩
  · exact ⟨value, between, hfirst, (hfirst.run_bind next).symm.trans h⟩
  · exact absurd (hfails.bind next) h.not_fails

/-- A failure ends the first step of two, or the second one after the first has completed. -/
theorem Fails.of_bind (h : Fails (action >>= next) screen before failure after) :
    Fails action screen before failure after ∨
      ∃ value between, Completes action screen before value between ∧
        Fails (next value) screen between failure after := by
  rcases completes_or_fails action screen before with ⟨value, between, hfirst⟩ | ⟨_, _, hfails⟩
  · exact .inr ⟨value, between, hfirst, (hfirst.run_bind next).symm.trans h⟩
  · have hsame := (hfails.bind next).symm.trans h
    cases hsame
    exact .inl hfails

/-! ## Actions that leave the files alone -/

/-- An action leaves the file tree as it was, however it ends. -/
structure KeepsTree (action : Action α) : Prop where
  completes : ∀ {screen : Screen} {before after : RunState} {value : α},
    Completes action screen before value after → after.tree = before.tree
  fails : ∀ {screen : Screen} {before after : RunState} {failure : Failure},
    Fails action screen before failure after → after.tree = before.tree

/-- An action that always completes is judged by that alone. -/
theorem keepsTree_of_completes
    (h : ∀ screen before, ∃ value after,
      Completes action screen before value after ∧ after.tree = before.tree) :
    KeepsTree action where
  completes {screen before _ _} hcompletes := by
    obtain ⟨value, after, hsame, htree⟩ := h screen before
    cases hsame.symm.trans hcompletes
    exact htree
  fails {screen before _ _} hfails := by
    obtain ⟨value, after, hcompletes, -⟩ := h screen before
    exact absurd hfails hcompletes.not_fails

theorem keepsTree_pure (value : α) : KeepsTree (pure value) :=
  keepsTree_of_completes fun _ _ => ⟨_, _, completes_pure value, rfl⟩

theorem keepsTree_throw (failure : Failure) : KeepsTree (throw failure : Action α) where
  completes hcompletes := absurd (fails_throw failure) hcompletes.not_fails
  fails {screen before _ _} hfails := by
    have hthrow : Fails (throw failure : Action α) screen before failure before :=
      fails_throw failure
    cases hthrow.symm.trans hfails
    rfl

theorem KeepsTree.bind (h : KeepsTree action) (hnext : ∀ value, KeepsTree (next value)) :
    KeepsTree (action >>= next) where
  completes hcompletes := by
    obtain ⟨value, between, hfirst, hsecond⟩ := hcompletes.of_bind
    exact ((hnext value).completes hsecond).trans (h.completes hfirst)
  fails hfails := by
    rcases hfails.of_bind with hfirst | ⟨value, between, hfirst, hsecond⟩
    · exact h.fails hfirst
    · exact ((hnext value).fails hsecond).trans (h.completes hfirst)

theorem keepsTree_forM {items : List α} {action : α → Action Unit}
    (h : ∀ item, KeepsTree (action item)) : KeepsTree (items.forM action) := by
  induction items with
  | nil => exact keepsTree_pure ()
  | cons item items ih => exact (h item).bind fun _ => ih

/-! ## Printing -/

theorem keepsTree_write (text : List Char) : KeepsTree (write text) :=
  keepsTree_of_completes fun _ _ => ⟨_, _, completes_write text, rfl⟩

theorem keepsTree_writeDiagnostic (text : List Char) : KeepsTree (writeDiagnostic text) :=
  keepsTree_of_completes fun _ _ => ⟨_, _, completes_writeDiagnostic text, rfl⟩

theorem keepsTree_shown (markup : String) : KeepsTree (shown markup) := by
  rw [shown]
  split
  · exact keepsTree_pure _
  · exact keepsTree_throw _

theorem keepsTree_cutText (layout : Option (List Char)) : KeepsTree (cutText layout) := by
  cases layout with
  | none => exact keepsTree_throw _
  | some text => exact keepsTree_pure text

theorem keepsTree_laidOut (markup : String) : KeepsTree (laidOut markup) := by
  have hread : KeepsTree (read : Action Screen) :=
    keepsTree_of_completes fun screen before => ⟨screen, before, rfl, rfl⟩
  refine (keepsTree_shown markup).bind fun text => hread.bind fun screen => ?_
  cases screen.messageWidth? with
  | none => exact keepsTree_throw _
  | some width => exact keepsTree_cutText _

theorem keepsTree_inform (markup : String) : KeepsTree (inform markup) :=
  (keepsTree_laidOut markup).bind keepsTree_write

theorem keepsTree_report (markup : String) : KeepsTree (report markup) :=
  (keepsTree_laidOut markup).bind keepsTree_writeDiagnostic

theorem keepsTree_noteAside (context : Context) (message : String) :
    KeepsTree (context.noteAside message) := by
  rw [Context.noteAside]
  split
  · exact keepsTree_pure ()
  · exact keepsTree_inform _

theorem keepsTree_reportFault (command : Command) (path : String) (fault : Fault) :
    KeepsTree (reportFault command path fault) := by
  unfold reportFault
  split
  · exact (keepsTree_writeDiagnostic _).bind fun _ => (keepsTree_writeDiagnostic _).bind fun _ =>
      (keepsTree_writeDiagnostic _).bind fun _ => keepsTree_pure misuse
  · exact (keepsTree_writeDiagnostic _).bind fun _ => keepsTree_pure misuse

/-! ## Endings of commands -/

/-- However a command ends, its exit code and the tree that it leaves are as they should be.  The
exit code after a failure is that of a refusal. -/
structure Ends (command : Action Nat) (screen : Screen) (before : RunState)
    (ending : Nat → Files.Tree → Prop) : Prop where
  completes : ∀ {exitCode : Nat} {after : RunState},
    Completes command screen before exitCode after → ending exitCode after.tree
  fails : ∀ {failure : Failure} {after : RunState},
    Fails command screen before failure after → ending refusal after.tree

variable {command : Action Nat} {following : α → Action Nat} {ending : Nat → Files.Tree → Prop}

theorem KeepsTree.ends (h : KeepsTree command) (hending : ∀ exitCode, ending exitCode before.tree) :
    Ends command screen before ending where
  completes hcompletes := h.completes hcompletes ▸ hending _
  fails hfails := h.fails hfails ▸ hending refusal

theorem Ends.mono {weaker : Nat → Files.Tree → Prop} (h : Ends command screen before ending)
    (hweaker : ∀ exitCode tree, ending exitCode tree → weaker exitCode tree) :
    Ends command screen before weaker :=
  ⟨fun hcompletes => hweaker _ _ (h.completes hcompletes),
    fun hfails => hweaker _ _ (h.fails hfails)⟩

/-- After a step that is known to complete, the rest decides the ending. -/
theorem Completes.ends_bind {value : α} (h : Completes action screen before value between)
    (hending : Ends (following value) screen between ending) :
    Ends (action >>= following) screen before ending where
  completes hcompletes := hending.completes ((h.run_bind following).symm.trans hcompletes)
  fails hfails := hending.fails ((h.run_bind following).symm.trans hfails)

/-- A step that leaves the files alone either ends the command or leaves the ending to the rest. -/
theorem KeepsTree.ends_bind (h : KeepsTree action) (hrefusal : ending refusal before.tree)
    (hending : ∀ value between, between.tree = before.tree →
      Ends (following value) screen between ending) :
    Ends (action >>= following) screen before ending := by
  rcases completes_or_fails action screen before with
    ⟨value, between, hcompletes⟩ | ⟨failure, after, hfails⟩
  · exact hcompletes.ends_bind (hending value between (h.completes hcompletes))
  · have hends := hfails.bind following
    refine ⟨fun hcompletes => absurd hends hcompletes.not_fails, fun hsame => ?_⟩
    cases hends.symm.trans hsame
    exact h.fails hfails ▸ hrefusal

/-- A command leaves the files alone and ends with a refusal. -/
def Refuses (command : Action Nat) : Prop :=
  ∀ screen before, Ends command screen before fun exitCode tree =>
    exitCode = refusal ∧ tree = before.tree

theorem refuses_return : Refuses (return refusal) := by
  intro screen before
  refine ⟨fun hcompletes => ?_, fun hfails => absurd hfails (completes_pure refusal).not_fails⟩
  cases (completes_pure refusal).symm.trans hcompletes
  exact ⟨rfl, rfl⟩

theorem refuses_throw (failure : Failure) : Refuses (throw failure) :=
  fun _ _ => ⟨fun hcompletes => absurd (fails_throw failure) hcompletes.not_fails,
    fun hfails => ⟨rfl, (keepsTree_throw (α := Nat) failure).fails hfails⟩⟩

theorem KeepsTree.refuses_bind (h : KeepsTree action)
    (hrefuses : ∀ value, Refuses (following value)) : Refuses (action >>= following) := by
  intro screen before
  refine h.ends_bind ⟨rfl, rfl⟩ fun value between htree => ?_
  exact htree ▸ hrefuses value screen between

theorem Refuses.ends (h : Refuses command) (hending : ending refusal before.tree) :
    Ends command screen before ending := by
  refine (h screen before).mono ?_
  rintro exitCode tree ⟨rfl, rfl⟩
  exact hending

/-! ## Endings of runs -/

section Runs

variable {entry : Entry} {environment : Environment} {texts : List String}

/-- What holds however an entry ends holds of its run. -/
theorem Ends.ending_run (h : Ends (entry.run environment texts) environment.screen
    { tree := environment.tree } ending) :
    ending (run entry environment texts).exitCode (run entry environment texts).state.tree := by
  rcases completes_or_fails (entry.run environment texts) environment.screen
      { tree := environment.tree } with ⟨exitCode, after, hcompletes⟩ | ⟨failure, after, hfails⟩
  · have hrun : run entry environment texts = ⟨exitCode, none, after⟩ := by
      rw [run, show (entry.run environment texts).run _ _ = _ from hcompletes]
    exact hrun ▸ h.completes hcompletes
  · have hrun : run entry environment texts = ⟨refusal, some failure, after⟩ := by
      rw [run, show (entry.run environment texts).run _ _ = _ from hfails]
    exact hrun ▸ h.fails hfails

theorem readAndRun_eq {command : Command} {arguments : Arguments}
    (h : command.read texts = .ok (.run arguments)) (path : String)
    (run : Arguments → Action Nat) : readAndRun command path texts run = run arguments := by
  rw [readAndRun, h]

/-- Arguments by which nothing is run leave the files alone. -/
theorem keepsTree_readAndRun {command : Command}
    (h : ∀ arguments, command.read texts ≠ .ok (.run arguments)) (path : String)
    (run : Arguments → Action Nat) : KeepsTree (readAndRun command path texts run) := by
  rw [readAndRun]
  split
  · exact keepsTree_throw _
  · exact keepsTree_reportFault _ _ _
  · exact (keepsTree_write _).bind fun _ => keepsTree_pure success
  · exact (keepsTree_write _).bind fun _ => keepsTree_pure success
  · next arguments hread => exact absurd hread (h arguments)

/-- The settings are loaded before a command is run, and this can end with a refusal. -/
theorem ends_withSettings {globals : Arguments} {run : Context → Action Nat}
    (hrefusal : ending refusal before.tree)
    (hending : ∀ context between, context.surroundings = environment.surroundings →
      between.tree = before.tree → Ends (run context) screen between ending) :
    Ends (withSettings environment globals run) screen before ending := by
  refine completes_get.ends_bind ?_
  split
  · refine Refuses.ends ?_ hrefusal
    exact (keepsTree_report _).refuses_bind fun _ => refuses_return
  · next settings warnings _ =>
      dsimp only
      split
      · exact (keepsTree_forM fun warning => keepsTree_report _).ends_bind hrefusal
          fun _ between htree => hending _ between rfl htree
      · exact hending _ before rfl rfl

end Runs

end TextureCatalog.Program
