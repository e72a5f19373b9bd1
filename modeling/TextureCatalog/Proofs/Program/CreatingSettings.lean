import TextureCatalog.Proofs.Files.Sparing
import TextureCatalog.Proofs.Program.Endings
import TextureCatalog.Proofs.Program.Invocation
import TextureCatalog.Proofs.Settings.Template

/-!
# The creation of a settings file spares all other files

The command that creates a settings file looks whether there is one, makes directories, writes the
file and says so, and each of these steps can fail.  A run ends in one of three ways: nothing is
done, directories are made but no file is written, or the file is written.  Whatever else holds of
a run is told from these.
-/

namespace TextureCatalog.Program

open CommandLine

variable {environment : Environment} {entry : Entry} {texts rest : List String}
  {context : Context} {request : InitConfigRequest} {screen : Terminal.Screen} {before : RunState}
  {tree after : Files.Tree} {location : Files.Location} {force : Bool} {exitCode : Nat}

/-! ## Arguments -/

/-- The texts by which a path, if there is one, and the replacement of a file are asked for. -/
def textsFor (path : Option String) (force : Bool) : List String :=
  (path.elim [] fun path => ["--output", path]) ++ if force then ["--force"] else []

def forceOption : OptionSpec := initConfigCommand.options[0]

def outputOption : OptionSpec := initConfigCommand.options[1]

/-- What the texts are read as. -/
def argumentsFor (path : Option String) (force : Bool) : Arguments :=
  { settings := (path.elim [] fun path => [(outputOption, .value path)]) ++
      if force then [(forceOption, .on)] else [] }

theorem ofArguments_argumentsFor (path : Option String) (force : Bool) :
    InitConfigRequest.ofArguments (argumentsFor path force) =
      { target := path.map .ofText, force } := by
  cases path <;> cases force <;> rfl

theorem readArguments_textsFor (path : Option String) (force : Bool) :
    readArguments initConfigCommand.allOptions true (textsFor path force) =
      .ok (argumentsFor path force) := by
  have hforce : readArguments initConfigCommand.allOptions true
      (if force then ["--force"] else []) = .ok (argumentsFor none force) := by
    cases force
    · rfl
    · decide +kernel
  cases path with
  | none => exact hforce
  | some path =>
      have hoption : isOptionText "--output" = true := by decide +kernel
      have hread : readOption initConfigCommand.allOptions "--output".toList =
          .ok ([], some (outputOption, "--output")) := by decide +kernel
      rw [textsFor, Option.elim_some, List.cons_append, List.cons_append, List.nil_append,
        readArguments, if_neg (by decide), if_pos hoption, hread]
      simp only [hforce]
      rfl

/-- Every path without a NUL can be asked for, and so can the default one, either with the
replacement of a file or without it. -/
theorem read_textsFor {path : Option String}
    (hpath : ∀ text, path = some text → '\x00' ∉ text.toList) (force : Bool) :
    initConfigCommand.read (textsFor path force) = .ok (.run (argumentsFor path force)) := by
  have hmixed : (!initConfigCommand.hasSubcommands) = true := rfl
  rw [Command.read, hmixed, readArguments_textsFor]
  cases path with
  | none => cases force <;> rfl
  | some path =>
      have hcheck : checkValue outputOption path = .ok () := if_neg (hpath path rfl)
      have hvalue : (argumentsFor (some path) force).value? outputOption.name = some path := by
        cases force <;> rfl
      have hoptions : (argumentsFor (some path) force).options =
          outputOption :: if force then [forceOption] else [] := by
        cases force <;> rfl
      simp only [hoptions, List.forM_eq_forM, List.forM_cons, hvalue, hcheck]
      cases force <;> rfl

/-! ## Endings of the command -/

/-- The bytes of the file that is written. -/
def templateBytes : List UInt8 :=
  Text.Utf8.encode Settings.template

/-- The ways in which a creation ends, by its exit code and the tree that it leaves: it is not
tried, or does not get to the end, or the file is written, whatever happens to the messages. -/
inductive CreationEnds (tree : Files.Tree) (location : Files.Location) (force : Bool) :
    Nat → Files.Tree → Prop
  | refused :
      (force = false ∧ tree.IsOccupied location) ∨ ¬ tree.Writable location →
      CreationEnds tree location force refusal tree
  | unfinished {left : Files.Unfinished} :
      (tree.IsOccupied location → force = true) →
      tree.install location templateBytes = .error left →
      CreationEnds tree location force refusal left.tree
  | written {exitCode : Nat} {saved : Files.Tree} :
      (tree.IsOccupied location → force = true) →
      tree.install location templateBytes = .ok saved →
      CreationEnds tree location force exitCode saved

theorem ends_createSettings (hfree : before.tree.IsOccupied location → force = true) :
    Ends (createSettings context location) screen before
      (CreationEnds before.tree location force) := by
  refine completes_get.ends_bind ?_
  cases hinstall : before.tree.install location (Text.Utf8.encode Settings.template) with
  | error left =>
      refine (completes_set { before with tree := left.tree }).ends_bind ?_
      refine Refuses.ends ?_ (.unfinished hfree hinstall)
      exact (keepsTree_report _).refuses_bind fun _ => refuses_return
  | ok saved =>
      refine (completes_set { before with tree := saved }).ends_bind ?_
      -- a failure to print is an ending like others, but the file has been written by then
      refine KeepsTree.ends ?_ fun exitCode => .written hfree hinstall
      exact (keepsTree_inform _).bind fun _ => (keepsTree_noteAside context _).bind fun _ =>
        keepsTree_pure success

theorem ends_runInitConfig (hlocation : ".." ∉ location)
    (hlocate : Settings.locate context.surroundings request.target = .ok location) :
    Ends (runInitConfig context request) screen before
      (CreationEnds before.tree location request.force) := by
  unfold runInitConfig
  rw [hlocate]
  refine completes_get.ends_bind ?_
  split
  · next hreach =>
      exact (refuses_throw _).ends (.refused (.inr fun hwritable =>
        hwritable.reachLocation_ne_nameTooLong hlocation hreach))
  · next fault hlong hreach =>
      refine ends_createSettings fun hoccupied => ?_
      rcases hoccupied.reachLocation_cases hlocation with ⟨entry, hfound⟩ | hfound
      · cases hreach.symm.trans hfound
      · exact absurd (hreach.symm.trans hfound) (by simpa using hlong)
  · next entry hreach =>
      have hoccupied := Files.Tree.isOccupied_of_reachLocation hlocation hreach
      by_cases hforce : request.force = true
      · rw [if_pos hforce]
        exact ends_createSettings fun _ => hforce
      · rw [if_neg hforce]
        refine Refuses.ends ?_ (.refused (.inl ⟨Bool.eq_false_iff.2 hforce, hoccupied⟩))
        exact (keepsTree_report _).refuses_bind fun _ =>
          (keepsTree_report _).refuses_bind fun _ => refuses_return

/-- A path that cannot be resolved is refused. -/
theorem refuses_runInitConfig {fault : Settings.Fault}
    (hlocate : Settings.locate context.surroundings request.target = .error fault) :
    Refuses (runInitConfig context request) := by
  unfold runInitConfig
  rw [hlocate]
  cases fault <;> exact refuses_throw _

/-! ## Calls of the command -/

/-- Arguments that call the command, alone or as a part of the program, with the arguments that are
left for the command itself. -/
inductive Calls : Entry → List String → List String → Prop
  | alone {texts : List String} : Calls .initConfig texts texts
  | program {texts rest : List String} {globals : Arguments} :
      programCommand.read texts = .ok (.run globals) →
      globals.operands = initConfigCommand.name :: rest →
      Calls .program texts rest

theorem runCommand_initConfigCommand {arguments : Arguments}
    (h : initConfigCommand.read rest = .ok (.run arguments)) (context : Context) (path : String) :
    runCommand context initConfigCommand path rest =
      runInitConfig context (.ofArguments arguments) := by
  have hother : initConfigCommand.name ≠ searchCommand.name := by decide
  rw [runCommand, readAndRun_eq h, if_neg hother, if_pos rfl]

/-- The command decides how a run ends, unless the program cannot load its settings. -/
theorem Calls.ending_run (h : Calls entry texts rest) (ending : Nat → Files.Tree → Prop)
    (hrefusal : entry ≠ .initConfig → ending refusal environment.tree)
    (hending : ∀ context path (between : RunState),
      context.surroundings = environment.surroundings → between.tree = environment.tree →
      Ends (runCommand context initConfigCommand path rest) environment.screen between ending) :
    ending (run entry environment texts).exitCode (run entry environment texts).state.tree := by
  cases h with
  | alone => exact Ends.ending_run (hending _ _ _ rfl rfl)
  | program hglobals hname =>
      refine Ends.ending_run ?_
      rw [Entry.run, runProgram_eq (by simp [commands]) hglobals hname]
      exact ends_withSettings (hrefusal (by decide)) fun context between hcontext hbetween =>
        hending context _ between hcontext hbetween

/-! ## What an ending means for files -/

/-- A settings file has been created: every path to it loads the defaults, without a warning. -/
structure Created (surroundings : Files.Surroundings) (tree : Files.Tree)
    (location : Files.Location) : Prop where
  content : tree.get? location = some (.file templateBytes)
  load : ∀ path, Settings.locate surroundings path = .ok location →
    Settings.load tree surroundings path = .ok ({ source := some (.ofLocation location) }, [])

/-- What a creation spares: every place but its target, apart from new directories above it; the
whole tree, if the target is occupied and not to be replaced; and all files, if the target cannot be
written.  Unless it is refused and all files are spared, the settings file has been created. -/
structure SparesFiles (surroundings : Files.Surroundings) (tree : Files.Tree)
    (location : Files.Location) (force : Bool) (exitCode : Nat) (after : Files.Tree) : Prop where
  others : ∀ place, place ≠ location → tree.KeepsPlace after location place
  occupied : tree.IsOccupied location → force = false → exitCode = refusal ∧ after = tree
  unwritable : ¬ tree.Writable location → exitCode = refusal ∧ tree.SameFiles after
  written : (exitCode = refusal ∧ tree.SameFiles after) ∨ Created surroundings after location

theorem created_of_install {saved : Files.Tree} (hlocation : ".." ∉ location)
    (h : tree.install location templateBytes = .ok saved) (surroundings : Files.Surroundings) :
    Created surroundings saved location := by
  obtain ⟨hwritable, hwritten⟩ := Files.Tree.written_of_install hlocation h
  have hreach := hwritten.reachLocation_eq hwritable hlocation
  exact ⟨hwritten.content, fun path hlocate => Settings.load_of_template hlocate hreach⟩

theorem sparesFiles_of_refusal (surroundings : Files.Surroundings) (tree : Files.Tree)
    (location : Files.Location) (force : Bool) :
    SparesFiles surroundings tree location force refusal tree where
  others place _ := Files.Tree.keepsPlace_refl tree location place
  occupied _ _ := ⟨rfl, rfl⟩
  unwritable _ := ⟨rfl, Files.Tree.sameFiles_refl tree⟩
  written := .inl ⟨rfl, Files.Tree.sameFiles_refl tree⟩

theorem CreationEnds.sparesFiles (h : CreationEnds tree location force exitCode after)
    (hlocation : ".." ∉ location) (surroundings : Files.Surroundings) :
    SparesFiles surroundings tree location force exitCode after := by
  cases h with
  | refused => exact sparesFiles_of_refusal surroundings tree location force
  | unfinished hfree hinstall =>
      have hkeeps := Files.Tree.keepsPlace_of_install_error hlocation hinstall
      have hsame := Files.Tree.sameFiles_of_keepsPlace hkeeps
      refine ⟨fun place _ => hkeeps place, fun hoccupied hforce => ?_, fun _ => ⟨rfl, hsame⟩,
        .inl ⟨rfl, hsame⟩⟩
      exact absurd (hfree hoccupied) (by simp [hforce])
  | written hfree hinstall =>
      obtain ⟨hwritable, hwritten⟩ := Files.Tree.written_of_install hlocation hinstall
      refine ⟨fun place => hwritten.keepsPlace hwritable, fun hoccupied hforce => ?_,
        fun hunwritable => absurd hwritable hunwritable,
        .inr (created_of_install hlocation hinstall surroundings)⟩
      exact absurd (hfree hoccupied) (by simp [hforce])

/-- A file that can be written, and may be, is created. -/
theorem CreationEnds.created (h : CreationEnds tree location force exitCode after)
    (hlocation : ".." ∉ location) (hwritable : tree.Writable location)
    (hfree : tree.IsOccupied location → force = true) (surroundings : Files.Surroundings) :
    Created surroundings after location := by
  cases h with
  | refused hreason =>
      rcases hreason with ⟨hforce, hoccupied⟩ | hunwritable
      · exact absurd (hfree hoccupied) (by simp [hforce])
      · exact absurd hwritable hunwritable
  | unfinished _ hinstall =>
      obtain ⟨saved, hsaved⟩ := hwritable.exists_install hlocation templateBytes
      cases hinstall.symm.trans hsaved
  | written _ hinstall => exact created_of_install hlocation hinstall surroundings

/-! ## Runs -/

theorem tree_of_not_read (hcalls : Calls entry texts rest)
    (hread : ∀ arguments, initConfigCommand.read rest ≠ .ok (.run arguments)) :
    (run entry environment texts).state.tree = environment.tree := by
  refine hcalls.ending_run (fun _ tree => tree = environment.tree) (fun _ => rfl) ?_
  intro context path between _ hbetween
  exact (keepsTree_readAndRun hread _ _).ends fun _ => hbetween

theorem refusal_of_not_located (hcalls : Calls entry texts rest) {arguments : Arguments}
    (hread : initConfigCommand.read rest = .ok (.run arguments)) {fault : Settings.Fault}
    (hlocate : Settings.locate environment.surroundings
      (InitConfigRequest.ofArguments arguments).target = .error fault) :
    (run entry environment texts).exitCode = refusal ∧
      (run entry environment texts).state.tree = environment.tree := by
  refine hcalls.ending_run (fun exitCode tree => exitCode = refusal ∧ tree = environment.tree)
    (fun _ => ⟨rfl, rfl⟩) ?_
  intro context path between hcontext hbetween
  rw [runCommand_initConfigCommand hread, ← hbetween]
  rw [← hcontext] at hlocate
  exact refuses_runInitConfig hlocate _ _

/-- A run of the command alone ends as the creation does.  The program can also refuse before. -/
theorem creationEnds_of_located (hcalls : Calls entry texts rest) {arguments : Arguments}
    (hread : initConfigCommand.read rest = .ok (.run arguments)) (hlocation : ".." ∉ location)
    (hlocate : Settings.locate environment.surroundings
      (InitConfigRequest.ofArguments arguments).target = .ok location) :
    (entry ≠ .initConfig ∧ (run entry environment texts).exitCode = refusal ∧
        (run entry environment texts).state.tree = environment.tree) ∨
      CreationEnds environment.tree location (InitConfigRequest.ofArguments arguments).force
        (run entry environment texts).exitCode (run entry environment texts).state.tree := by
  refine hcalls.ending_run (fun exitCode tree =>
    (entry ≠ .initConfig ∧ exitCode = refusal ∧ tree = environment.tree) ∨
      CreationEnds environment.tree location (InitConfigRequest.ofArguments arguments).force
        exitCode tree) (fun hentry => .inl ⟨hentry, rfl, rfl⟩) ?_
  intro context path between hcontext hbetween
  rw [runCommand_initConfigCommand hread, ← hbetween]
  rw [← hcontext] at hlocate
  exact (ends_runInitConfig hlocation hlocate).mono fun _ _ => .inr

/-- Whatever the arguments of the command are, and however a run ends, no file is lost. -/
theorem creating_settings_spares_files
    (hworking : Files.IsProper environment.surroundings.workingDirectory)
    (hcalls : Calls entry texts rest) :
    let outcome := run entry environment texts
    ((∀ arguments, initConfigCommand.read rest ≠ .ok (.run arguments)) →
        outcome.state.tree = environment.tree) ∧
      ∀ arguments, initConfigCommand.read rest = .ok (.run arguments) →
        let request := InitConfigRequest.ofArguments arguments
        (∀ fault, Settings.locate environment.surroundings request.target = .error fault →
            outcome.exitCode = refusal ∧ outcome.state.tree = environment.tree) ∧
          ∀ location, Settings.locate environment.surroundings request.target = .ok location →
            SparesFiles environment.surroundings environment.tree location request.force
                outcome.exitCode outcome.state.tree ∧
              (environment.tree.get? location = some .directory ∨
                  environment.tree.IsBelowFile location →
                ¬ environment.tree.Writable location) ∧
              (entry = .initConfig → environment.tree.Writable location →
                (environment.tree.IsOccupied location → request.force = true) →
                Created environment.surroundings outcome.state.tree location) := by
  refine ⟨tree_of_not_read hcalls, fun arguments hread =>
    ⟨fun fault => refusal_of_not_located hcalls hread, fun location hlocate => ?_⟩⟩
  have hlocation := (Settings.isProper_of_locate hworking hlocate).not_mem
  have hends := creationEnds_of_located hcalls hread hlocation hlocate
  refine ⟨?_, ?_, fun hentry hwritable hfree => ?_⟩
  · rcases hends with ⟨-, hrefusal, hsame⟩ | hends
    · rw [hrefusal, hsame]
      exact sparesFiles_of_refusal _ _ _ _
    · exact hends.sparesFiles hlocation _
  · rintro (hdirectory | hbelow) hwritable
    · exact hwritable.free hdirectory
    · exact hwritable.not_isBelowFile hbelow
  · rcases hends with ⟨hother, -⟩ | hends
    · exact absurd hentry hother
    · exact hends.created hlocation hwritable hfree _

/-- A file is replaced if that is asked for, and otherwise kept. -/
theorem creating_settings_replaces_if_forced :
    Created (alone [0x78]).surroundings
        (run .initConfig (alone [0x78]) (textsFor (some "m.json") true)).state.tree ["m.json"] ∧
      (run .initConfig (alone [0x78]) (textsFor (some "m.json") false)).exitCode = refusal ∧
      (run .initConfig (alone [0x78]) (textsFor (some "m.json") false)).state.tree =
        (alone [0x78]).tree := by
  have hworking : Files.IsProper (alone [0x78]).surroundings.workingDirectory := by
    simp [alone, Files.IsProper]
  have hread (force : Bool) : initConfigCommand.read (textsFor (some "m.json") force) =
      .ok (.run (argumentsFor (some "m.json") force)) := by
    refine read_textsFor (fun text htext => ?_) force
    rw [← Option.some.inj htext]
    decide
  have hlocate (force : Bool) : Settings.locate (alone [0x78]).surroundings
      (InitConfigRequest.ofArguments (argumentsFor (some "m.json") force)).target =
        .ok ["m.json"] := by
    rw [ofArguments_argumentsFor]
    rfl
  have hforce (force : Bool) :
      (InitConfigRequest.ofArguments (argumentsFor (some "m.json") force)).force = force := by
    rw [ofArguments_argumentsFor]
  have hroot : (alone [0x78]).tree.IsDirectoryPath [] := Files.Tree.isDirectoryPath_nil _
  have hwritable : (alone [0x78]).tree.Writable ["m.json"] :=
    ⟨by decide, by unfold Files.FitsPath; decide, by unfold Files.FitNames; decide,
      hroot.canMake, by decide⟩
  have hspares (force : Bool) := ((creating_settings_spares_files hworking
    (@Calls.alone (textsFor (some "m.json") force))).2 _ (hread force)).2 _ (hlocate force)
  exact ⟨(hspares true).2.2 rfl hwritable fun _ => hforce true,
    (hspares false).1.occupied ⟨hroot, .file [0x78], rfl⟩ (hforce false)⟩

end TextureCatalog.Program
