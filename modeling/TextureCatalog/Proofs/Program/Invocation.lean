import TextureCatalog.Program.Run
import TextureCatalog.Proofs.Program.Actions

/-!
# Runs of the search command

The arguments of a run that end in a search, and what the run makes of what the search does.
-/

namespace TextureCatalog.Program

open CommandLine

variable {environment : Environment} {entry : Entry} {texts : List String} {context : Context}
  {request : SearchRequest}

/-- The context of a command, made of the options before its name and of the settings. -/
def contextOf (environment : Environment) (globals : Arguments) (settings : Settings) : Context :=
  { surroundings := environment.surroundings
    settings
    quiet := globals.flag "--quiet"
    verbose := globals.flag "--debug" || globals.flag "--verbose"
    debug := globals.flag "--debug"
    colored := !globals.flag "--no-color" && !environment.noColor && settings.coloredOutput
    pagerIsBlank := globals.flag "--pager" && environment.pagerIsBlank }

/-- The arguments of a run ask for a search in a context.  The search command is run alone, and
knows no settings then, or as a part of the program, with settings that are loaded without a
warning. -/
inductive Invokes (environment : Environment) :
    Entry → List String → Context → SearchRequest → Prop
  | alone {texts : List String} {arguments : Arguments} :
      searchCommand.read texts = .ok (.run arguments) →
      Invokes environment .search texts { surroundings := environment.surroundings }
        (.ofArguments arguments)
  | program {texts rest : List String} {globals arguments : Arguments} {settings : Settings} :
      programCommand.read texts = .ok (.run globals) →
      globals.operands = searchCommand.name :: rest →
      Settings.load environment.tree environment.surroundings
        ((globals.value? "--config").map .ofText) = .ok (settings, []) →
      searchCommand.read rest = .ok (.run arguments) →
      Invokes environment .program texts (contextOf environment globals settings)
        (.ofArguments arguments)

/-- The environment of a program that finds one file in its working directory. -/
def alone (content : List UInt8) : Environment :=
  { surroundings := { workingDirectory := [], home := none }
    tree := ⟨[(["m.json"], .file content)]⟩ }

theorem Invokes.surroundings_eq (h : Invokes environment entry texts context request) :
    context.surroundings = environment.surroundings := by
  cases h <;> rfl

theorem runCommand_searchCommand {arguments : Arguments}
    (h : searchCommand.read texts = .ok (.run arguments)) (context : Context) (path : String) :
    runCommand context searchCommand path texts = runSearch context (.ofArguments arguments) := by
  rw [runCommand, readAndRun, h]
  exact if_pos rfl

/-- The commands have different names, so each is found by its own. -/
theorem commandNamed?_name {command : Command} (h : command ∈ commands) :
    commandNamed? command.name = some command := by
  have hnodup : (commands.map Command.name).Nodup := by decide
  obtain ⟨before, after, hsplit⟩ := List.append_of_mem h
  rw [hsplit, List.map_append, List.nodup_append] at hnodup
  rw [commandNamed?, List.find?_eq_some_iff_append]
  refine ⟨beq_self_eq_true _, before, after, hsplit, fun other hother => ?_⟩
  have hne := hnodup.2.2 other.name (List.mem_map_of_mem hother) command.name
    (List.mem_map_of_mem List.mem_cons_self)
  simpa using hne

/-- The program runs a command after the settings are loaded. -/
theorem runProgram_eq {command : Command} {rest : List String} {globals : Arguments}
    (hcommand : command ∈ commands)
    (hglobals : programCommand.read texts = .ok (.run globals))
    (hname : globals.operands = command.name :: rest) :
    runProgram environment texts = withSettings environment globals fun context =>
      runCommand context command (commandPath command) rest := by
  have hne : texts.isEmpty = false := by
    cases texts with
    | nil =>
        have hnone : programCommand.read [] = .ok (.run {}) := rfl
        cases hnone.symm.trans hglobals
        cases hname
    | cons _ _ => rfl
  rw [runProgram, if_neg (by simp [hne]), readAndRun, hglobals]
  simp only [hname, commandNamed?_name hcommand]

theorem run_withSettings {globals : Arguments} {settings : Settings}
    (h : Settings.load environment.tree environment.surroundings
      ((globals.value? "--config").map .ofText) = .ok (settings, []))
    (next : Context → Action Nat) :
    (withSettings environment globals next).run environment.screen { tree := environment.tree } =
      (next (contextOf environment globals settings)).run environment.screen
        { tree := environment.tree } := by
  unfold withSettings
  rw [completes_get.run_bind]
  simp only [h]
  split_ifs <;> rfl

/-- The run does what the search does. -/
theorem Invokes.run_entry (h : Invokes environment entry texts context request) :
    (entry.run environment texts).run environment.screen { tree := environment.tree } =
      (runSearch context request).run environment.screen { tree := environment.tree } := by
  let start : RunState := { tree := environment.tree }
  cases h with
  | @alone _ arguments hread =>
      exact congrArg (fun action : Action Nat => action.run environment.screen start)
        (runCommand_searchCommand hread _ _)
  | @program _ rest globals arguments settings hglobals hname hsettings hread =>
      calc (runProgram environment texts).run environment.screen start
          = (withSettings environment globals fun context =>
              runCommand context searchCommand (commandPath searchCommand) rest).run
              environment.screen start := by rw [runProgram_eq (by simp [commands]) hglobals hname]
        _ = (runCommand (contextOf environment globals settings) searchCommand
              (commandPath searchCommand) rest).run environment.screen start :=
            run_withSettings hsettings _
        _ = (runSearch (contextOf environment globals settings) (.ofArguments arguments)).run
              environment.screen start := by rw [runCommand_searchCommand hread]

theorem Invokes.run_of_completes (h : Invokes environment entry texts context request)
    {exitCode : Nat} {after : RunState}
    (hsearch : Completes (runSearch context request) environment.screen
      { tree := environment.tree } exitCode after) :
    run entry environment texts = ⟨exitCode, none, after⟩ := by
  rw [run, h.run_entry, show (runSearch context request).run _ _ = _ from hsearch]

theorem Invokes.run_of_fails (h : Invokes environment entry texts context request)
    {failure : Failure} {after : RunState}
    (hsearch : Fails (runSearch context request) environment.screen
      { tree := environment.tree } failure after) :
    run entry environment texts = ⟨refusal, some failure, after⟩ := by
  rw [run, h.run_entry, show (runSearch context request).run _ _ = _ from hsearch]

/-! ## Before the manifest -/

/-- The bounds of the filter of a search have numerals. -/
def HasWritableBounds (context : Context) (request : SearchRequest) : Prop :=
  Text.isWritable (context.settings.filterWith request.overrides).minResolution = true ∧
    Text.isWritable (context.settings.filterWith request.overrides).maxResolution = true

/-- A request that gets as far as loading the manifest: its limit is not negative, the bounds of its
filter have numerals, and the message about the filter, if it is asked for, can be shown. -/
structure Proceeds (screen : Terminal.Screen) (context : Context) (request : SearchRequest) :
    Prop where
  limit : ∀ count, request.limit = some count → 0 ≤ count
  bounds : HasWritableBounds context request
  inside : context.debug = true → Displayable screen (s!"[warning]\\[DEBUG][/warning] " ++
    ("Filters: " ++ filterDescription (context.settings.filterWith request.overrides)))

/-- What a search does with the manifest. -/
def respond (context : Context) (request : SearchRequest)
    (loaded : Except Manifest.Fault Material) : Action Nat :=
  match loaded with
  | .error fault => do
    reportManifestFault fault
    return misuse
  | .ok material => do
    context.noteDetail <| s!"Loaded {Text.decimalText material.textures.length} textures from " ++
      request.manifest.toText
    match search material.textures request.queryText
        (context.settings.filterWith request.overrides) with
    | .error fault => throw (.query fault)
    | .ok kept =>
      showMatches context request material kept
      return success

variable {screen : Terminal.Screen}

theorem exists_noteInside {message : String}
    (h : context.debug = true → Displayable screen (s!"[warning]\\[DEBUG][/warning] " ++ message))
    (before : RunState) : ∃ text, Completes (context.noteInside message) screen before ()
      { before with diagnostics := before.diagnostics ++ text } ∧
        (context.debug = false → text = []) := by
  rw [Context.noteInside]
  split_ifs with hdebug
  · obtain ⟨text, htext⟩ := (h hdebug).exists_report before
    exact ⟨text, htext, by simp [hdebug]⟩
  · refine ⟨[], ?_, fun _ => rfl⟩
    rw [List.append_nil]
    exact completes_pure ()

theorem isNegative_eq_false {limit : Option Int} (h : ∀ count, limit = some count → 0 ≤ count) :
    (limit.map (decide <| · < 0)).getD false = false := by
  cases limit with
  | none => rfl
  | some count => simpa using h count rfl

/-- Before the manifest is loaded, only a message about the inner workings is printed. -/
theorem Proceeds.exists_run (h : Proceeds screen context request) (before : RunState) :
    ∃ text, (context.debug = false → text = []) ∧
      (runSearch context request).run screen before =
        (respond context request
          (Manifest.load before.tree context.surroundings request.manifest)).run screen
          { before with diagnostics := before.diagnostics ++ text } := by
  obtain ⟨text, hinside, hnothing⟩ := exists_noteInside h.inside before
  refine ⟨text, hnothing, ?_⟩
  unfold runSearch
  rw [if_neg (by simp [isNegative_eq_false h.limit])]
  dsimp only
  rw [if_pos (by simpa [HasWritableBounds] using h.bounds), hinside.run_bind,
    completes_get.run_bind]
  rfl

/-- A search whose filter has a bound with too many digits fails. -/
theorem runSearch_of_not_hasWritableBounds
    (hlimit : ∀ count, request.limit = some count → 0 ≤ count)
    (h : ¬ HasWritableBounds context request) (before : RunState) :
    Fails (runSearch context request) screen before .numeralTooLong before := by
  unfold runSearch
  rw [if_neg (by simp [isNegative_eq_false hlimit])]
  dsimp only
  rw [if_neg (by simpa [HasWritableBounds] using h)]
  exact (fails_throw _).bind _

end TextureCatalog.Program
