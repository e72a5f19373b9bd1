import TextureCatalog.CommandLine.Help
import TextureCatalog.Program.InitConfig
import TextureCatalog.Program.Search
import TextureCatalog.Program.Topics

/-!
# Running the program

The whole program: the options before the name of a command, the settings, and the command itself.
`run` gives everything that can be seen of a run.
-/

namespace TextureCatalog.Program

open CommandLine

/-- What a run finds when it begins: the file tree, the screen, whether colors are unwanted, and the
command of the pager. -/
structure Environment where
  surroundings : Files.Surroundings
  tree : Files.Tree
  screen : Terminal.Screen := {}
  noColor : Bool := false
  pager : String := ""
  deriving Repr

namespace Environment

/-- The environment that variables describe, in surroundings whose home directory one of them can
replace. -/
def ofVariables (surroundings : Files.Surroundings) (tree : Files.Tree)
    (value? : String → Option String) : Environment :=
  let home := match value? "HOME" with
    | some text => Files.Path.ofHomeText? text
    | none => surroundings.home
  { surroundings := { surroundings with home }
    tree
    screen := .ofVariables value?
    noColor := (value? "NO_COLOR").isSome
    pager := (value? "PAGER").getD "" }

/-- Whether a pager is named, but only by white space. -/
def pagerIsBlank (environment : Environment) : Bool :=
  !environment.pager.isEmpty && Text.isBlankText environment.pager

end Environment

def programName : String := "material-inspector"

def versionText : String := "0.1.0"

def helpCommand : Command :=
  { name := "help"
    summary := "Show help for a command or a topic (query, manifest)."
    operands := [⟨"TOPIC", .optional, false⟩] }

def commands : List Command := [helpCommand, initConfigCommand, searchCommand]

def programCommand : Command :=
  { name := programName
    summary := "material-inspector: Browse and filter the textures used by a material."
    details :=
      [.wrapped 0 ("Loads a material manifest (JSON) listing the material's texture slots and " ++
        "filters them with a small search language: comma for AND, pipe for OR, ! for NOT, and " ++
        "resolution comparisons like >2048 or 1024<."),
       .wrapped 0 ("Configuration is loaded from ~/.config/material-inspector/config.toml by " ++
        "default. Use --config to specify an alternative configuration file."),
       .wrapped 0 "Examples:",
       .wrapped 4 ("# Linear textures larger than 1024 pixels     material-inspector search " ++
        "rock.json \"linear,>1024\""),
       .wrapped 4 ("# Search syntax and manifest format     material-inspector help query     " ++
        "material-inspector help manifest")]
    options :=
      [{ name := "--config", otherNames := ["-c"], kind := .value .path
         help := "Path to config file (default: ~/.config/material-inspector/config.toml)" },
       { name := "--no-color", kind := .flag, help := "Disable colored output" },
       { name := "--verbose", otherNames := ["-v"], kind := .flag
         help := "Show load and limit details" },
       { name := "--debug", kind := .flag
         help := "Also print the effective filters (implies --verbose)" },
       { name := "--quiet", otherNames := ["-q"], kind := .flag
         help := "Print only results and errors (no titles, warnings or no-match notes)" },
       { name := "--pager", kind := .toggle ["--no-pager"]
         help := "Force pager on/off for result tables (default: auto-detect)" },
       { name := "--version", kind := .version, help := "Show the version and exit." }]
    subcommands := commands.map fun command => (command.name, command.summary) }

def commandNamed? (name : String) : Option Command :=
  commands.find? fun command => command.name == name

def commandPath (command : Command) : String :=
  programName ++ " " ++ command.name

/-! ## Readings that run nothing -/

/-- Reports a fault in the arguments of the command with a path.  Gives the exit code. -/
def reportFault (command : Command) (path : String) (fault : Fault) : Action Nat := do
  if fault.showsUsage then
    writeDiagnostic (plainLine (command.usage path).toList)
    writeDiagnostic (plainLine (s!"Try '{path} --help' for help.\n").toList)
  writeDiagnostic (plainLine ("Error: " ++ fault.message).toList)
  return misuse

/-- Reads arguments and runs what they ask for; anything but running the command is done here. -/
def readAndRun (command : Command) (path : String) (texts : List String)
    (run : Arguments → Action Nat) : Action Nat :=
  match command.read texts with
  | .error .nulInPath => throw .nulInPath
  | .error (.fault fault) => reportFault command path fault
  | .ok .help => do
    write (plainLine (command.help path))
    return success
  | .ok .version => do
    write (plainLine (s!"{programName}, version {versionText}").toList)
    return success
  | .ok (.run arguments) => run arguments

/-! ## Commands -/

def runHelp (topic : Option String) : Action Nat :=
  match topic with
  | none => do
    write (plainLine (programCommand.help programName))
    write (plainLine ("\n" ++ topicsLine).toList)
    return success
  | some name =>
    match topics.find? fun topic => topic.name == name with
    | some topic => do
      write (plainLine ("\n".intercalate topic.lines).toList)
      return success
    | none =>
      match commandNamed? name with
      | some command => do
        write (plainLine (command.help (commandPath command)))
        return success
      | none => do
        reportError s!"Unknown command or topic: {name}"
        reportHint topicsLine
        return refusal

def runCommand (context : Context) (command : Command) (path : String) (texts : List String) :
    Action Nat :=
  readAndRun command path texts fun arguments =>
    if command.name = searchCommand.name then runSearch context (.ofArguments arguments)
    else if command.name = initConfigCommand.name then
      runInitConfig context (.ofArguments arguments)
    else runHelp arguments.operands.head?

/-- Loads the settings and runs a command with the context that they and the options make. -/
def withSettings (environment : Environment) (arguments : Arguments)
    (run : Context → Action Nat) : Action Nat := do
  let path := (arguments.value? "--config").map .ofText
  match Settings.load (← get).tree environment.surroundings path with
  | .error fault =>
    reportError fault.message
    return refusal
  | .ok (settings, warnings) =>
    let quiet := arguments.flag "--quiet"
    let debug := arguments.flag "--debug"
    if !quiet then
      warnings.forM fun warning => warn warning.message
    run
      { surroundings := environment.surroundings
        settings
        quiet
        verbose := debug || arguments.flag "--verbose"
        debug
        colored := !arguments.flag "--no-color" && !environment.noColor && settings.coloredOutput
        pagerIsBlank := arguments.flag "--pager" && environment.pagerIsBlank }

/-- Rejects a name that no command has.  It may be an option after two dashes, and is read as one
first. -/
def rejectCommand (name : String) (texts : List String) : Action Nat :=
  readAndRun programCommand programName (name :: texts) fun _ =>
    reportFault programCommand programName
      (.noSuchCommand name (Text.closeWords name (commands.map Command.name)))

/-- Runs the program with its arguments.  Gives the exit code. -/
def runProgram (environment : Environment) (texts : List String) : Action Nat :=
  if texts.isEmpty then do
    writeDiagnostic (plainLine (programCommand.help programName))
    return misuse
  else
    readAndRun programCommand programName texts fun arguments =>
      match arguments.operands with
      | [] => reportFault programCommand programName .missingCommand
      | name :: rest =>
        match commandNamed? name with
        | none => rejectCommand name rest
        | some command =>
          withSettings environment arguments fun context =>
            runCommand context command (commandPath command) rest

/-! ## Runs -/

/-- What is run: the program, or one of its commands alone, which then knows no settings. -/
inductive Entry
  | program
  | search
  | initConfig
  deriving DecidableEq, Repr

def Entry.run (entry : Entry) (environment : Environment) (texts : List String) : Action Nat :=
  let context : Context := { surroundings := environment.surroundings }
  match entry with
  | .program => runProgram environment texts
  | .search => runCommand context searchCommand programName texts
  | .initConfig => runCommand context initConfigCommand programName texts

/-- What can be seen of a run: its exit code, the failure if one ended it, what it printed, and the
file tree that it left. -/
structure Outcome where
  exitCode : Nat
  failure : Option Failure
  state : RunState
  deriving Repr

def run (entry : Entry) (environment : Environment) (texts : List String) : Outcome :=
  match (entry.run environment texts).run environment.screen { tree := environment.tree } with
  | .ok exitCode state => ⟨exitCode, none, state⟩
  | .error failure state => ⟨refusal, some failure, state⟩

end TextureCatalog.Program
