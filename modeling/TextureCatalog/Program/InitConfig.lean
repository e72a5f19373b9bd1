import TextureCatalog.CommandLine.Arguments
import TextureCatalog.Program.Action
import TextureCatalog.Settings.Template

/-!
# The command that creates a settings file

It never replaces a file unless that is asked for.
-/

namespace TextureCatalog.Program

open CommandLine

/-- Where the settings file is to be created, and whether it may replace another one. -/
structure InitConfigRequest where
  target : Option Files.Path := none
  force : Bool := false
  deriving DecidableEq, Repr

def initConfigCommand : Command :=
  { name := "init-config"
    summary := "Create a new configuration file with default settings."
    details :=
      [.wrapped 0 "Examples:",
       .lines
        ["  # Create config at default location",
         "  material-inspector init-config"],
       .lines
        ["  # Create config at custom location",
         "  material-inspector init-config --output ./my-config.toml"],
       .lines
        ["  # Overwrite existing config",
         "  material-inspector init-config --force"]]
    options :=
      [{ name := "--force", otherNames := ["-f"], kind := .flag
         help := "Overwrite existing config file" },
       { name := "--output", otherNames := ["-o"], kind := .value .path
         help := "Output path for config file " ++
          "(default: ~/.config/material-inspector/config.toml)" }] }

def InitConfigRequest.ofArguments (arguments : Arguments) : InitConfigRequest :=
  { target := (arguments.value? "--output").map .ofText
    force := arguments.flag "--force" }

def createSettings (context : Context) (location : Files.Location) : Action Nat := do
  let state ← get
  match state.tree.install location (Text.Utf8.encode Settings.template) with
  | .error unfinished => do
    set { state with tree := unfinished.tree }
    let detail := unfinished.fault.message (.ofLocation unfinished.place)
    reportError s!"Failed to write config file: {detail}"
    return refusal
  | .ok tree => do
    set { state with tree }
    inform s!"[success]Created config file: {(Files.Path.ofLocation location).toText}[/success]"
    context.noteAside "Edit this file to change the default search filters."
    return success

def runInitConfig (context : Context) (request : InitConfigRequest) : Action Nat := do
  match Settings.locate context.surroundings request.target with
  | .error .unknownUser => throw .unknownUser
  -- a path has no other fault than a NUL
  | .error _ => throw .nulInPath
  | .ok location =>
    match (← get).tree.reachLocation location with
    | .error .nameTooLong => throw (.files .nameTooLong)
    | .error _ => createSettings context location
    | .ok _ =>
      if request.force then createSettings context location
      else
        reportError s!"Config file already exists: {(Files.Path.ofLocation location).toText}"
        reportHint "Use --force to overwrite"
        return refusal

end TextureCatalog.Program
