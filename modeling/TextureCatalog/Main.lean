import TextureCatalog.Program.Run

/-!
# The executable

Looks at the files that the arguments can name, runs the program on them, writes what it changed and
prints what it printed.
-/

namespace TextureCatalog.Executable

open Program

/-- The home directories of all users, from the lines of the user database. -/
def homesOf (lines : Array String) : List (String × Files.Path) :=
  lines.toList.filterMap fun line =>
    match Text.cutAt ':' line.toList with
    | [name, _, _, _, _, home, _] =>
      (Files.Path.ofHomeText? (String.ofList home)).map fun home => (String.ofList name, home)
    | _ => none

/-- The paths that an argument can name: as a whole, after an equals sign, or after the letter of a
short option. -/
def pathsIn (argument : String) : List Files.Path :=
  let text := argument.toList
  [text, (text.dropWhile (· != '=')).drop 1, text.drop 2].map fun part =>
    Files.Path.ofText (String.ofList part)

/-- The locations along a path, from the first to the last. -/
def locationsAlong (surroundings : Files.Surroundings) (path : Files.Path) :
    List Files.Location :=
  match path.expandHome surroundings with
  | .error _ => []
  | .ok path =>
    (List.range (path.names.length + 1)).flatMap fun count =>
      let location :=
        { path with names := path.names.take count }.resolve surroundings.workingDirectory
      (List.range (location.length + 1)).map fun depth => location.take depth

def entryAt (location : Files.Location) : IO (Option Files.Entry) := do
  try
    let content ← IO.FS.readBinFile (Files.Path.ofLocation location).toText
    return some (.file content.toList)
  catch
    | .noFileOrDirectory .. => return none
    | _ => return some .directory

/-- The part of the file tree that some paths lead through. -/
def treeOf (surroundings : Files.Surroundings) (paths : List Files.Path) : IO Files.Tree := do
  let locations := (paths.flatMap (locationsAlong surroundings)).eraseDups
  let mut tree : Files.Tree := {}
  for location in locations do
    if tree.isDirectory location.dropLast then
      if let some entry ← entryAt location then
        tree := tree.put location entry
  return tree

def writeChanges (before after : Files.Tree) : IO Unit := do
  for location in (after.entries.map (·.1)).eraseDups.reverse do
    if after.get? location != before.get? location then
      let place := (Files.Path.ofLocation location).toText
      match after.get? location with
      | some (.file content) => IO.FS.writeBinFile place ⟨content.toArray⟩
      | some .directory => IO.FS.createDirAll place
      | none => pure ()

def variableNames : List String :=
  ["HOME", "NO_COLOR", "PAGER", "TERM", "COLUMNS", "LINES", "TTY_COMPATIBLE", "FORCE_COLOR"]

def environmentFor (arguments : List String) : IO Environment := do
  let directory ← IO.currentDir
  let users ← try IO.FS.lines "/etc/passwd" catch _ => pure #[]
  let found ← variableNames.filterMapM fun name => do
    return (← IO.getEnv name).map fun value => (name, value)
  let surroundings : Files.Surroundings :=
    { workingDirectory := (Files.Path.ofText directory.toString).names
      home := some ⟨.root, []⟩
      otherHomes := homesOf users }
  let environment := Environment.ofVariables surroundings {} fun name => found.lookup name
  let surroundings := environment.surroundings
  let paths := (Settings.defaultPath surroundings).toOption.toList ++ arguments.flatMap pathsIn
  return { environment with tree := ← treeOf surroundings paths }

end TextureCatalog.Executable

open TextureCatalog in
def main (arguments : List String) : IO UInt32 := do
  let environment ← Executable.environmentFor arguments
  let outcome := Program.run .program environment arguments
  Executable.writeChanges environment.tree outcome.state.tree
  IO.print (String.ofList outcome.state.output)
  IO.eprint (String.ofList outcome.state.diagnostics)
  if let some failure := outcome.failure then
    IO.eprintln failure.message
  return outcome.exitCode.toUInt32
