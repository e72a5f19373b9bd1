import TextureCatalog.CommandLine.Command
import TextureCatalog.Text.Substring
import TextureCatalog.Text.Wrap

/-!
# Help

The usage line and the help of a command.  The path of a command is the line by which it is called,
without arguments.
-/

namespace TextureCatalog.CommandLine

def helpWidth : Nat := 78

/-- The widest first column of a list of options; wider entries have a line of their own. -/
def widestEntry : Nat := 30

def indentLine (indent : Nat) (line : List Char) : List Char :=
  List.replicate indent ' ' ++ line

def Paragraph.render : Paragraph → List (List Char)
  | .wrapped indent text =>
    (Text.wrap (helpWidth - (indent + 2)) text.toList).map (indentLine (indent + 2))
  | .lines kept => kept.map fun line => indentLine 2 line.toList

def renderEntries (entries : List (String × String)) : List (List Char) :=
  let column := min ((entries.map fun (name, _) => name.length).foldl max 0) widestEntry + 2
  entries.flatMap fun (name, description) =>
    let described := Text.wrap (helpWidth - column) description.toList
    let entry := indentLine 2 name.toList
    match described with
    | [] => [entry]
    | first :: rest =>
      let others := rest.map (indentLine (column + 2))
      if name.length + 2 ≤ column then
        (entry ++ indentLine (column - name.length) first) :: others
      else entry :: indentLine (column + 2) first :: others

/-- The option as it stands in the help: its short names first, then its long ones, then those that
unset it, and what stands for its value. -/
def OptionSpec.entry (option : OptionSpec) : String :=
  let inOrder := fun (names : List String) =>
    ", ".intercalate (names.filter (!·.startsWith "--") ++ names.filter (·.startsWith "--"))
  inOrder option.names ++ ((option.placeholder?.map (" " ++ ·)).getD "") ++
    if option.offNames.isEmpty then "" else " / " ++ inOrder option.offNames

namespace Command

def usage (command : Command) (path : String) : String :=
  "Usage: " ++ path ++ " [OPTIONS]" ++
    if command.hasSubcommands then " COMMAND [ARGS]..."
    else String.join (command.operands.map fun operand => " " ++ operand.usage)

def helpLines (command : Command) (path : String) : List (List Char) :=
  let paragraphs := Paragraph.wrapped 0 command.summary :: command.details
  (command.usage path).toList :: paragraphs.flatMap (fun paragraph => [] :: paragraph.render) ++
    [[], "Options:".toList] ++
    renderEntries (command.allOptions.map fun option => (option.entry, option.help)) ++
    if command.hasSubcommands then [[], "Commands:".toList] ++ renderEntries command.subcommands
    else []

def help (command : Command) (path : String) : List Char :=
  Text.joinWith ['\n'] (command.helpLines path)

end Command

end TextureCatalog.CommandLine
