import TextureCatalog.Text.Numeral

/-!
# Commands

What a command accepts: options, which begin with a dash and may stand anywhere, and operands.
-/

namespace TextureCatalog.CommandLine

/-- What the value of an option has to be. -/
inductive ValueKind
  | text
  | path
  | integer
  | choice (values : List String)
  deriving DecidableEq, Repr

/-- What an option does: it is set, or set and unset by two groups of names, or has a value, or asks
for the help or the version instead of running the command. -/
inductive OptionKind
  | flag
  | toggle (offNames : List String)
  | value (kind : ValueKind)
  | help
  | version
  deriving DecidableEq, Repr

/-- An option.  The first of its names is the one that it is known by. -/
structure OptionSpec where
  name : String
  otherNames : List String := []
  kind : OptionKind
  help : String
  deriving DecidableEq, Repr

namespace OptionSpec

def names (option : OptionSpec) : List String :=
  option.name :: option.otherNames

def offNames (option : OptionSpec) : List String :=
  match option.kind with
  | .toggle offNames => offNames
  | _ => []

/-- What stands for the value in the help, for an option that has one. -/
def placeholder? (option : OptionSpec) : Option String :=
  match option.kind with
  | .value .text => some "TEXT"
  | .value .path => some "PATH"
  | .value .integer => some "INTEGER"
  | .value (.choice values) => some ("[" ++ "|".intercalate values ++ "]")
  | _ => none

end OptionSpec

inductive Arity
  | required
  | optional
  | any
  deriving DecidableEq, Repr

/-- A sort of operands.  Only the last sort of a command can have any number. -/
structure Operand where
  name : String
  arity : Arity
  isPath : Bool := false
  deriving DecidableEq, Repr

def Operand.usage (operand : Operand) : String :=
  match operand.arity with
  | .required => operand.name
  | .optional => "[" ++ operand.name ++ "]"
  | .any => "[" ++ operand.name ++ "]..."

/-- A paragraph of the help: one that is wrapped, or lines that are kept. -/
inductive Paragraph
  | wrapped (indent : Nat) (text : String)
  | lines (lines : List String)
  deriving DecidableEq, Repr

/-- A command.  If it has subcommands, the operands are the name and the arguments of one, and
options end at the name. -/
structure Command where
  name : String
  summary : String
  details : List Paragraph := []
  options : List OptionSpec := []
  operands : List Operand := []
  subcommands : List (String × String) := []
  deriving DecidableEq, Repr

def helpOption : OptionSpec :=
  { name := "--help", kind := .help, help := "Show this message and exit." }

namespace Command

def allOptions (command : Command) : List OptionSpec :=
  command.options ++ [helpOption]

def hasSubcommands (command : Command) : Bool :=
  !command.subcommands.isEmpty

end Command

end TextureCatalog.CommandLine
