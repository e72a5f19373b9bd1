import TextureCatalog.CommandLine.Command
import TextureCatalog.CommandLine.Fault
import TextureCatalog.Text.Similarity

/-!
# Reading arguments

The arguments of a command as settings of its options and as operands.  A long option has its value
after an equals sign or in the next argument; short options can be put together after one dash; two
dashes end the options.
-/

namespace TextureCatalog.CommandLine

/-- What an argument says about an option. -/
inductive Setting
  | on
  | off
  | value (text : String)
  deriving DecidableEq, Repr

/-- Settings of options in the order of the arguments, and the operands. -/
structure Arguments where
  settings : List (OptionSpec × Setting) := []
  operands : List String := []
  deriving DecidableEq, Repr

namespace Arguments

/-- The arguments with more settings before all others. -/
def after (arguments : Arguments) (settings : List (OptionSpec × Setting)) : Arguments :=
  { arguments with settings := settings ++ arguments.settings }

/-- The last setting of the option with a name. -/
def setting? (arguments : Arguments) (name : String) : Option Setting :=
  (arguments.settings.reverse.find? fun (option, _) => option.name == name).map (·.2)

def flag (arguments : Arguments) (name : String) : Bool :=
  arguments.setting? name == some .on

def toggle? (arguments : Arguments) (name : String) : Option Bool :=
  (arguments.setting? name).map (· == .on)

def value? (arguments : Arguments) (name : String) : Option String :=
  match arguments.setting? name with
  | some (.value text) => some text
  | _ => none

def integer? (arguments : Arguments) (name : String) : Option Int :=
  (arguments.value? name).bind fun text => Text.typedInteger? text.toList

end Arguments

/-! ## Single arguments -/

/-- The option with a name, and the setting that the name stands for unless it has a value. -/
def optionNamed? (options : List OptionSpec) (name : String) : Option (OptionSpec × Setting) :=
  options.findSome? fun option =>
    if option.names.contains name then some (option, .on)
    else if option.offNames.contains name then some (option, .off)
    else none

def OptionSpec.hasValue (option : OptionSpec) : Bool :=
  match option.kind with
  | .value _ => true
  | _ => false

def longNames (options : List OptionSpec) : List String :=
  (options.flatMap fun option => option.names ++ option.offNames).filter fun name =>
    name.startsWith "--"

/-- What an argument with options says: settings, and possibly an option, with the name by which it
was called, whose value is the next argument. -/
abbrev OptionArgument := List (OptionSpec × Setting) × Option (OptionSpec × String)

/-- Reads short options that are put together. -/
def readShort (options : List OptionSpec) : List Char → Except Fault OptionArgument
  | [] => .ok ([], none)
  | c :: rest =>
    let name := String.ofList ['-', c]
    match optionNamed? options name with
    | none => .error (.noSuchOption name [])
    | some (option, setting) =>
      if option.hasValue then
        if rest.isEmpty then .ok ([], some (option, name))
        else .ok ([(option, .value (String.ofList rest))], none)
      else
        (readShort options rest).map fun (settings, waiting) =>
          ((option, setting) :: settings, waiting)

def splitAtEquals (text : List Char) : List Char × Option (List Char) :=
  (text.takeWhile (· != '='), (text.dropWhile (· != '=')).tail?)

def readOption (options : List OptionSpec) (text : List Char) : Except Fault OptionArgument :=
  let (name, attached) := splitAtEquals text
  let name := String.ofList name
  let isLong := "--".toList.isPrefixOf text
  match if isLong then optionNamed? options name else none with
  | none =>
    if isLong then .error (.noSuchOption name (Text.closeWords name (longNames options)))
    else readShort options text.tail
  | some (option, setting) =>
    match option.hasValue, attached with
    | true, some value => .ok ([(option, .value (String.ofList value))], none)
    | true, none => .ok ([], some (option, name))
    | false, some _ => .error (.unexpectedValue name)
    | false, none => .ok ([(option, setting)], none)

def isOptionText (text : String) : Bool :=
  text.startsWith "-" && text.length != 1

/-! ## All arguments -/

/-- Reads arguments.  If `mixed` is false, the first operand ends the options. -/
def readArguments (options : List OptionSpec) (mixed : Bool) :
    List String → Except Fault Arguments
  | [] => .ok {}
  | text :: rest =>
    if text = "--" then .ok { operands := rest }
    else if isOptionText text then
      match readOption options text.toList with
      | .error fault => .error fault
      | .ok (settings, none) => (readArguments options mixed rest).map (·.after settings)
      | .ok (settings, some (option, name)) =>
        match rest with
        | [] => .error (.missingValue name)
        | value :: rest =>
          (readArguments options mixed rest).map
            (·.after (settings ++ [(option, .value value)]))
    else if mixed then
      (readArguments options mixed rest).map fun arguments =>
        { arguments with operands := text :: arguments.operands }
    else .ok { operands := text :: rest }

/-! ## Checks -/

/-- Why the arguments of a command are not accepted.  A path cannot hold a NUL character. -/
inductive Refusal
  | fault (fault : Fault)
  | nulInPath
  deriving DecidableEq, Repr

def checkPath (path : String) : Except Refusal Unit :=
  if '\x00' ∈ path.toList then .error .nulInPath else .ok ()

def checkValue (option : OptionSpec) (value : String) : Except Refusal Unit :=
  match option.kind with
  | .value .path => checkPath value
  | .value .integer =>
    if (Text.typedInteger? value.toList).isSome then .ok ()
    else .error (.fault (.notAnInteger option.names value))
  | .value (.choice choices) =>
    if choices.contains value then .ok ()
    else .error (.fault (.notAChoice option.names value choices))
  | _ => .ok ()

def checkOperands : List Operand → List String → Except Refusal Unit
  | [], [] => .ok ()
  | [], extra => .error (.fault (.extraOperands extra))
  | operand :: operands, given =>
    match operand.arity, given with
    | .any, _ => .ok ()
    | .required, [] => .error (.fault (.missingOperand operand.name))
    | .optional, [] => checkOperands operands []
    | _, value :: given =>
      match if operand.isPath then checkPath value else .ok () with
      | .error refusal => .error refusal
      | .ok () => checkOperands operands given

/-- What the arguments ask for. -/
inductive Reading
  | run (arguments : Arguments)
  | help
  | version
  deriving DecidableEq, Repr

/-- The options that have been set, in the order of their first settings. -/
def Arguments.options (arguments : Arguments) : List OptionSpec :=
  arguments.settings.foldl (fun options (option, _) =>
    if options.contains option then options else options ++ [option]) []

/-- Reads and checks the arguments of a command.  A question for the help or the version comes
before the values of options, and these before the operands. -/
def Command.read (command : Command) (texts : List String) : Except Refusal Reading :=
  match readArguments command.allOptions (!command.hasSubcommands) texts with
  | .error fault => .error (.fault fault)
  | .ok arguments =>
    match arguments.options.find? fun option => option.kind == .help || option.kind == .version with
    | some option => .ok (if option.kind = .version then .version else .help)
    | none => do
      arguments.options.forM fun option =>
        match arguments.value? option.name with
        | some value => checkValue option value
        | none => .ok ()
      if !command.hasSubcommands then checkOperands command.operands arguments.operands
      return .run arguments

end TextureCatalog.CommandLine
