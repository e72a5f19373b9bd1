import TextureCatalog.Text.Quoted

/-!
# Faults in arguments

What can be wrong with the arguments of a command, and how it is put in words.
-/

namespace TextureCatalog.CommandLine

/-- What is wrong with the arguments.  The options of a bad value are given by their names. -/
inductive Fault
  | noSuchOption (name : String) (similar : List String)
  | missingValue (name : String)
  | unexpectedValue (name : String)
  | notAnInteger (names : List String) (value : String)
  | notAChoice (names : List String) (value : String) (choices : List String)
  | missingOperand (name : String)
  | extraOperands (operands : List String)
  | missingCommand
  | noSuchCommand (name : String) (similar : List String)
  deriving DecidableEq, Repr

namespace Fault

/-- A hint at names that were probably meant. -/
def hint (similar : List String) : String :=
  match similar.map Text.quoted with
  | [] => ""
  | [name] => s!" Did you mean {name}?"
  | names => " (Did you mean one of: " ++ ", ".intercalate names ++ "?)"

/-- The beginning of a message about the value of an option. -/
def invalidValue (names : List String) : String :=
  "Invalid value for " ++ " / ".intercalate (names.map fun name => "'" ++ name ++ "'") ++ ": "

def message : Fault → String
  | .noSuchOption name similar => s!"No such option {Text.quoted name}." ++ hint similar
  | .missingValue name => s!"Option {Text.quoted name} requires an argument."
  | .unexpectedValue name => s!"Option {Text.quoted name} does not take a value."
  | .notAnInteger names value =>
    invalidValue names ++ s!"{Text.quoted value} is not a valid integer."
  | .notAChoice names value choices =>
    invalidValue names ++ s!"{Text.quoted value} is not one of " ++
      ", ".intercalate (choices.map Text.quoted) ++ "."
  | .missingOperand name => s!"Missing argument '{name}'."
  | .extraOperands operands =>
    (if operands.length = 1 then "Got unexpected extra argument ("
      else "Got unexpected extra arguments (") ++ " ".intercalate operands ++ ")"
  | .missingCommand => "Missing command."
  | .noSuchCommand name similar => s!"No such command {Text.quoted name}." ++ hint similar

def showsUsage : Fault → Bool
  | .missingValue _ | .unexpectedValue _ => false
  | _ => true

end Fault

end TextureCatalog.CommandLine
