import TextureCatalog.Manifest.Loading
import TextureCatalog.Settings.Storage
import TextureCatalog.Terminal.Escape
import TextureCatalog.Terminal.Line
import TextureCatalog.Terminal.Markup
import TextureCatalog.Terminal.Screen

/-!
# Actions

What a command does: it prints to one of two outputs, changes the file tree, and ends with an exit
code or with a failure that it does not report.
-/

namespace TextureCatalog.Program

inductive Failure
  | query (fault : Query.Fault)
  | markup (fault : Terminal.Markup.Fault)
  | files (fault : Files.Fault)
  | unknownUser
  | numeralTooLong
  | nulInPath
  | noPager
  | unreadableSize
  | uncuttable
  deriving DecidableEq, Repr

def Failure.message : Failure → String
  | .query fault => fault.message
  | .markup fault => fault.message
  | .files fault => fault.reason
  | .unknownUser => "Could not determine home directory."
  | .numeralTooLong => "A number has too many digits."
  | .nulInPath => "embedded null byte"
  | .noPager => "The command of the pager is blank."
  | .unreadableSize => "The size of the terminal cannot be read."
  | .uncuttable => "A line is too wide and cannot be cut."

/-- The file tree, and what has been printed to standard output and to standard error. -/
structure RunState where
  tree : Files.Tree
  output : List Char := []
  diagnostics : List Char := []
  deriving Repr

/-- A step of a command, which knows the screen.  What has been printed before a failure stays
printed. -/
abbrev Action := ReaderT Terminal.Screen (EStateM Failure RunState)

def success : Nat := 0

def refusal : Nat := 1

/-- The exit code after faulty arguments and after a manifest that cannot be used. -/
def misuse : Nat := 2

/-! ## Printing -/

def write (text : List Char) : Action Unit :=
  modify fun state => { state with output := state.output ++ text }

def writeDiagnostic (text : List Char) : Action Unit :=
  modify fun state => { state with diagnostics := state.diagnostics ++ text }

/-- A line for an output that is no terminal. -/
def plainLine (text : List Char) : List Char :=
  Terminal.dropSequences text ++ ['\n']

def shown (markup : String) : Action (List Char) :=
  match Terminal.Markup.shown markup.toList with
  | .ok text => pure text
  | .error fault => throw (.markup fault)

/-- The text of a layout, if there is one. -/
def cutText (layout : Option (List Char)) : Action (List Char) :=
  match layout with
  | some text => pure text
  | none => throw .uncuttable

def laidOut (markup : String) : Action (List Char) := do
  let text ← shown markup
  match (← read).messageWidth? with
  | some width => cutText (Terminal.printed width text)
  | none => throw .unreadableSize

def inform (markup : String) : Action Unit := do
  write (← laidOut markup)

def report (markup : String) : Action Unit := do
  writeDiagnostic (← laidOut markup)

def note (message : String) : Action Unit :=
  inform s!"[info]{message}[/info]"

def warn (message : String) : Action Unit :=
  report s!"[warning]Warning:[/warning] {message}"

def reportError (message : String) : Action Unit :=
  report s!"[error]Error:[/error] {message}"

def reportHint (hint : String) : Action Unit :=
  report s!"  [info]Hint:[/info] {hint}"

/-- A text as part of a message, without any markup of its own. -/
def literal (text : String) : String :=
  String.ofList (Terminal.Markup.escape text.toList)

/-! ## Context -/

/-- What a command knows from its surroundings, from the arguments before its name and from the
settings.  A pager that is asked for can have a blank command. -/
structure Context where
  surroundings : Files.Surroundings
  settings : Settings := {}
  quiet : Bool := false
  verbose : Bool := false
  debug : Bool := false
  colored : Bool := true
  pagerIsBlank : Bool := false
  deriving Repr

namespace Context

/-- Prints a message if details are asked for. -/
def noteDetail (context : Context) (message : String) : Action Unit :=
  if context.verbose then note message else pure ()

def noteInside (context : Context) (message : String) : Action Unit :=
  if context.debug then report s!"[warning]\\[DEBUG][/warning] {message}" else pure ()

/-- Prints a message unless only results are asked for. -/
def noteAside (context : Context) (message : String) : Action Unit :=
  if context.quiet then pure () else note message

end Context

end TextureCatalog.Program
