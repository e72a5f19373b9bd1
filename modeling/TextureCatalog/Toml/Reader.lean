import TextureCatalog.Toml.Scalars
import TextureCatalog.Toml.Strings

/-!
# Reading TOML

TOML texts of version 1.0 are read statement by statement.  Beside the tables that have been filled
so far, the reader keeps which of them may not be changed or declared again.
-/

namespace TextureCatalog.Toml

/-! ## Comments and keys -/

/-- Skips a comment, if there is one, up to the line end. -/
def skipComment (text : List Char) : Except Fault (List Char) :=
  match text with
  | '#' :: rest =>
    let comment := rest.takeWhile (· != '\n')
    match comment.dropWhile fun c => !isForbidden c with
    | [] => .ok (rest.dropWhile (· != '\n'))
    | c :: _ =>
      .error (.malformed (.invalidCharacter c)
        (rest.length - (comment.takeWhile fun c => !isForbidden c).length))
  | _ => .ok text

/-- Skips blanks, line ends and comments. -/
def skipLines (inComment : Bool) : List Char → Except Fault (List Char)
  | [] => .ok []
  | c :: rest =>
    if inComment then
      if c = '\n' then skipLines false rest
      else if isForbidden c then .error (.malformed (.invalidCharacter c) (rest.length + 1))
      else skipLines true rest
    else if isBlank c ∨ c = '\n' then skipLines false rest
    else if c = '#' then skipLines true rest
    else .ok (c :: rest)

/-- The characters of a key that is not quoted. -/
def isBareKeyChar (c : Char) : Bool :=
  c.isAlphanum || c == '-' || c == '_'

def readKeyPart (text : List Char) : Reading String :=
  match text with
  | [] => .error (.malformed .keyStart 0)
  | '"' :: rest => (readBasic rest).map String.ofList
  | '\'' :: rest => (readLiteral "'" isForbidden rest).map String.ofList
  | c :: _ =>
    if isBareKeyChar c then
      .ok (String.ofList (text.takeWhile isBareKeyChar), text.dropWhile isBareKeyChar)
    else .error (.malformed .keyStart text.length)

/-- Reads the parts of a key; blanks may stand around the points between them, and after them. -/
def readKeyWith : Nat → List Char → Reading Key
  | 0, text => .error (.malformed .keyStart text.length)
  | fuel + 1, text =>
    match readKeyPart text with
    | .error fault => .error fault
    | .ok (part, rest) =>
      match skipBlanks rest with
      | '.' :: rest => (readKeyWith fuel (skipBlanks rest)).map (part :: ·)
      | rest => .ok ([part], rest)

def readKey (text : List Char) : Reading Key :=
  readKeyWith (text.length + 1) text

/-! ## Tables -/

/-- Puts a value in the place of a member's value, or behind the members. -/
def putMember (members : Document.Members) (key : String) (value : Document) : Document.Members :=
  if members.has key then
    members.map fun member => if member.1 == key then (key, value) else member
  else members ++ [(key, value)]

/-- Changes the table that a key leads to, and makes the tables on the way that are missing.  A list
on the way stands for its last item if `throughLists` is set.  The result is `none` where something
on the way is no table, or where the change fails. -/
def changeTable (throughLists : Bool) (change : Document.Members → Option Document.Members) :
    Key → Document.Members → Option Document.Members
  | [], members => change members
  | part :: rest, members =>
    match members.get? part with
    | none => (changeTable throughLists change rest []).map fun inner =>
        putMember members part (.table inner)
    | some (.table inner) => (changeTable throughLists change rest inner).map fun inner =>
        putMember members part (.table inner)
    | some (.list items) =>
      match throughLists, items.getLast? with
      | true, some (.table inner) => (changeTable throughLists change rest inner).map fun inner =>
          putMember members part (.list (items.dropLast ++ [.table inner]))
      | _, _ => none
    | some _ => none

def addMember (key : String) (value : Document) (members : Document.Members) :
    Option Document.Members :=
  if members.has key then none else some (members ++ [(key, value)])

def appendTable (key : String) (members : Document.Members) : Option Document.Members :=
  match members.get? key with
  | none => some (members ++ [(key, .list [.table []])])
  | some (.list items) => some (putMember members key (.list (items ++ [.table []])))
  | some _ => none

def isContainer : Document → Bool
  | .list _ | .table _ => true
  | _ => false

/-- Whether a key lies at or below one of the frozen keys. -/
def isFrozen (frozen : List Key) (key : Key) : Bool :=
  frozen.any fun other => other.isPrefixOf key

/-! ## Values -/

def readScalar (text : List Char) : Reading Document :=
  match readString text with
  | some reading => reading.map .text
  | none =>
    match afterWord? "true" text, afterWord? "false" text with
    | some rest, _ => .ok (.boolean true, rest)
    | _, some rest => .ok (.boolean false, rest)
    | none, none =>
      match readDate text with
      | some reading => reading
      | none =>
        match readTime text with
        | some reading => .ok reading
        | none =>
          match readNumber text with
          | some reading => reading
          | none =>
            match readSpecial text with
            | some reading => .ok reading
            | none => .error (.malformed .value text.length)

mutual

/-- Reads a value.  Each step of `fuel` allows one more value to be entered. -/
def readValue : Nat → List Char → Except Fault (Document × List Char)
  | 0, text => .error (.malformed .value text.length)
  | fuel + 1, text =>
    match text with
    | '[' :: rest =>
      match skipLines false rest with
      | .error fault => .error fault
      | .ok (']' :: rest) => .ok (.list [], rest)
      | .ok rest => Reading.map Document.list (readItems fuel rest)
    | '\x7b' :: rest =>
      match skipBlanks rest with
      | '\x7d' :: rest => .ok (.table [], rest)
      | rest => Reading.map Document.table (readInlineMembers fuel [] [] rest)
    | _ => readScalar text

/-- Reads the items of a list, of which there is at least one, and its closing bracket.  A comma may
follow the last one. -/
def readItems : Nat → List Char → Except Fault (List Document × List Char)
  | 0, text => .error (.malformed .value text.length)
  | fuel + 1, text =>
    match readValue fuel text with
    | .error fault => .error fault
    | .ok (item, rest) =>
      match skipLines false rest with
      | .error fault => .error fault
      | .ok (']' :: rest) => .ok ([item], rest)
      | .ok (',' :: rest) =>
        match skipLines false rest with
        | .error fault => .error fault
        | .ok (']' :: rest) => .ok ([item], rest)
        | .ok rest => Reading.map (item :: ·) (readItems fuel rest)
      | .ok rest => .error (.malformed .unclosedArray rest.length)

/-- Reads the members of a table on one line, of which there is at least one, and its closing
brace. -/
def readInlineMembers : Nat → List Key → Document.Members → List Char →
    Except Fault (Document.Members × List Char)
  | 0, _, _, text => .error (.malformed .value text.length)
  | fuel + 1, frozen, members, text =>
    match readKey text with
    | .error fault => .error fault
    | .ok (key, rest) =>
      match rest with
      | '=' :: rest =>
        match readValue fuel (skipBlanks rest) with
        | .error fault => .error fault
        | .ok (value, rest) =>
          let parent := key.dropLast
          let part := key.getLast?.getD ""
          if isFrozen frozen key then .error (.malformed (.immutable key) rest.length)
          else
            match changeTable false some parent members with
            | none => .error (.malformed .overwritten rest.length)
            | some _ =>
              match changeTable false (addMember part value) parent members with
              | none => .error (.malformed (.duplicateKey part) rest.length)
              | some members =>
                match skipBlanks rest with
                | '\x7d' :: rest => .ok (members, rest)
                | ',' :: rest =>
                  readInlineMembers fuel (if isContainer value then key :: frozen else frozen)
                    members (skipBlanks rest)
                | rest => .error (.malformed .unclosedInlineTable rest.length)
      | rest => .error (.malformed .equalsSign rest.length)

end

/-! ## Statements -/

/-- What has been read so far: the document, the keys below which nothing may change, the tables
that may not be declared again, those that become so at the next table header, and the table that
the last header declared. -/
structure State where
  root : Document.Members := []
  frozen : List Key := []
  declared : List Key := []
  pending : List Key := []
  header : Key := []

/-- The proper beginnings of a key, the shortest first. -/
def beginnings (key : Key) : List Key :=
  (List.range (key.length - 1)).map fun count => key.take (count + 1)

/-- Adds the value of a key to the table of the last header. -/
def State.assign (state : State) (key : Key) (value : Document) (remaining : Nat) :
    Except Fault State :=
  let containers := (beginnings key).map (state.header ++ ·)
  match containers.find? fun container => state.declared.contains container with
  | some container => .error (.malformed (.redefined container) remaining)
  | none =>
    let parent := state.header ++ key.dropLast
    if isFrozen state.frozen parent then .error (.malformed (.immutable parent) remaining)
    else
      match changeTable true (addMember (key.getLast?.getD "") value) parent state.root with
      | none => .error (.malformed .overwritten remaining)
      | some root =>
        .ok { state with
          root
          pending := containers ++ state.pending
          frozen := if isContainer value then (state.header ++ key) :: state.frozen
            else state.frozen }

/-- The tables that were opened by dotted keys may not be declared from the next header on. -/
def State.settle (state : State) : State :=
  { state with declared := state.pending ++ state.declared, pending := [] }

def State.declareTable (state : State) (key : Key) (remaining : Nat) : Except Fault State :=
  if state.declared.contains key || isFrozen state.frozen key then
    .error (.malformed (.declaredTwice key) remaining)
  else
    match changeTable true some key state.root with
    | none => .error (.malformed .overwritten remaining)
    | some root => .ok { state with root, declared := key :: state.declared, header := key }

/-- Declares another table of a list.  What was declared below the one before it may be declared
again. -/
def State.declareArrayTable (state : State) (key : Key) (remaining : Nat) : Except Fault State :=
  if isFrozen state.frozen key then .error (.malformed (.immutable key) remaining)
  else
    match changeTable true (appendTable (key.getLast?.getD "")) key.dropLast state.root with
    | none => .error (.malformed .overwritten remaining)
    | some root =>
      .ok { state with
        root
        declared := key :: state.declared.filter fun other => !key.isPrefixOf other
        frozen := state.frozen.filter fun other => !key.isPrefixOf other
        header := key }

def readAssignment (state : State) (text : List Char) : Except Fault (State × List Char) := do
  let (key, rest) ← readKey text
  match rest with
  | '=' :: rest =>
    let (value, rest) ← readValue (2 * rest.length + 2) (skipBlanks rest)
    let state ← state.assign key value rest.length
    return (state, rest)
  | rest => throw (.malformed .equalsSign rest.length)

def readHeader (state : State) (text : List Char) : Except Fault (State × List Char) := do
  let state := state.settle
  match text with
  | '[' :: rest =>
    let (key, rest) ← readKey (skipBlanks rest)
    let state ← state.declareArrayTable key rest.length
    match rest with
    | ']' :: ']' :: rest => return (state, rest)
    | rest => throw (.malformed .arrayTableEnd rest.length)
  | rest =>
    let (key, rest) ← readKey (skipBlanks rest)
    let state ← state.declareTable key rest.length
    match rest with
    | ']' :: rest => return (state, rest)
    | rest => throw (.malformed .tableEnd rest.length)

/-- Reads a statement, or leaves a comment to be skipped. -/
def readStatement (state : State) (text : List Char) : Except Fault (State × List Char) :=
  match text with
  | '[' :: rest => readHeader state rest
  | '#' :: _ => .ok (state, text)
  | c :: _ =>
    if isBareKeyChar c ∨ c = '"' ∨ c = '\'' then readAssignment state text
    else .error (.malformed .statement text.length)
  | [] => .ok (state, [])

/-- Reads the statements of a text, of which each step of `fuel` allows one more line. -/
def readStatements : Nat → State → List Char → Except Fault State
  | 0, state, _ => .ok state
  | fuel + 1, state, text =>
    match skipBlanks text with
    | [] => .ok state
    | '\n' :: rest => readStatements fuel state rest
    | text => do
      let (state, rest) ← readStatement state text
      let rest ← skipComment (skipBlanks rest)
      match rest with
      | [] => return state
      | '\n' :: rest => readStatements fuel state rest
      | rest => throw (.malformed .lineEnd rest.length)

/-- Reads a whole text as a table.  The fuel is enough, because every line but the last takes at
least one character. -/
def read (text : List Char) : Except Fault Document.Members :=
  (readStatements (text.length + 1) {} text).map (·.root)

end TextureCatalog.Toml
