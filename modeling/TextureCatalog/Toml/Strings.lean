import TextureCatalog.Toml.Fault

/-!
# TOML strings

Basic strings, in which a backslash begins an escape, and literal strings, which have none.  Both
come on one line and on several lines.
-/

namespace TextureCatalog.Toml

/-- Control characters other than the tab stand in no string and no comment. -/
def isForbidden (c : Char) : Bool :=
  (c.toNat < 0x20 && c != '\t') || c.toNat == 0x7F

/-- Strings on several lines may also hold line ends. -/
def isForbiddenInLines (c : Char) : Bool :=
  isForbidden c && c != '\n'

def isBlank (c : Char) : Bool :=
  c == ' ' || c == '\t'

def skipBlanks (text : List Char) : List Char :=
  text.dropWhile isBlank

def escapedChar? : Char → Option Char
  | 'b' => some '\x08'
  | 't' => some '\t'
  | 'n' => some '\n'
  | 'f' => some '\x0c'
  | 'r' => some '\r'
  | '"' => some '"'
  | '\\' => some '\\'
  | _ => none

/-- The character that the digits of a long escape stand for.  `remaining` is how much of the text
follows them. -/
def escapedScalar (digits : List Char) (remaining : Nat) : Except Fault Char :=
  match Text.hexValue? digits with
  | none => .error (.malformed .hexDigits (digits.length + remaining))
  | some code =>
    if h : code.isValidChar then .ok (Char.ofNatAux code h)
    else .error (.malformed .scalarValue remaining)

/-- What a backslash at the end of a line drops: blanks up to the line end, and then all blanks and
line ends. -/
inductive Trimming
  | none
  | toLineEnd
  | all
  deriving DecidableEq, Repr

def consChar (c : Except Fault Char) (reading : Reading (List Char)) : Reading (List Char) :=
  match c with
  | .error fault => .error fault
  | .ok c => reading.map (c :: ·)

def readBasic : List Char → Reading (List Char)
  | [] => .error (.malformed .unterminated 0)
  | '"' :: rest => .ok ([], rest)
  | '\\' :: escape =>
    match escape with
    | 'u' :: digits =>
      match digits with
      | a :: b :: c :: d :: rest =>
        consChar (escapedScalar [a, b, c, d] rest.length) (readBasic rest)
      | _ => .error (.malformed .hexDigits digits.length)
    | 'U' :: digits =>
      match digits with
      | a :: b :: c :: d :: e :: f :: g :: h :: rest =>
        consChar (escapedScalar [a, b, c, d, e, f, g, h] rest.length) (readBasic rest)
      | _ => .error (.malformed .hexDigits digits.length)
    | letter :: rest =>
      match escapedChar? letter with
      | some c => (readBasic rest).map (c :: ·)
      | none => .error (.malformed .backslash rest.length)
    | [] => .error (.malformed .backslash 0)
  | c :: rest =>
    if isForbidden c then .error (.malformed (.illegalCharacter c) (rest.length + 1))
    else (readBasic rest).map (c :: ·)

/-- Reads a basic string on several lines, after its opening marks and up to the first three marks
in a row. -/
def readBasicLines (trimming : Trimming) : List Char → Reading (List Char)
  | [] => .error (.malformed .unterminated 0)
  | c :: rest =>
    if trimming = .toLineEnd then
      if isBlank c then readBasicLines .toLineEnd rest
      else if c = '\n' then readBasicLines .all rest
      else .error (.malformed .backslash (rest.length + 1))
    else if trimming = .all ∧ (isBlank c ∨ c = '\n') then readBasicLines .all rest
    else if c = '"' then
      match rest with
      | '"' :: '"' :: rest => .ok ([], rest)
      | _ => (readBasicLines .none rest).map ('"' :: ·)
    else if c = '\\' then
      match rest with
      | ' ' :: rest => readBasicLines .toLineEnd rest
      | '\t' :: rest => readBasicLines .toLineEnd rest
      | '\n' :: rest => readBasicLines .all rest
      | 'u' :: digits =>
        match digits with
        | a :: b :: c :: d :: rest =>
          consChar (escapedScalar [a, b, c, d] rest.length) (readBasicLines .none rest)
        | _ => .error (.malformed .hexDigits digits.length)
      | 'U' :: digits =>
        match digits with
        | a :: b :: c :: d :: e :: f :: g :: h :: rest =>
          consChar (escapedScalar [a, b, c, d, e, f, g, h] rest.length)
            (readBasicLines .none rest)
        | _ => .error (.malformed .hexDigits digits.length)
      | letter :: rest =>
        match escapedChar? letter with
        | some c => (readBasicLines .none rest).map (c :: ·)
        | none => .error (.malformed .backslash rest.length)
      | [] => .error (.malformed .backslash 0)
    else if isForbiddenInLines c then
      .error (.malformed (.illegalCharacter c) (rest.length + 1))
    else (readBasicLines .none rest).map (c :: ·)

/-- What comes before a mark and what comes after it, if the mark stands somewhere. -/
def splitAtMark? (mark : List Char) : List Char → Option (List Char × List Char)
  | [] => none
  | c :: rest =>
    if mark.isPrefixOf (c :: rest) then some ([], (c :: rest).drop mark.length)
    else (splitAtMark? mark rest).map fun (before, after) => (c :: before, after)

/-- Reads a literal string up to its closing mark. -/
def readLiteral (mark : String) (forbidden : Char → Bool) (text : List Char) :
    Reading (List Char) :=
  match splitAtMark? mark.toList text with
  | none => .error (.malformed (.expected mark) 0)
  | some (content, rest) =>
    match content.dropWhile fun c => !forbidden c with
    | [] => .ok (content, rest)
    | c :: _ =>
      .error (.malformed (.invalidCharacter c)
        (text.length - (content.takeWhile fun c => !forbidden c).length))

/-- Up to two more marks after the three that close a string belong to the string. -/
def withTrailingMarks (mark : Char) : Reading (List Char) → Reading (List Char)
  | .error fault => .error fault
  | .ok (content, rest) =>
    match rest with
    | a :: b :: tail =>
      if a = mark ∧ b = mark then .ok (content ++ [mark, mark], tail)
      else if a = mark then .ok (content ++ [mark], b :: tail)
      else .ok (content, rest)
    | [a] => if a = mark then .ok (content ++ [mark], []) else .ok (content, rest)
    | [] => .ok (content, [])

/-- A line end right after the opening marks is dropped. -/
def afterFirstLineEnd : List Char → List Char
  | '\n' :: rest => rest
  | text => text

def readString (text : List Char) : Option (Reading String) :=
  let reading : Option (Reading (List Char)) :=
    match text with
    | '"' :: '"' :: '"' :: rest =>
      some (withTrailingMarks '"' (readBasicLines .none (afterFirstLineEnd rest)))
    | '"' :: rest => some (readBasic rest)
    | '\'' :: '\'' :: '\'' :: rest =>
      some (withTrailingMarks '\'' (readLiteral "'''" isForbiddenInLines (afterFirstLineEnd rest)))
    | '\'' :: rest => some (readLiteral "'" isForbidden rest)
    | _ => none
  reading.map fun reading => reading.map String.ofList

end TextureCatalog.Toml
