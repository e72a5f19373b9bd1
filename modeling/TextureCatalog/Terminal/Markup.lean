import TextureCatalog.Terminal.Handler
import TextureCatalog.Terminal.StyleName

/-!
# Markup

Messages are written with style tags in square brackets, which do not show.  A tag begins with a
lower-case letter or one of `#`, `/` and `@`; a slash closes an earlier tag, and `@` stands for an
action.  What comes after an equals sign are the parameters of the tag.  An odd number of backslashes
before a bracket makes a tag ordinary text, which `escape` does to every tag of a text.
-/

namespace TextureCatalog.Terminal.Markup

/-- Why the tags of a text cannot take effect: a closing tag does not match an open one, the
parameters of an action cannot be read, or the parts of a color cannot. -/
inductive Fault
  | unmatchedTag (tag : String)
  | unreadableHandler (parameters : String)
  | unreadableColor (color : UnreadableColor)
  deriving DecidableEq, Repr

def Fault.message : Fault → String
  | .unmatchedTag tag => s!"The tag [{tag}] does not close an open one."
  | .unreadableHandler parameters => s!"The handler {parameters} cannot be read."
  | .unreadableColor color => s!"The color {color.word} cannot be read."

def startsTag (c : Char) : Bool :=
  ('a' ≤ c && c ≤ 'z') || c == '#' || c == '/' || c == '@'

/-- The text up to the first closing bracket, unless an opening one comes before, and the rest. -/
def upToClosing : List Char → Option (List Char × List Char)
  | [] => none
  | c :: rest =>
    if c = ']' then some ([], rest)
    else if c = '[' then none
    else (upToClosing rest).map fun (content, rest) => (c :: content, rest)

/-- The tag that stands at the beginning of a text, and the rest. -/
def tagAt : List Char → Option (List Char × List Char)
  | '[' :: c :: rest =>
    if startsTag c then (upToClosing rest).map fun (content, rest) => (c :: content, rest) else none
  | _ => none

def leadingBackslashes (text : List Char) : Nat :=
  (text.takeWhile (· == '\\')).length

/-- A tag after any number of backslashes at the beginning of a text: their number, the tag, and the
rest. -/
def taggedAt (text : List Char) : Option (Nat × List Char × List Char) :=
  (tagAt (text.dropWhile (· == '\\'))).map fun (tag, rest) => (leadingBackslashes text, tag, rest)

theorem length_of_upToClosing {text content rest : List Char}
    (h : upToClosing text = some (content, rest)) : rest.length < text.length := by
  induction text generalizing content with
  | nil => simp [upToClosing] at h
  | cons c tail ih =>
    simp only [upToClosing] at h
    split at h
    · simp_all
    · split at h
      · simp at h
      · obtain ⟨⟨inner, after⟩, hinner, heq⟩ := Option.map_eq_some_iff.mp h
        obtain ⟨-, rfl⟩ := Prod.mk.inj heq
        have : after.length < tail.length := ih hinner
        simp only [List.length_cons]
        omega

theorem length_of_tagAt {text tag rest : List Char} (h : tagAt text = some (tag, rest)) :
    rest.length < text.length := by
  unfold tagAt at h
  split at h
  · split at h
    · obtain ⟨⟨inner, after⟩, hinner, heq⟩ := Option.map_eq_some_iff.mp h
      obtain ⟨-, rfl⟩ := Prod.mk.inj heq
      have : after.length < _ := length_of_upToClosing hinner
      simp only [List.length_cons]
      omega
    · simp at h
  · simp at h

theorem length_of_taggedAt {text tag rest : List Char} {count : Nat}
    (h : taggedAt text = some (count, tag, rest)) : rest.length < text.length := by
  obtain ⟨⟨inner, after⟩, hinner, heq⟩ := Option.map_eq_some_iff.mp h
  obtain ⟨-, heq⟩ := Prod.mk.inj heq
  obtain ⟨-, rfl⟩ := Prod.mk.inj heq
  have hdrop : (text.dropWhile (· == '\\')).length ≤ text.length :=
    (List.dropWhile_sublist _).length_le
  have : after.length < _ := length_of_tagAt hinner
  omega

inductive Piece
  | text (content : List Char)
  | tag (content : List Char)
  deriving DecidableEq, Repr

def textPiece (content : List Char) : List Piece :=
  if content.isEmpty then [] else [.text content]

/-- Cuts a text into tags and the runs of text between them.  Two backslashes before a tag stand for
one; `before` is the text, from its last character to its first, that is not part of a piece
yet. -/
def piecesAfter (before text : List Char) : List Piece :=
  match text with
  | [] => textPiece before.reverse
  | c :: rest =>
    match h : taggedAt (c :: rest) with
    | none => piecesAfter (c :: before) rest
    | some (count, tag, after) =>
      have : after.length < rest.length + 1 := length_of_taggedAt h
      textPiece before.reverse ++ textPiece (List.replicate (count / 2) '\\') ++
        (if count % 2 = 1 then .text ('[' :: (tag ++ [']'])) else .tag tag) ::
          piecesAfter [] after
termination_by text.length

def pieces (text : List Char) : List Piece :=
  piecesAfter [] text

/-- The text in which a backslash before an opening bracket is dropped. -/
def dropBackslashes : List Char → List Char
  | [] => []
  | '\\' :: '[' :: rest => '[' :: dropBackslashes rest
  | c :: rest => c :: dropBackslashes rest

/-- The control characters that are never printed. -/
def isDropped (c : Char) : Bool :=
  c == '\x07' || c == '\x08' || c == '\x0b' || c == '\x0c' || c == '\x0d'

def shownRun (content : List Char) : List Char :=
  (dropBackslashes content).filter (!isDropped ·)

/-- A tag that takes effect: its normal name, its parameters, and the number of characters that show
before it. -/
structure OpenTag where
  name : List Char
  parameters : List Char
  start : Nat
  deriving DecidableEq, Repr

/-- The characters of a text from `start` and before `stop`, and the name of their style. -/
structure Span where
  start : Nat
  stop : Nat
  style : List Char
  deriving DecidableEq, Repr

namespace OpenTag

def span (tag : OpenTag) (stop : Nat) : Span :=
  { start := tag.start, stop, style := tag.name ++ ' ' :: tag.parameters }

/-- What a closed tag gives its style to.  An action has no style, but a handler that has to be
read. -/
def closedSpans (tag : OpenTag) (stop : Nat) : Except Fault (List Span) :=
  if tag.name.head? ≠ some '@' then .ok [tag.span stop]
  else if tag.parameters.isEmpty || isHandler tag.parameters then .ok []
  else .error (.unreadableHandler (String.ofList tag.parameters))

end OpenTag

/-- The normal form of a style name, whose colors must be readable. -/
def normalName (name : List Char) : Except Fault (List Char) :=
  (normalStyleName name).mapError .unreadableColor

/-- The tag that a closing tag closes, and the tags that stay open, from the last to the first.
Without a name the last tag is closed. -/
def closing? (opened : List OpenTag) (name : List Char) :
    Except Fault (Option (OpenTag × List OpenTag)) := do
  if name.isEmpty then return opened.head?.map fun tag => (tag, opened.tail)
  let name ← normalName name
  return (opened.find? (·.name == name)).map fun tag => (tag, opened.eraseP (·.name == name))

/-- What shows of pieces, and the spans of their tags, after `position` characters and tags which are
still open, given from the last to the first. -/
def readAfter (position : Nat) (opened : List OpenTag) :
    List Piece → Except Fault (List Char × List Span)
  | [] => .ok ([], opened.map (·.span position))
  | .text content :: pieces => do
    let run := shownRun content
    let (text, spans) ← readAfter (position + run.length) opened pieces
    return (run ++ text, spans)
  | .tag content :: pieces =>
    let parameters := (content.dropWhile (· != '=')).tail
    match content.takeWhile (· != '=') with
    | '/' :: name => do
      match ← closing? opened (Text.trim name) with
      | none => throw (.unmatchedTag (String.ofList content))
      | some (tag, opened) =>
        let closed ← tag.closedSpans position
        let (text, spans) ← readAfter position opened pieces
        return (text, closed ++ spans)
    | name => do
      readAfter position (⟨← normalName name, parameters, position⟩ :: opened) pieces

/-- Whether the style of a span is looked at when a text is printed.  A text with several lines or
with tabs is taken apart, and a span in which nothing of a line is left is dropped. -/
def isVisible (text : List Char) (span : Span) : Bool :=
  !(text.contains '\n' || text.contains '\t') ||
    ((text.drop span.start).take (span.stop - span.start)).any (· != '\n')

/-- What shows of a text with markup.  It is an assumption on the console that it leaves emoji codes
such as `:smile:` as they are. -/
def shown (text : List Char) : Except Fault (List Char) := do
  let (text, spans) ← readAfter 0 [] (pieces text)
  (spans.filter (isVisible text)).forM fun span => do
    discard ((styleNamed? span.style).mapError .unreadableColor)
  return text

/-- The text in which every tag is preceded by an odd number of backslashes. -/
def escapeTags (text : List Char) : List Char :=
  match text with
  | [] => []
  | c :: rest =>
    match h : taggedAt (c :: rest) with
    | none => c :: escapeTags rest
    | some (count, tag, after) =>
      have : after.length < rest.length + 1 := length_of_taggedAt h
      List.replicate (2 * count + 1) '\\' ++ '[' :: (tag ++ ']' :: escapeTags after)
termination_by text.length

/-- A text as it is written into a message, so that none of its tags takes effect.  A single
backslash at the end is doubled, because a tag may follow. -/
def escape (text : List Char) : List Char :=
  let escaped := escapeTags text
  if leadingBackslashes escaped.reverse = 1 then escaped ++ ['\\'] else escaped

end TextureCatalog.Terminal.Markup
