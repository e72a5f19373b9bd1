/-!
# Escape sequences

The control sequences by which a terminal is told to change its style or to move its cursor.  They
begin with an escape character and an opening bracket; parameters, intermediate characters and one
final character follow.
-/

namespace TextureCatalog.Terminal

/-- Whether a character can be one of the parameters of a control sequence. -/
def isParameter (c : Char) : Bool :=
  '0' ≤ c && c ≤ '?'

def isIntermediate (c : Char) : Bool :=
  ' ' ≤ c && c ≤ '/'

def isFinal (c : Char) : Bool :=
  '@' ≤ c && c ≤ '~'

/-- The rest of a text that begins after the bracket of a control sequence. -/
def afterSequence (text : List Char) : Option (List Char) :=
  match (text.dropWhile isParameter).dropWhile isIntermediate with
  | c :: rest => if isFinal c then some rest else none
  | [] => none

theorem length_of_afterSequence {text rest : List Char} (h : afterSequence text = some rest) :
    rest.length < text.length := by
  have hdrop : ((text.dropWhile isParameter).dropWhile isIntermediate).length ≤ text.length :=
    ((List.dropWhile_sublist _).trans (List.dropWhile_sublist _)).length_le
  unfold afterSequence at h
  split at h
  · next c tail heq =>
    rw [heq] at hdrop
    split at h
    · obtain rfl := Option.some.inj h
      simp only [List.length_cons] at hdrop
      omega
    · simp at h
  · simp at h

/-- The text without control sequences, as it goes to an output that is no terminal. -/
def dropSequences (text : List Char) : List Char :=
  match text with
  | [] => []
  | '\x1b' :: '[' :: rest =>
    match h : afterSequence rest with
    | some after =>
      have := length_of_afterSequence h
      dropSequences after
    | none => '\x1b' :: dropSequences ('[' :: rest)
  | c :: rest => c :: dropSequences rest
termination_by text.length
decreasing_by all_goals simp_all only [List.length_cons]; omega

end TextureCatalog.Terminal
