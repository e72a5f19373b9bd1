import TextureCatalog.Text.WidthTable

/-!
# Cells

A terminal shows text in cells of one width.  Most characters take up one cell; some take up two or
none.  Two characters change the width of others: a joiner draws the next character into the
cells of the one before, and a picture selector makes some characters wide.
-/

namespace TextureCatalog.Terminal

def joiner : Char := '\u200d'

/-- The selector that has the character before it shown as a picture. -/
def pictureSelector : Char := '\ufe0f'

/-- The cells that a character takes up by itself; control characters take up none. -/
def charWidth (c : Char) : Nat :=
  if c.toNat < 0x20 ∨ (0x7F ≤ c.toNat ∧ c.toNat ≤ 0x9F) ∨ Text.hasZeroWidth c then 0
  else if Text.isWide c then 2
  else 1

/-- The cells that a picture selector adds to the character that it applies to, if there is one. -/
def selectorWidth (base : Option Char) : Nat :=
  if base.any Text.isWideAsPicture then 1 else 0

/-- The character to which a selector after `c` applies, where `base` is the one before `c`. -/
def baseAfter (base : Option Char) (c : Char) : Option Char :=
  if charWidth c = 0 then base else some c

/-- The cells that a line takes up after a character to which a selector could apply. -/
def lineWidthAfter (base : Option Char) : List Char → Nat
  | [] => 0
  | c :: rest =>
    if c = joiner then
      match rest with
      | [] => 0
      | _ :: rest => lineWidthAfter base rest
    else if c = pictureSelector then selectorWidth base + lineWidthAfter none rest
    else charWidth c + lineWidthAfter (baseAfter base c) rest

def lineWidth (line : List Char) : Nat :=
  lineWidthAfter none line

/-! ## Clusters -/

/-- Characters that are drawn together, and the cells that they take up. -/
structure Cluster where
  chars : List Char
  width : Nat
  deriving DecidableEq, Repr

/-- What joins a cluster whose first character is followed by a text: the joining characters, the
cells that they add, and the rest of the text. -/
def splitJoining (base : Option Char) : List Char → List Char × Nat × List Char
  | [] => ([], 0, [])
  | c :: rest =>
    if c = joiner then
      match rest with
      | [] => ([c], 0, [])
      | next :: rest =>
        let (joining, width, rest) := splitJoining base rest
        (c :: next :: joining, width, rest)
    else if c = pictureSelector then
      let (joining, width, rest) := splitJoining none rest
      (c :: joining, selectorWidth base + width, rest)
    else if charWidth c = 0 then
      let (joining, width, rest) := splitJoining base rest
      (c :: joining, width, rest)
    else ([], 0, c :: rest)

theorem length_splitJoining_le (base : Option Char) (text : List Char) :
    (splitJoining base text).2.2.length ≤ text.length := by
  fun_induction splitJoining base text <;> simp_all <;> omega

/-- The clusters of a text.  Only the first of them can be without a width. -/
def clusters (text : List Char) : List Cluster :=
  match text with
  | [] => []
  | c :: rest =>
    let joined := splitJoining (baseAfter none c) rest
    ⟨c :: joined.1, charWidth c + joined.2.1⟩ :: clusters joined.2.2
termination_by text.length
decreasing_by exact Nat.lt_succ_of_le (length_splitJoining_le _ _)

/-- The first clusters that take up some cells, if there are enough of them.  A cluster that fits only
in part leaves a space. -/
def takeClusters (width : Nat) : List Cluster → Option (List Char)
  | [] => if width = 0 then some [] else none
  | cluster :: rest =>
    if width = 0 then some []
    else if cluster.width ≤ width then
      (takeClusters (width - cluster.width) rest).map (cluster.chars ++ ·)
    else some [' ']

/-! ## Fitting -/

def spaces (count : Nat) : List Char :=
  List.replicate count ' '

/-- The text filled with spaces, or the beginning of it, so that it takes up some cells.  A joiner at
the beginning is a cluster by itself, and after another one it joins a character; so a text that
begins with joiners can take up more cells than its clusters do, and then there is no beginning of
every width. -/
def fitted (width : Nat) (text : List Char) : Option (List Char) :=
  if lineWidth text ≤ width then some (text ++ spaces (width - lineWidth text))
  else takeClusters width (clusters text)

/-- The text, or if it does not fit into some cells, as much of it as fits together with an
ellipsis. -/
def truncated (width : Nat) (text : List Char) : Option (List Char) :=
  if lineWidth text ≤ width then some text else (fitted (width - 1) text).map (· ++ ['…'])

end TextureCatalog.Terminal
