import TextureCatalog.Proofs.Json.Writing

/-!
# Styles of JSON texts

A style says which white space stands between the tokens of a text and in which form the characters
of its strings are written.  Whatever the style, the text of a document means the document.  The
layouts of the writer are styles, with either end of lines.
-/

namespace TextureCatalog.Json

/-! ## Styles -/

/-- The places of a text where white space can stand: around it, and around the brackets, commas and
colons of a list or table at some depth. -/
inductive Gap
  | before
  | after
  | inEmpty (depth : Nat)
  | afterOpening (depth : Nat)
  | beforeComma (depth : Nat)
  | afterComma (depth : Nat)
  | beforeColon (depth : Nat)
  | afterColon (depth : Nat)
  | beforeClosing (depth : Nat)

/-- A way to write documents.  A character can stand for itself if it needs no escape, and else is
written as an escape or as the escapes of its surrogate pair. -/
structure Style where
  space : Gap → List Char
  form : Char → List Char
  isSpaces_space : ∀ gap, IsSpaces (space gap)
  exists_codes_form : ∀ c, ∃ units, Units c units ∧ Codes (form c) units

namespace Style

variable (style : Style)

def writeString (text : String) : List Char :=
  '"' :: (text.toList.flatMap style.form ++ ['"'])

mutual

/-- The text of a document that stands at some depth.  JSON has no dates; they are written as
strings. -/
def writeAt (style : Style) (depth : Nat) : Document → List Char
  | .null => "null".toList
  | .boolean true => "true".toList
  | .boolean false => "false".toList
  | .integer value => Text.decimalInt value
  | .decimal literal => literal.toList
  | .moment _ literal => style.writeString literal
  | .text value => style.writeString value
  | .list [] => '[' :: (style.space (.inEmpty depth) ++ [']'])
  | .list items => '[' :: (style.space (.afterOpening depth) ++ writeItems style depth items)
  | .table [] => '{' :: (style.space (.inEmpty depth) ++ ['}'])
  | .table members =>
    '{' :: (style.space (.afterOpening depth) ++ writeMembers style depth members)

/-- The items of a list, of which there is at least one, and its closing bracket. -/
def writeItems (style : Style) (depth : Nat) : List Document → List Char
  | [] => [']']
  | [item] => writeAt style (depth + 1) item ++ (style.space (.beforeClosing depth) ++ [']'])
  | item :: next :: items =>
    writeAt style (depth + 1) item ++ (style.space (.beforeComma depth) ++
      ',' :: (style.space (.afterComma depth) ++ writeItems style depth (next :: items)))

/-- The members of a table, of which there is at least one, and its closing brace. -/
def writeMembers (style : Style) (depth : Nat) : List (String × Document) → List Char
  | [] => ['}']
  | [(key, value)] =>
    style.writeString key ++ (style.space (.beforeColon depth) ++
      ':' :: (style.space (.afterColon depth) ++ (writeAt style (depth + 1) value ++
        (style.space (.beforeClosing depth) ++ ['}']))))
  | (key, value) :: next :: members =>
    style.writeString key ++ (style.space (.beforeColon depth) ++
      ':' :: (style.space (.afterColon depth) ++ (writeAt style (depth + 1) value ++
        (style.space (.beforeComma depth) ++ ',' :: (style.space (.afterComma depth) ++
          writeMembers style depth (next :: members))))))

end

/-- The text of a document. -/
def write (document : Document) : List Char :=
  style.space .before ++ (style.writeAt 0 document ++ style.space .after)

/-! ## What is written means the document -/

theorem quotes_flatMap_form (text : String) :
    Quotes (text.toList.flatMap style.form) text := by
  have hchars (chars : List Char) :
      ∃ codes, Codes (chars.flatMap style.form) codes ∧ UnitsOf chars codes := by
    induction chars with
    | nil => exact ⟨[], .nil, .nil⟩
    | cons c chars ih =>
        obtain ⟨units, hunits, hwritten⟩ := style.exists_codes_form c
        obtain ⟨codes, hcodes, hread⟩ := ih
        exact ⟨units ++ codes, codes_append hwritten hcodes, .cons hunits hread⟩
  obtain ⟨codes, hcodes, hread⟩ := hchars text.toList
  exact ⟨codes, hcodes, by rw [hread.charsOfCodes_eq, String.ofList_toList]⟩

theorem spells_writeString (text : String) :
    Spells (style.writeString text) (.value (.text text)) :=
  .string (style.quotes_flatMap_form text)

variable {depth : Nat}

theorem spells_writeItems {items : List Document} (hne : items ≠ [])
    (h : ∀ item ∈ items, Spells (style.writeAt (depth + 1) item) (.value item)) :
    Spells (style.writeItems depth items) (.items items) := by
  have hspace := style.isSpaces_space
  induction items with
  | nil => exact absurd rfl hne
  | cons item items ih =>
      obtain ⟨hitem, hitems⟩ := List.forall_mem_cons.1 h
      cases items with
      | nil => exact .lastItem hitem (hspace _)
      | cons next items =>
          exact .item hitem (hspace _) (hspace _) (ih (List.cons_ne_nil _ _) hitems)

theorem spells_writeMembers {members : Document.Members} (hne : members ≠ [])
    (h : ∀ member ∈ members, Spells (style.writeAt (depth + 1) member.2) (.value member.2)) :
    Spells (style.writeMembers depth members) (.members members) := by
  have hspace := style.isSpaces_space
  induction members with
  | nil => exact absurd rfl hne
  | cons member members ih =>
      obtain ⟨key, value⟩ := member
      obtain ⟨hvalue, hmembers⟩ := List.forall_mem_cons.1 h
      have hkey := style.quotes_flatMap_form key
      cases members with
      | nil =>
          have hlast := Spells.lastMember hkey (hspace (.beforeColon depth))
            (hspace (.afterColon depth)) hvalue (hspace (.beforeClosing depth))
          simpa [writeMembers, writeString] using hlast
      | cons next members =>
          have hall := Spells.member hkey (hspace (.beforeColon depth))
            (hspace (.afterColon depth)) hvalue (hspace (.beforeComma depth))
            (hspace (.afterComma depth)) (ih (List.cons_ne_nil _ _) hmembers)
          simpa [writeMembers, writeString] using hall

/-- In every style a document is spelled. -/
theorem spells_writeAt {document : Document} (h : Legible document) (depth : Nat) :
    Spells (style.writeAt depth document) (.value document) := by
  have hspace := style.isSpaces_space
  induction h generalizing depth with
  | null => exact .word (by simp [wordValues])
  | @boolean value => cases value <;> exact .word (by simp [wordValues])
  | integer hvalue => exact spells_decimalInt hvalue
  | decimal hliteral => exact hliteral
  | text => exact style.spells_writeString _
  | @list items _ ih =>
      cases items with
      | nil => exact .emptyList (hspace _)
      | cons item items =>
          exact .list (hspace _) (style.spells_writeItems (List.cons_ne_nil _ _)
            fun other hother => ih other hother (depth + 1))
  | @table members _ ih =>
      cases members with
      | nil => exact .emptyTable (hspace _)
      | cons member members =>
          exact .table (hspace _) (style.spells_writeMembers (List.cons_ne_nil _ _)
            fun other hother => ih other hother (depth + 1))

/-- In every style the text of a document means the document. -/
theorem means_write {document : Document} (h : Legible document) :
    Means (style.write document) document :=
  ⟨_, _, _, style.isSpaces_space .before, style.isSpaces_space .after, style.spells_writeAt h 0,
    rfl⟩

end Style

/-! ## Ends of lines -/

/-- What stands at the end of a line. -/
inductive LineEnd
  | lineFeed
  | returnAndLineFeed
  deriving DecidableEq

namespace LineEnd

def text : LineEnd → List Char
  | .lineFeed => ['\n']
  | .returnAndLineFeed => ['\r', '\n']

/-- A text in which all lines have this end instead of a line feed. -/
def apply (lineEnd : LineEnd) (text : List Char) : List Char :=
  text.flatMap fun c => if c = '\n' then lineEnd.text else [c]

variable (lineEnd : LineEnd)

theorem isSpaces_text : IsSpaces lineEnd.text := by
  cases lineEnd <;> exact List.all_eq_true.1 rfl

theorem apply_append (text other : List Char) :
    lineEnd.apply (text ++ other) = lineEnd.apply text ++ lineEnd.apply other :=
  List.flatMap_append

theorem apply_cons {c : Char} (hc : c ≠ '\n') (text : List Char) :
    lineEnd.apply (c :: text) = c :: lineEnd.apply text := by
  rw [apply, List.flatMap_cons, if_neg hc]
  rfl

/-- A text of a single line has no line ends. -/
theorem apply_of_not_mem {text : List Char} (h : '\n' ∉ text) : lineEnd.apply text = text := by
  induction text with
  | nil => rfl
  | cons c text ih =>
      have hc : c ≠ '\n' := (List.ne_of_not_mem_cons h).symm
      rw [lineEnd.apply_cons hc, ih (List.not_mem_of_not_mem_cons h)]

theorem apply_of_noControls {text : List Char} (h : NoControls text) :
    lineEnd.apply text = text :=
  lineEnd.apply_of_not_mem (h.not_mem (by decide))

@[simp]
theorem apply_lineFeed (text : List Char) : lineFeed.apply text = text := by
  induction text with
  | nil => rfl
  | cons c text ih =>
      by_cases hc : c = '\n'
      · subst hc
        exact congrArg ('\n' :: ·) ih
      · rw [lineFeed.apply_cons hc, ih]

end LineEnd

/-! ## Layouts -/

namespace Layout

variable (layout : Layout) (lineEnd : LineEnd)

/-- The line end and indentation before an entry at some depth. -/
def lineStart (depth : Nat) : List Char :=
  match layout.indent with
  | none => []
  | some width => lineEnd.text ++ List.replicate (width * depth) ' '

/-- The blank after a comma or colon within a line. -/
def blank : List Char :=
  if layout.spaced then [' '] else []

/-- The white space of a layout. -/
def spaceAt : Gap → List Char
  | .afterOpening depth => layout.lineStart lineEnd (depth + 1)
  | .beforeClosing depth => layout.lineStart lineEnd depth
  | .afterComma depth =>
    if layout.indent.isNone then layout.blank else layout.lineStart lineEnd (depth + 1)
  | .afterColon _ => layout.blank
  | .before | .after | .inEmpty _ | .beforeComma _ | .beforeColon _ => []

theorem isSpaces_blank : IsSpaces layout.blank := by
  unfold blank
  cases layout.spaced <;> exact List.all_eq_true.1 rfl

theorem isSpaces_lineStart (depth : Nat) : IsSpaces (layout.lineStart lineEnd depth) := by
  unfold lineStart
  cases layout.indent with
  | none => exact isSpaces_nil
  | some width =>
      refine List.forall_mem_append.2 ⟨lineEnd.isSpaces_text, fun c hc => ?_⟩
      rw [List.eq_of_mem_replicate hc]
      rfl

theorem isSpaces_spaceAt (gap : Gap) : IsSpaces (layout.spaceAt lineEnd gap) := by
  cases gap with
  | afterOpening depth => exact layout.isSpaces_lineStart lineEnd _
  | beforeClosing depth => exact layout.isSpaces_lineStart lineEnd _
  | afterComma depth =>
      simp only [spaceAt]
      split
      · exact layout.isSpaces_blank
      · exact layout.isSpaces_lineStart lineEnd _
  | afterColon depth => exact layout.isSpaces_blank
  | before | after | inEmpty | beforeComma | beforeColon => exact isSpaces_nil

/-- A layout as a style, with one of the line ends. -/
def style : Style where
  space := layout.spaceAt lineEnd
  form := writeChar layout
  isSpaces_space := layout.isSpaces_spaceAt lineEnd
  exists_codes_form := exists_codes_writeChar layout

/-! ### The text of a layout -/

variable {layout} {depth : Nat}

theorem apply_newLine : lineEnd.apply (newLine layout depth) = layout.lineStart lineEnd depth := by
  unfold newLine lineStart
  cases layout.indent with
  | none => rfl
  | some width =>
      have hblanks : lineEnd.apply (List.replicate (width * depth) ' ') =
          List.replicate (width * depth) ' ' :=
        lineEnd.apply_of_not_mem fun hmem => absurd (List.eq_of_mem_replicate hmem) (by decide)
      rw [LineEnd.apply, List.flatMap_cons, if_pos rfl, ← LineEnd.apply, hblanks]

theorem apply_blank : lineEnd.apply layout.blank = layout.blank := by
  unfold blank
  cases layout.spaced <;> rfl

theorem apply_betweenEntries : lineEnd.apply (betweenEntries layout (depth + 1)) =
    ',' :: layout.spaceAt lineEnd (.afterComma depth) := by
  have hcomma (text : List Char) : lineEnd.apply (',' :: text) = ',' :: lineEnd.apply text :=
    lineEnd.apply_cons (by decide) text
  cases hindent : layout.indent with
  | none =>
      have hbetween : betweenEntries layout (depth + 1) = ',' :: layout.blank := by
        simp only [betweenEntries, hindent, blank]
        split <;> rfl
      have hspace : layout.spaceAt lineEnd (.afterComma depth) = layout.blank := by
        simp [spaceAt, hindent]
      rw [hbetween, hspace, hcomma, apply_blank]
  | some width =>
      have hbetween :
          betweenEntries layout (depth + 1) = ',' :: newLine layout (depth + 1) := by
        simp only [betweenEntries, hindent]
      have hspace : layout.spaceAt lineEnd (.afterComma depth) =
          layout.lineStart lineEnd (depth + 1) := by
        simp [spaceAt, hindent]
      rw [hbetween, hspace, hcomma, apply_newLine]

theorem apply_afterKey : lineEnd.apply (afterKey layout) = ':' :: layout.blank := by
  have hafter : afterKey layout = ':' :: layout.blank := by
    unfold afterKey blank
    split <;> rfl
  rw [hafter, lineEnd.apply_cons (by decide), apply_blank]

theorem apply_writeString (text : String) :
    lineEnd.apply (writeString layout text) = (layout.style lineEnd).writeString text := by
  apply lineEnd.apply_of_noControls
  have hcontent := ((layout.style lineEnd).quotes_flatMap_form text).noControls
  exact List.forall_mem_cons.2 ⟨by decide, noControls_append_iff.2 ⟨hcontent, by decide⟩⟩

/-- Entries between brackets with another line end. -/
theorem apply_enclose {opening closing : Char} (hopening : opening ≠ '\n')
    {entries : List (List Char)} (hne : entries ≠ []) {text : List Char}
    (h : lineEnd.apply (Text.joinWith (betweenEntries layout (depth + 1)) entries ++
      newLine layout depth ++ [closing]) = text) :
    lineEnd.apply (enclose layout depth opening closing entries) =
      opening :: (layout.lineStart lineEnd (depth + 1) ++ text) := by
  have hentries : entries.isEmpty = false := List.isEmpty_eq_false_iff.2 hne
  rw [enclose, hentries, if_neg Bool.false_ne_true, lineEnd.apply_cons hopening,
    List.append_assoc, List.append_assoc, LineEnd.apply_append, apply_newLine, ← h,
    List.append_assoc]

theorem apply_writeItems {items : List Document} (hne : items ≠ [])
    (h : ∀ item ∈ items, lineEnd.apply (Json.writeAt layout (depth + 1) item) =
      (layout.style lineEnd).writeAt (depth + 1) item) :
    lineEnd.apply (Text.joinWith (betweenEntries layout (depth + 1))
        (Json.writeItems layout (depth + 1) items) ++ newLine layout depth ++ [']']) =
      (layout.style lineEnd).writeItems depth items := by
  induction items with
  | nil => exact absurd rfl hne
  | cons item items ih =>
      obtain ⟨hitem, hitems⟩ := List.forall_mem_cons.1 h
      cases items with
      | nil =>
          simp only [Json.writeItems, Text.joinWith, LineEnd.apply_append, hitem, apply_newLine,
            List.append_assoc]
          rfl
      | cons next items =>
          have hrest := ih (List.cons_ne_nil _ _) hitems
          simp only [Json.writeItems, Text.joinWith, LineEnd.apply_append, hitem,
            apply_betweenEntries, apply_newLine, List.append_assoc] at hrest ⊢
          rw [hrest]
          rfl

theorem apply_writeMembers {members : Document.Members} (hne : members ≠ [])
    (h : ∀ member ∈ members, lineEnd.apply (Json.writeAt layout (depth + 1) member.2) =
      (layout.style lineEnd).writeAt (depth + 1) member.2) :
    lineEnd.apply (Text.joinWith (betweenEntries layout (depth + 1))
        (Json.writeMembers layout (depth + 1) members) ++ newLine layout depth ++ ['}']) =
      (layout.style lineEnd).writeMembers depth members := by
  induction members with
  | nil => exact absurd rfl hne
  | cons member members ih =>
      obtain ⟨key, value⟩ := member
      obtain ⟨hvalue, hmembers⟩ := List.forall_mem_cons.1 h
      cases members with
      | nil =>
          simp only [Json.writeMembers, Text.joinWith, LineEnd.apply_append, apply_writeString,
            apply_afterKey, hvalue, apply_newLine, List.append_assoc]
          rfl
      | cons next members =>
          have hrest := ih (List.cons_ne_nil _ _) hmembers
          simp only [Json.writeMembers, Text.joinWith, LineEnd.apply_append, apply_writeString,
            apply_afterKey, hvalue, apply_betweenEntries, apply_newLine,
            List.append_assoc] at hrest ⊢
          rw [hrest]
          rfl

theorem noControls_decimalInt (value : Int) : NoControls (Text.decimalInt value) := by
  have hdecimal (n : Nat) : NoControls (Text.decimal n) :=
    noControls_of_isDigit fun _ hc => Text.isDigit_of_mem_decimal hc
  cases value with
  | ofNat n => exact hdecimal n
  | negSucc n => exact List.forall_mem_cons.2 ⟨by decide, hdecimal (n + 1)⟩

/-- A layout with another line end is the text of the writer with that end on its lines. -/
theorem apply_writeAt {document : Document} (h : Legible document) (depth : Nat) :
    lineEnd.apply (Json.writeAt layout depth document) =
      (layout.style lineEnd).writeAt depth document := by
  induction h generalizing depth with
  | null => rfl
  | @boolean value => cases value <;> rfl
  | integer => exact lineEnd.apply_of_noControls (noControls_decimalInt _)
  | decimal hliteral =>
      exact lineEnd.apply_of_noControls (noControls_of_spells_decimal hliteral)
  | text => exact apply_writeString lineEnd _
  | @list items _ ih =>
      cases items with
      | nil => rfl
      | cons item items =>
          exact apply_enclose lineEnd (by decide) (List.cons_ne_nil _ _)
            (apply_writeItems lineEnd (List.cons_ne_nil _ _) fun other hother =>
              ih other hother (depth + 1))
  | @table members _ ih =>
      cases members with
      | nil => rfl
      | cons member members =>
          exact apply_enclose lineEnd (by decide) (List.cons_ne_nil _ _)
            (apply_writeMembers lineEnd (List.cons_ne_nil _ _) fun other hother =>
              ih other hother (depth + 1))

theorem style_write {document : Document} (h : Legible document) :
    (layout.style lineEnd).write document = lineEnd.apply (Json.write layout document) := by
  rw [Json.write, apply_writeAt lineEnd h]
  exact List.append_nil _

end Layout

/-- Every layout of a document spells it. -/
theorem Legible.spells {document : Document} (h : Legible document) (layout : Layout)
    (depth : Nat) : Spells (writeAt layout depth document) (.value document) := by
  have hstyle := (layout.style .lineFeed).spells_writeAt h depth
  rwa [← Layout.apply_writeAt .lineFeed h, LineEnd.apply_lineFeed] at hstyle

/-- A written document is read again, whatever white space is around it. -/
theorem read_write {document : Document} (h : Legible document) (layout : Layout)
    {before after : List Char} (hbefore : IsSpaces before) (hafter : IsSpaces after) :
    read (before ++ (write layout document ++ after)) = .ok document :=
  read_eq_ok_iff.2 ⟨before, _, after, hbefore, hafter, h.spells layout 0, rfl⟩

end TextureCatalog.Json
