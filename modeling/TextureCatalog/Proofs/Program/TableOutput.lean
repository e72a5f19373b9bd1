import TextureCatalog.Program.Search
import TextureCatalog.Proofs.Manifest.Loading
import TextureCatalog.Proofs.Program.Actions
import TextureCatalog.Proofs.Terminal.Tables

/-!
# Tables of textures

Which tables can be printed: the texts of the textures are escaped, so that nothing in them is taken
for a tag, and what is left is that no joiner stands where a line could be cut before it.
-/

namespace TextureCatalog.Program

open Terminal

variable {context : Context} {screen : Screen} {before : RunState}

/-! ## Cells -/

/-- The texts of a texture that stand in a table have joiners only behind other characters. -/
structure JoinsTexts (texture : Texture) : Prop where
  displayName : Joins texture.displayName.toList
  propertyName : Joins texture.propertyName.toList
  name : Joins texture.name.toList
  pixelFormat : Joins texture.pixelFormat.toList
  assetPath : Joins texture.assetPath.toList

theorem joiner_not_mem_decimalInt (n : Int) : joiner ∉ Text.decimalInt n := by
  have hdigits (n : Nat) : joiner ∉ Text.decimal n := fun hmem =>
    Text.ne_of_isDigit (Text.isDigit_of_mem_decimal hmem) (by decide) rfl
  cases n with
  | ofNat n => exact hdigits n
  | negSucc n => exact List.not_mem_cons_of_ne_of_not_mem (by decide) (hdigits _)

theorem exists_literalCell {text : String} (h : Joins text.toList) (before : RunState) :
    ∃ cell, Completes (literalCell text) screen before cell before ∧ Joins cell.text := by
  obtain ⟨run, hrun, hjoins⟩ :=
    Markup.exists_shown_escape text.toList Markup.Bland.nil Markup.guarded_nil
  have hshown : Markup.shown (literal text).toList = .ok run := by
    rw [literal, String.toList_ofList, ← hrun, List.append_nil]
  exact ⟨{ text := run }, (completes_shown hshown).bind (completes_pure _),
    hjoins h (joins_of_not_mem List.not_mem_nil)⟩

/-- The marks behind a display name are no tags. -/
theorem exists_displayCell {texture : Texture} (h : Joins texture.displayName.toList)
    (before : RunState) :
    ∃ cell, Completes (displayCell texture) screen before cell before ∧ Joins cell.text := by
  have hcell (mark : String) (hbland : Markup.Bland mark.toList)
      (hmark : Markup.Guarded mark.toList) (hjoiner : joiner ∉ mark.toList) : ∃ cell,
        Completes (do return ({ text := ← shown (literal texture.displayName ++ mark) } : Painted))
          screen before cell before ∧ Joins cell.text := by
    obtain ⟨run, hrun, hjoins⟩ :=
      Markup.exists_shown_escape texture.displayName.toList hbland hmark
    have hshown : Markup.shown (literal texture.displayName ++ mark).toList = .ok run := by
      rw [String.toList_append, literal, String.toList_ofList, hrun]
    exact ⟨{ text := run }, (completes_shown hshown).bind (completes_pure _),
      hjoins h (joins_of_not_mem hjoiner)⟩
  rw [displayCell]
  split_ifs
  · have hbland : Markup.Bland " [NORMAL]".toList :=
      .plain (by decide) (.bracket (by decide) (by decide) (Markup.bland_of_not_mem (by decide)))
    exact hcell _ hbland (Markup.guarded_cons (by decide) (by decide) (by decide) rfl) (by decide)
  · have hbland : Markup.Bland " [LINEAR]".toList :=
      .plain (by decide) (.bracket (by decide) (by decide) (Markup.bland_of_not_mem (by decide)))
    exact hcell _ hbland (Markup.guarded_cons (by decide) (by decide) (by decide) rfl) (by decide)
  · exact hcell "" .nil Markup.guarded_nil List.not_mem_nil

/-- Numerals that can be written have no joiners in them. -/
theorem exists_numeralCell {text : String} (h : joiner ∉ text.toList) (style : Style)
    (before : RunState) :
    ∃ cell, Completes (numeralCell style (some text)) screen before cell before ∧
      Joins cell.text :=
  ⟨_, completes_pure _, joins_of_not_mem h⟩

theorem exists_sizeCell {texture : Texture} (h : Manifest.IsSound texture) (before : RunState) :
    ∃ cell, Completes (sizeCell texture) screen before cell before ∧ Joins cell.text := by
  have hlabel : texture.sizeLabel =
      some (Text.decimalText texture.width ++ "x" ++ Text.decimalText texture.height) := by
    rw [Texture.sizeLabel, Text.decimalText?, if_pos h.width, Text.decimalText?, if_pos h.height]
    rfl
  have hcross : joiner ∉ "x".toList := by decide
  rw [sizeCell, hlabel]
  refine exists_numeralCell ?_ _ before
  simp only [Text.decimalText, String.toList_append, String.toList_ofList, List.mem_append, not_or]
  exact ⟨⟨joiner_not_mem_decimalInt _, hcross⟩, joiner_not_mem_decimalInt _⟩

theorem exists_crunchCell {texture : Texture} (h : Manifest.IsSound texture) (before : RunState) :
    ∃ cell, Completes (crunchCell texture) screen before cell before ∧ Joins cell.text := by
  rw [crunchCell]
  split_ifs
  · rw [Text.decimalText?, if_pos h.quality]
    refine exists_numeralCell ?_ _ before
    rw [Text.decimalText, String.toList_ofList]
    exact joiner_not_mem_decimalInt _
  · exact ⟨_, completes_pure _, joins_of_not_mem List.not_mem_nil⟩

theorem joiner_not_mem_colorSpaceLabel (texture : Texture) :
    joiner ∉ texture.colorSpaceLabel.toList := by
  rw [Texture.colorSpaceLabel]
  split_ifs <;> decide

theorem joiner_not_mem_compressionLabel {texture : Texture} (h : Manifest.IsSound texture) :
    joiner ∉ texture.importInfo.compressionLabel.toList := by
  obtain hempty | ⟨setting, hlabel⟩ := h.label
  · rw [hempty]
    exact List.not_mem_nil
  · rw [hlabel]
    cases setting <;> decide

/-! ## Rows -/

theorem exists_tableRow {texture : Texture} (hsound : Manifest.IsSound texture)
    (h : JoinsTexts texture) (before : RunState) :
    ∃ row, Completes (tableRow texture) screen before row before ∧
      ∀ cell ∈ row, Joins cell.text := by
  have hliteral {text : String} (hjoins : Joins text.toList) : ∃ cell,
      Completes (literalCell text) screen before cell before ∧ Joins cell.text :=
    exists_literalCell hjoins before
  obtain ⟨display, hdisplay, hdisplayJoins⟩ : ∃ cell,
      Completes (displayCell texture) screen before cell before ∧ Joins cell.text :=
    exists_displayCell h.displayName before
  obtain ⟨property, hproperty, hpropertyJoins⟩ := hliteral h.propertyName
  obtain ⟨name, hname, hnameJoins⟩ := hliteral h.name
  obtain ⟨format, hformat, hformatJoins⟩ := hliteral h.pixelFormat
  obtain ⟨path, hpath, hpathJoins⟩ := hliteral h.assetPath
  obtain ⟨size, hsize, hsizeJoins⟩ : ∃ cell,
      Completes (sizeCell texture) screen before cell before ∧ Joins cell.text :=
    exists_sizeCell hsound before
  obtain ⟨crunch, hcrunch, hcrunchJoins⟩ : ∃ cell,
      Completes (crunchCell texture) screen before cell before ∧ Joins cell.text :=
    exists_crunchCell hsound before
  refine ⟨_, hdisplay.bind (hproperty.bind (hname.bind (hsize.bind (hformat.bind (hcrunch.bind
    (hpath.bind (completes_pure _))))))), ?_⟩
  simp only [List.forall_mem_cons]
  refine ⟨hdisplayJoins, hpropertyJoins, hnameJoins, hsizeJoins, hformatJoins, ?_, hcrunchJoins,
    ?_, hpathJoins, List.forall_mem_nil _⟩
  · exact joins_of_not_mem (joiner_not_mem_colorSpaceLabel texture)
  · exact joins_of_not_mem (joiner_not_mem_compressionLabel hsound)

/-- Each of some items has a value, which has a property. -/
theorem exists_mapM_completes {α β : Type} {action : α → Action β} {property : β → Prop}
    {items : List α} (h : ∀ item ∈ items, ∃ value,
      Completes (action item) screen before value before ∧ property value) :
    ∃ values, Completes (items.mapM action) screen before values before ∧
      ∀ value ∈ values, property value := by
  induction items with
  | nil => exact ⟨[], completes_pure [], List.forall_mem_nil _⟩
  | cons item items ih =>
      obtain ⟨hitem, hitems⟩ := List.forall_mem_cons.1 h
      obtain ⟨value, hvalue, hproperty⟩ := hitem
      obtain ⟨values, hvalues, hproperties⟩ := ih hitems
      refine ⟨value :: values, ?_, List.forall_mem_cons.2 ⟨hproperty, hproperties⟩⟩
      rw [List.mapM_cons]
      exact hvalue.bind (hvalues.bind (completes_pure _))

/-! ## Titles -/

variable {request : SearchRequest} {material : Material}

/-- The part of the title that counts textures. -/
def countsText (count total : Nat) : List Char :=
  ": ".toList ++ (Text.decimalInt count ++ (" of ".toList ++
    (Text.decimalInt total ++ " textures".toList)))

/-- The part of the title that names the query, if there is one. -/
def matchingText (query : String) : List Char :=
  if query.isEmpty then []
  else " matching '".toList ++ (Markup.escape query.toList ++ "'".toList)

theorem tableTitle_toList (request : SearchRequest) (material : Material) (count : Nat) :
    (tableTitle request material count).toList =
      Markup.escape material.name.toList ++ (countsText count material.textures.length ++
        matchingText request.queryText) := by
  have hself (text : String) : toString text = text := rfl
  rw [tableTitle, matchingText]
  split_ifs <;> simp [literal, countsText, Text.decimalText, hself]

/-- The counts consist of letters, marks and digits. -/
theorem not_mem_countsText {mark : Char} (hdigit : mark.isDigit = false)
    (hletters : mark ∉ ": of textures".toList) (count total : Nat) :
    mark ∉ countsText count total := by
  have hdigits (n : Nat) : mark ∉ Text.decimalInt n := fun hmem =>
    Text.ne_of_isDigit (Text.isDigit_of_mem_decimal hmem) hdigit rfl
  intro hmem
  simp only [countsText, List.mem_append, hdigits, false_or] at hmem
  exact hletters (by simp at hmem ⊢; tauto)

theorem guarded_quote (rest : List Char) : Markup.Guarded ("'".toList ++ '[' :: rest) :=
  Markup.guarded_cons (by decide) (by decide) (by decide) rfl

theorem exists_passes_matchingText {query : String} (h : Joins query.toList) (rest : List Char) :
    ∃ content, Markup.Passes (matchingText query) ('[' :: rest) content ∧ Joins content := by
  rw [matchingText]
  split_ifs
  · exact ⟨[], Markup.passes_of_plain List.not_mem_nil List.not_mem_nil _,
      joins_of_not_mem List.not_mem_nil⟩
  · obtain ⟨marks, hmarks, hquery⟩ : ∃ marks, joiner ∉ marks ∧ Markup.Passes
        (Markup.escape query.toList) ("'".toList ++ '[' :: rest) (query.toList ++ marks) :=
      Markup.exists_passes_escape (.inl (guarded_quote rest))
    have hquote : Markup.Passes "'".toList ('[' :: rest) "'".toList :=
      Markup.passes_of_plain (by decide) (by decide) _
    refine ⟨_, (Markup.passes_of_plain (by decide) (by decide) _).append (hquery.append hquote), ?_⟩
    exact (joins_of_not_mem (by decide)).append
      ((h.append (joins_of_not_mem hmarks)).append (joins_of_not_mem (by decide)))

theorem upToClosing_matchingText {query : String} (h : ']' ∉ query.toList) (rest : List Char) :
    Markup.upToClosing (matchingText query ++ '[' :: rest) = none := by
  rw [matchingText]
  split_ifs
  · rfl
  · rw [List.append_assoc, List.append_assoc]
    exact Markup.upToClosing_append_of_not_mem (by decide)
      (Markup.upToClosing_escape h (guarded_quote rest))

/-- What follows the name of the material in the title is no tag, and closes no bracket if the query
does not. -/
theorem guarded_or_of_not_mem {name : List Char} {query : String}
    (h : '[' ∉ name ∨ ']' ∉ query.toList) (count total : Nat) (rest : List Char) :
    Markup.Guarded (countsText count total ++ (matchingText query ++ '[' :: rest)) ∨
      ('[' ∉ name ∧
        Markup.taggedAt (countsText count total ++ (matchingText query ++ '[' :: rest)) =
          none) := by
  have hclosing : ']' ∉ countsText count total := not_mem_countsText (by decide) (by decide) _ _
  obtain hopening | hunclosed := h
  · refine .inr ⟨hopening, ?_⟩
    rw [countsText, List.append_assoc]
    exact Markup.taggedAt_eq_none_of_ne (by decide) (by decide) _
  · have hnone :=
      Markup.upToClosing_append_of_not_mem hclosing (upToClosing_matchingText hunclosed rest)
    rw [countsText, List.append_assoc] at hnone ⊢
    exact .inl (Markup.guarded_cons (by decide) (by decide) (by decide) hnone)

/-- The title shows as it is, if the query closes no bracket that the name of the material leaves
open. -/
theorem exists_passes_tableTitle
    (h : '[' ∉ material.name.toList ∨ ']' ∉ request.queryText.toList)
    (hname : Joins material.name.toList) (hquery : Joins request.queryText.toList) (count : Nat)
    (rest : List Char) :
    ∃ content, Markup.Passes (tableTitle request material count).toList ('[' :: rest) content ∧
      Joins content := by
  rw [tableTitle_toList]
  have hcounts {mark : Char} (hdigit : mark.isDigit = false)
      (hletters : mark ∉ ": of textures".toList) :=
    not_mem_countsText hdigit hletters count material.textures.length
  obtain ⟨content, hmatching, hcontent⟩ := exists_passes_matchingText hquery rest
  obtain ⟨marks, hmarks, hescaped⟩ :=
    Markup.exists_passes_escape (guarded_or_of_not_mem h count material.textures.length rest)
  rw [← List.append_assoc] at hescaped
  refine ⟨_, hescaped.append ((Markup.passes_of_plain (hcounts (by decide) (by decide))
    (hcounts (by decide) (by decide)) _).append hmatching), ?_⟩
  exact (hname.append (joins_of_not_mem hmarks)).append
    ((joins_of_not_mem (hcounts (by decide) (by decide))).append hcontent)

/-- The title of a table can be shown: the screen has a size, and the query closes no bracket that
the name of the material leaves open. -/
structure TitleShows (screen : Screen) (request : SearchRequest) (material : Material) : Prop where
  screen : screen.messageWidth?.isSome = true
  name : Joins material.name.toList
  query : Joins request.queryText.toList
  unclosed : '[' ∉ material.name.toList ∨ ']' ∉ request.queryText.toList

theorem exists_noteAside_tableTitle (h : context.quiet = true ∨ TitleShows screen request material)
    (count : Nat) (before : RunState) : ∃ text,
      Completes (context.noteAside (tableTitle request material count)) screen before ()
        { before with output := before.output ++ text } := by
  rw [Context.noteAside]
  split_ifs with hquiet
  · refine ⟨[], ?_⟩
    rw [List.append_nil]
    exact completes_pure ()
  · have htitle := h.resolve_left hquiet
    have hmarkup : (s!"[info]{tableTitle request material count}[/info]").toList =
        Markup.labelled 0 "info".toList (tableTitle request material count).toList [] := by
      rw [String.toList_append, String.toList_append]
      rfl
    obtain ⟨content, hpasses, hcontent⟩ := exists_passes_tableTitle htitle.unclosed htitle.name
      htitle.query count ('/' :: "info".toList ++ [']'])
    have hdisplayable : Displayable screen s!"[info]{tableTitle request material count}[/info]" :=
      displayable_labelled Markup.isLabel_info hmarkup hpasses hcontent .nil
        (joins_of_not_mem List.not_mem_nil) htitle.screen
    exact hdisplayable.exists_inform before

/-! ## Tables -/

theorem exists_showTable {rows : List (List Painted)}
    (hwidth : (screen.tableWidth? context.colored).isSome = true)
    (hpager : context.pagerIsBlank = false) (hrows : ∀ row ∈ rows, ∀ cell ∈ row, Joins cell.text)
    (before : RunState) : ∃ text,
      Completes (showTable context { columns := tableColumns, rows }) screen before ()
        { before with output := before.output ++ text } := by
  obtain ⟨width, hwidth⟩ := Option.isSome_iff_exists.1 hwidth
  have hheaders : ∀ column ∈ tableColumns, Joins column.header.toList := by
    have hnone : ∀ column ∈ tableColumns, joiner ∉ column.header.toList := by decide
    exact fun column hmem => joins_of_not_mem (hnone column hmem)
  obtain ⟨text, htext⟩ := Table.exists_render { columns := tableColumns, rows }
    (context.colored && !screen.isSimple) width hheaders hrows
  have hread : Completes (read : Action Screen) screen before screen before := rfl
  refine ⟨text, hread.bind ?_⟩
  rw [hwidth]
  refine (completes_cutText htext).bind ?_
  rw [hpager]
  exact completes_write text

/-- A table of textures can be printed: its title is not wanted or can be shown, the size of the
terminal and the pager can be used, and no joiner of a text is where a line could be cut. -/
structure TablePrints (screen : Screen) (context : Context) (request : SearchRequest)
    (material : Material) (textures : List Texture) : Prop where
  title : context.quiet = true ∨ TitleShows screen request material
  width : (screen.tableWidth? context.colored).isSome = true
  pager : context.pagerIsBlank = false
  texts : ∀ texture ∈ textures, JoinsTexts texture

theorem TablePrints.exists_showTextures {textures : List Texture}
    (h : TablePrints screen context request material textures)
    (hsound : ∀ texture ∈ textures, Manifest.IsSound texture) (hformat : request.format = .table)
    (before : RunState) : ∃ text,
      Completes (showTextures context request material textures) screen before ()
        { before with output := before.output ++ text } := by
  obtain ⟨title, htitle⟩ := exists_noteAside_tableTitle h.title textures.length before
  obtain ⟨rows, hrows, hjoins⟩ : ∃ rows, Completes (textures.mapM tableRow) screen
        { before with output := before.output ++ title } rows
        { before with output := before.output ++ title } ∧
      ∀ row ∈ rows, ∀ cell ∈ row, Joins cell.text :=
    exists_mapM_completes fun texture hmem =>
      exists_tableRow (hsound texture hmem) (h.texts texture hmem) _
  obtain ⟨text, htext⟩ := exists_showTable h.width h.pager hjoins
    { before with output := before.output ++ title }
  refine ⟨title ++ text, ?_⟩
  rw [showTextures, hformat, ← List.append_assoc]
  exact htitle.bind (hrows.bind htext)

end TextureCatalog.Program
