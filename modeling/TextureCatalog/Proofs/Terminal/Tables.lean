import TextureCatalog.Proofs.Terminal.Cutting
import TextureCatalog.Terminal.Table

/-!
# Tables can be rendered

What does not fit into a table is cut off, which is possible where every joiner stands after an
anchor.
-/

namespace TextureCatalog.Terminal.Table

/-- No piece of a line begins with a joiner. -/
def AnchoredLine (pieces : List Painted) : Prop :=
  ∀ piece ∈ pieces, Anchored piece.text

theorem exists_cropLine (width : Nat) {pieces : List Painted} (h : AnchoredLine pieces) :
    ∃ cut, cropLine width pieces = some cut ∧ AnchoredLine cut := by
  induction pieces generalizing width with
  | nil => exact ⟨[], rfl, List.forall_mem_nil _⟩
  | cons piece pieces ih =>
      obtain ⟨hpiece, hpieces⟩ := List.forall_mem_cons.1 h
      rw [cropLine]
      split_ifs
      · obtain ⟨cut, hcut, hanchored⟩ := ih (width - lineWidth piece.text) hpieces
        exact ⟨piece :: cut, by rw [hcut]; rfl, List.forall_mem_cons.2 ⟨hpiece, hanchored⟩⟩
      · obtain ⟨fit, hfit, hanchored⟩ := exists_fitted width hpiece
        exact ⟨_, by rw [hfit]; rfl, List.forall_mem_singleton.2 hanchored⟩

theorem exists_cropped (width : Nat) {pieces : List Painted} (h : AnchoredLine pieces) :
    ∃ cut, cropped width pieces = some cut ∧ AnchoredLine cut := by
  rw [cropped]
  split_ifs
  · exact exists_cropLine width h
  · exact ⟨pieces, rfl, h⟩

theorem exists_adjusted (style : Style) (width : Nat) {pieces : List Painted}
    (h : AnchoredLine pieces) :
    ∃ line, adjusted style width pieces = some line ∧ AnchoredLine line := by
  rw [adjusted]
  split_ifs
  · exact ⟨_, rfl, List.forall_mem_append.2
      ⟨h, List.forall_mem_singleton.2 (anchored_spaces _)⟩⟩
  · exact exists_cropped width h

theorem anchored_trimEnd {line : List Char} (h : Anchored line) : Anchored (Text.trimEnd line) := by
  refine h.of_begins (List.reverse_suffix.1 ?_)
  rw [Text.trimEnd, List.reverse_reverse]
  exact List.dropWhile_suffix _

theorem exists_alignLine (column : Column) (style : Style) (width : Nat) {line : List Char}
    (h : Joins line) :
    ∃ pieces, alignLine column style width line = some pieces ∧ AnchoredLine pieces := by
  have hline : Anchored
      (if column.rightAligned then Text.trimEnd (expandTabs line) else expandTabs line) := by
    split_ifs
    · exact anchored_trimEnd h.expandTabs.anchored
    · exact h.expandTabs.anchored
  obtain ⟨cut, hcut, hanchored⟩ := exists_truncated width hline
  rw [alignLine]
  simp only [hcut, bind, Option.bind]
  split_ifs
  · obtain ⟨text, htext, htextAnchored⟩ :=
      exists_truncated width (anchored_append (anchored_spaces (width - lineWidth cut)) hanchored)
    exact ⟨_, by rw [htext]; rfl, List.forall_mem_singleton.2 htextAnchored⟩
  · obtain ⟨text, htext, htextAnchored⟩ := exists_truncated width
      (anchored_append hanchored (anchored_spaces (width - lineWidth (expandTabs line))))
    exact ⟨_, by rw [htext]; rfl, List.forall_mem_singleton.2 htextAnchored⟩
  · exact ⟨_, rfl, List.forall_mem_cons.2
      ⟨anchored_spaces _, List.forall_mem_singleton.2 hanchored⟩⟩
  · exact ⟨_, rfl, List.forall_mem_cons.2
      ⟨hanchored, List.forall_mem_singleton.2 (anchored_spaces _)⟩⟩

theorem exists_cellLines (column : Column) (width : Nat) {cell : Painted} (h : Joins cell.text) :
    ∃ lines, cellLines column width cell = some lines ∧ ∀ line ∈ lines, AnchoredLine line := by
  rw [cellLines]
  split_ifs
  · exact ⟨[], rfl, List.forall_mem_nil _⟩
  · refine exists_mapM fun line hline => ?_
    obtain ⟨pieces, hpieces, haligned⟩ :=
      exists_alignLine column cell.style (width - padding) (h.of_mem_linesOf hline)
    obtain ⟨filled, hfilled, hadjusted⟩ := exists_adjusted column.style (width - padding) haligned
    have hblank : Anchored [' '] := anchored_spaces 1
    have hpadded : AnchoredLine (⟨column.style, [' ']⟩ :: (filled ++ [⟨column.style, [' ']⟩])) :=
      List.forall_mem_cons.2 ⟨hblank,
        List.forall_mem_append.2 ⟨hadjusted, List.forall_mem_singleton.2 hblank⟩⟩
    obtain ⟨line, hline, hanchored⟩ := exists_adjusted column.style width hpadded
    refine ⟨line, ?_, hanchored⟩
    simp only [hpieces, hfilled, bind, Option.bind]
    exact hline

/-! ## Lines -/

theorem exists_renderLine (colored : Bool) (tableWidth : Nat) {line : List Painted}
    (h : AnchoredLine line) : ∃ text, renderLine colored tableWidth line = some text := by
  obtain ⟨cut, hcut, -⟩ := exists_cropped tableWidth h
  exact ⟨_, by rw [renderLine, hcut]; rfl⟩

theorem exists_render_rule {rule : Rule} (h : rule.left ≠ joiner) (tableWidth : Nat)
    (widths : List Nat) : ∃ text, rule.render tableWidth widths = some text :=
  exists_renderLine false tableWidth (List.forall_mem_singleton.2 (anchored_cons_iff.2 h))

theorem anchoredLine_markedLine {mark : Char} (hmark : mark ≠ joiner) {fields : List (List Painted)}
    (h : ∀ field ∈ fields, AnchoredLine field) : AnchoredLine (markedLine mark fields) := by
  have hend : Anchored [mark] := anchored_cons_iff.2 hmark
  refine List.forall_mem_cons.2 ⟨hend, fun piece hpiece => ?_⟩
  obtain ⟨field, hfield, hmem⟩ := List.mem_flatMap.1 hpiece
  exact List.forall_mem_append.2 ⟨h field hfield, List.forall_mem_singleton.2 hend⟩ piece hmem

theorem anchoredLine_cellLine (column : Column) (width : Nat) {lines : List (List Painted)}
    (h : ∀ line ∈ lines, AnchoredLine line) (number : Nat) :
    AnchoredLine (cellLine column width lines number) := by
  rw [cellLine]
  cases hline : lines[number]? with
  | none => exact List.forall_mem_singleton.2 (anchored_spaces width)
  | some line => exact h line (List.mem_of_getElem? hline)

theorem exists_renderRow (colored : Bool) (tableWidth : Nat) {mark : Char} (hmark : mark ≠ joiner)
    (columns : List (Column × Nat)) {row : List Painted} (h : ∀ cell ∈ row, Joins cell.text) :
    ∃ text, renderRow colored tableWidth mark columns row = some text := by
  obtain ⟨cells, hcells, hanchored⟩ : ∃ cells,
      (columns.zip row).mapM (fun pair => cellLines pair.1.1 pair.1.2 pair.2) = some cells ∧
        ∀ lines ∈ cells, ∀ line ∈ lines, AnchoredLine line :=
    exists_mapM fun pair hpair => exists_cellLines _ _ (h pair.2 (List.of_mem_zip hpair).2)
  have hfields (number : Nat) : ∀ field ∈ columns.zipWith
      (fun column lines => cellLine column.1 column.2 lines number) cells, AnchoredLine field := by
    intro field hfield
    rw [← List.map_uncurry_zip_eq_zipWith] at hfield
    obtain ⟨pair, hpair, rfl⟩ := List.mem_map.1 hfield
    exact anchoredLine_cellLine _ _ (hanchored pair.2 (List.of_mem_zip hpair).2) number
  obtain ⟨lines, hlines, -⟩ : ∃ lines,
      (List.range ((cells.map (·.length)).foldl max 1)).mapM (fun number =>
        renderLine colored tableWidth (markedLine mark (columns.zipWith
          (fun column lines => cellLine column.1 column.2 lines number) cells))) = some lines ∧
        ∀ line ∈ lines, True :=
    exists_mapM fun number _ => by
      obtain ⟨text, htext⟩ :=
        exists_renderLine colored tableWidth (anchoredLine_markedLine hmark (hfields number))
      exact ⟨text, htext, trivial⟩
  refine ⟨lines.flatten, ?_⟩
  rw [renderRow]
  simp only [bind, Option.bind, hcells, hlines]
  rfl

/-- A table is rendered if no joiner of its cells stands where a line could begin. -/
theorem exists_render (table : Table) (colored : Bool) (tableWidth : Nat)
    (hheaders : ∀ column ∈ table.columns, Joins column.header.toList)
    (hrows : ∀ row ∈ table.rows, ∀ cell ∈ row, Joins cell.text) :
    ∃ text, table.render colored tableWidth = some text := by
  have hrule {rule : Rule} (hleft : rule.left ≠ joiner) :=
    exists_render_rule hleft tableWidth (table.widths tableWidth)
  have htop : topRule.left ≠ joiner := by decide
  have hhead : headRule.left ≠ joiner := by decide
  have hbottom : bottomRule.left ≠ joiner := by decide
  obtain ⟨top, htop⟩ := hrule htop
  obtain ⟨head, hhead⟩ := hrule hhead
  obtain ⟨bottom, hbottom⟩ := hrule hbottom
  have htitles : ∀ title ∈ table.columns.map fun column =>
      ({ text := column.header.toList } : Painted), Joins title.text :=
    List.forall_mem_map.2 hheaders
  obtain ⟨heading, hheading⟩ : ∃ text, renderRow colored tableWidth '┃'
      ((table.columns.zip (table.widths tableWidth)).map fun pair =>
        ({ pair.1 with style := .bold }, pair.2))
      (table.columns.map fun column => { text := column.header.toList }) = some text :=
    exists_renderRow colored tableWidth (by decide) _ htitles
  obtain ⟨rows, hrows, -⟩ : ∃ rows,
      table.rows.mapM (renderRow colored tableWidth '│'
        (table.columns.zip (table.widths tableWidth))) = some rows ∧ ∀ row ∈ rows, True :=
    exists_mapM fun row hrow => by
      have hmark : '│' ≠ joiner := by decide
      obtain ⟨text, htext⟩ := exists_renderRow colored tableWidth hmark _ (hrows row hrow)
      exact ⟨text, htext, trivial⟩
  refine ⟨top ++ heading ++ head ++ rows.flatten ++ bottom, ?_⟩
  rw [render]
  simp only [bind, Option.bind, hheading, hrows, htop, hhead, hbottom]
  rfl

end TextureCatalog.Terminal.Table
