import Mathlib.Algebra.Ring.Nat
import Mathlib.Tactic.SplitIfs
import TextureCatalog.Terminal.Line
import TextureCatalog.Terminal.Markup

/-!
# Cutting lines

A line can be cut to every smaller width unless it begins with a joiner, because only then its
clusters take up less space than the line.  So a message can be printed in which every joiner comes
right after a character that is printed and is no white space, where no line can break.
-/

namespace TextureCatalog.Terminal

/-- A text that does not begin with a joiner. -/
def Anchored (text : List Char) : Prop :=
  text.head? ≠ some joiner

theorem anchored_nil : Anchored [] := by simp [Anchored]

theorem anchored_cons_iff {c : Char} {text : List Char} : Anchored (c :: text) ↔ c ≠ joiner := by
  simp [Anchored]

theorem anchored_append {text : List Char} (h : Anchored text) {rest : List Char}
    (hrest : Anchored rest) : Anchored (text ++ rest) := by
  cases text with
  | nil => exact hrest
  | cons c text => exact anchored_cons_iff.2 (anchored_cons_iff.1 h)

theorem anchored_spaces (count : Nat) : Anchored (spaces count) := by
  cases count with
  | zero => exact anchored_nil
  | succ count => exact anchored_cons_iff.2 (by decide)

theorem Anchored.of_begins {text whole : List Char} (h : Anchored whole)
    (hbegins : text <+: whole) : Anchored text := by
  obtain ⟨rest, rfl⟩ := hbegins
  cases text with
  | nil => exact anchored_nil
  | cons c text => exact anchored_cons_iff.2 (anchored_cons_iff.1 h)

/-! ## Clusters -/

theorem lineWidthAfter_cons {c : Char} (h : c ≠ joiner) (base : Option Char) (rest : List Char) :
    lineWidthAfter base (c :: rest) =
      if c = pictureSelector then selectorWidth base + lineWidthAfter none rest
      else charWidth c + lineWidthAfter (baseAfter base c) rest := by
  cases rest <;> rw [lineWidthAfter.eq_def] <;> simp only [if_neg h]

/-- What joins a cluster and the rest take up the same space as the whole text. -/
theorem lineWidthAfter_eq_add (base : Option Char) (text : List Char) :
    lineWidthAfter base text =
      (splitJoining base text).2.1 + lineWidth (splitJoining base text).2.2 := by
  fun_induction splitJoining base text with
  | case1 => rfl
  | case2 => rfl
  | case3 base next rest joining width after hsplit ih =>
      rw [hsplit] at ih
      rw [lineWidthAfter, if_pos rfl]
      exact ih
  | case4 base rest joining width after hsplit hjoiner ih =>
      rw [hsplit] at ih
      rw [lineWidthAfter_cons hjoiner, if_pos rfl, ih, Nat.add_assoc]
  | case5 base c rest hjoiner hselector hwidth joining width after hsplit ih =>
      rw [hsplit] at ih
      rw [lineWidthAfter_cons hjoiner, if_neg hselector, baseAfter, if_pos hwidth, ih, hwidth,
        Nat.zero_add]
  | case6 base c rest hjoiner hselector hwidth =>
      rw [lineWidth, lineWidthAfter_cons hjoiner, lineWidthAfter_cons hjoiner]
      simp only [if_neg hselector, baseAfter, if_neg hwidth, Nat.zero_add]

theorem anchored_splitJoining (base : Option Char) (text : List Char) :
    Anchored (splitJoining base text).2.2 := by
  fun_induction splitJoining base text <;> simp_all [Anchored]

theorem lineWidth_cons {c : Char} (h : c ≠ joiner) (rest : List Char) :
    lineWidth (c :: rest) = charWidth c + lineWidthAfter (baseAfter none c) rest := by
  rw [lineWidth, lineWidthAfter_cons h]
  split_ifs with hpicture
  · have hselector : charWidth pictureSelector = 0 := by decide +kernel
    have hbase : baseAfter none pictureSelector = none := if_pos hselector
    have hnone : selectorWidth none = 0 := rfl
    rw [hpicture, hbase, hselector, hnone]
  · rfl

/-- The clusters of a line take up as much space as the line. -/
theorem lineWidth_eq_sum {text : List Char} (h : Anchored text) :
    lineWidth text = ((clusters text).map (·.width)).sum := by
  fun_induction clusters text with
  | case1 => rfl
  | case2 c rest joined ih =>
      have hrest := ih (anchored_splitJoining _ _)
      calc lineWidth (c :: rest)
          = charWidth c + lineWidthAfter (baseAfter none c) rest :=
            lineWidth_cons (anchored_cons_iff.1 h) rest
        _ = charWidth c + (joined.2.1 + lineWidth joined.2.2) := by rw [lineWidthAfter_eq_add]
        _ = charWidth c + joined.2.1 + ((clusters joined.2.2).map (·.width)).sum := by
            rw [hrest, Nat.add_assoc]

/-- The first characters of clusters. -/
theorem anchored_clusters {text : List Char} (h : Anchored text) :
    ∀ cluster ∈ clusters text, Anchored cluster.chars := by
  fun_induction clusters text with
  | case1 => exact List.forall_mem_nil _
  | case2 c rest joined ih =>
      exact List.forall_mem_cons.2
        ⟨anchored_cons_iff.2 (anchored_cons_iff.1 h), ih (anchored_splitJoining _ _)⟩

theorem exists_takeClusters {width : Nat} {parts : List Cluster}
    (hwidth : width ≤ (parts.map (·.width)).sum) (h : ∀ part ∈ parts, Anchored part.chars) :
    ∃ taken, takeClusters width parts = some taken ∧ Anchored taken := by
  induction parts generalizing width with
  | nil =>
      have hzero : width = 0 := by simpa using hwidth
      exact ⟨[], by rw [takeClusters, if_pos hzero], anchored_nil⟩
  | cons part parts ih =>
      obtain ⟨hpart, hparts⟩ := List.forall_mem_cons.1 h
      rw [List.map_cons, List.sum_cons] at hwidth
      rw [takeClusters]
      split_ifs with hzero hfits
      · exact ⟨[], rfl, anchored_nil⟩
      · have hrest : width - part.width ≤ (parts.map (·.width)).sum := by omega
        obtain ⟨taken, htaken, hanchored⟩ := ih hrest hparts
        exact ⟨part.chars ++ taken, by rw [htaken]; rfl, anchored_append hpart hanchored⟩
      · exact ⟨[' '], rfl, anchored_cons_iff.2 (by decide)⟩

/-! ## Fitting -/

theorem exists_fitted (width : Nat) {text : List Char} (h : Anchored text) :
    ∃ fit, fitted width text = some fit ∧ Anchored fit := by
  rw [fitted]
  split_ifs with hfits
  · exact ⟨_, rfl, anchored_append h (anchored_spaces _)⟩
  · rw [lineWidth_eq_sum h] at hfits
    exact exists_takeClusters (Nat.le_of_not_le hfits) (anchored_clusters h)

theorem exists_truncated (width : Nat) {text : List Char} (h : Anchored text) :
    ∃ cut, truncated width text = some cut ∧ Anchored cut := by
  rw [truncated]
  split_ifs
  · exact ⟨text, rfl, h⟩
  · obtain ⟨fit, hfit, hanchored⟩ := exists_fitted (width - 1) h
    exact ⟨fit ++ ['…'], by rw [hfit]; rfl,
      anchored_append hanchored (anchored_cons_iff.2 (by decide))⟩

/-! ## Joiners inside of texts -/

/-- Whether a joiner can stand after a character: it shows, and is not white space. -/
def isAnchor (c : Char) : Bool :=
  !Text.isBlank c && !Markup.isDropped c

/-- Every joiner of a text that comes after a character stands after an anchor. -/
def JoinsAfter (last : Char) : List Char → Prop
  | [] => True
  | c :: rest => (c = joiner → isAnchor last = true) ∧ JoinsAfter c rest

/-- Every joiner of a text stands after an anchor. -/
def Joins (text : List Char) : Prop :=
  JoinsAfter '\n' text

theorem joinsAfter_of_not_mem {text : List Char} (h : joiner ∉ text) (last : Char) :
    JoinsAfter last text := by
  induction text generalizing last with
  | nil => trivial
  | cons c text ih =>
      obtain ⟨hc, htext⟩ := not_or.1 (fun hmem => h (List.mem_cons.2 hmem))
      exact ⟨fun heq => absurd heq.symm hc, ih htext c⟩

theorem joins_of_not_mem {text : List Char} (h : joiner ∉ text) : Joins text :=
  joinsAfter_of_not_mem h _

/-- What may follow a character that is no anchor may follow every character. -/
theorem JoinsAfter.of_not_anchor {last : Char} {text : List Char} (h : JoinsAfter last text)
    (hlast : isAnchor last = false) (other : Char) : JoinsAfter other text := by
  cases text with
  | nil => trivial
  | cons c text => exact ⟨fun heq => absurd ((h.1 heq).symm.trans hlast) (by decide), h.2⟩

theorem isAnchor_of_isBlank {c : Char} (h : Text.isBlank c = true) : isAnchor c = false := by
  simp [isAnchor, h]

theorem Joins.after {text : List Char} (h : Joins text) (last : Char) : JoinsAfter last text :=
  JoinsAfter.of_not_anchor h (isAnchor_of_isBlank (by decide)) last

theorem Joins.anchored {text : List Char} (h : Joins text) : Anchored text := by
  cases text with
  | nil => exact anchored_nil
  | cons c text =>
      refine anchored_cons_iff.2 fun heq => ?_
      exact absurd ((h.1 heq).symm.trans (isAnchor_of_isBlank (by decide))) (by decide)

/-- The end of a text may be replaced if that is right after every character. -/
theorem JoinsAfter.append_congr {rest other : List Char}
    (h : ∀ last, JoinsAfter last rest → JoinsAfter last other) {last : Char} {text : List Char}
    (htext : JoinsAfter last (text ++ rest)) : JoinsAfter last (text ++ other) := by
  induction text generalizing last with
  | nil => exact h last htext
  | cons c text ih => exact ⟨htext.1, ih htext.2⟩

theorem JoinsAfter.append {last : Char} {text rest : List Char} (h : JoinsAfter last text)
    (hrest : Joins rest) : JoinsAfter last (text ++ rest) := by
  rw [← List.append_nil text] at h
  exact h.append_congr fun last _ => hrest.after last

theorem joins_spaces (count : Nat) : Joins (spaces count) :=
  joins_of_not_mem fun hmem => absurd (List.eq_of_mem_replicate hmem) (by decide)

/-! ## Lines -/

/-- A joiner does not come first in a piece between separators that are no anchors. -/
theorem JoinsAfter.of_mem_cutAt {separator last : Char} {text : List Char}
    (hseparator : isAnchor separator = false) (h : JoinsAfter last text) :
    ∃ first others, Text.cutAt separator text = first :: others ∧ JoinsAfter last first ∧
      ∀ piece ∈ others, Joins piece := by
  induction text generalizing last with
  | nil => exact ⟨[], [], rfl, trivial, List.forall_mem_nil _⟩
  | cons c text ih =>
      obtain ⟨first, others, hcut, hfirst, hothers⟩ := ih h.2
      rw [Text.cutAt, hcut]
      split_ifs with hc
      · rw [hc] at hfirst
        exact ⟨[], _, rfl, trivial,
          List.forall_mem_cons.2 ⟨hfirst.of_not_anchor hseparator _, hothers⟩⟩
      · exact ⟨c :: first, others, rfl, ⟨h.1, hfirst⟩, hothers⟩

theorem Joins.of_mem_cutAt {separator : Char} {text piece : List Char}
    (hseparator : isAnchor separator = false) (h : Joins text)
    (hpiece : piece ∈ Text.cutAt separator text) : Joins piece := by
  obtain ⟨first, others, hcut, hfirst, hothers⟩ := JoinsAfter.of_mem_cutAt hseparator h
  rw [hcut] at hpiece
  exact List.forall_mem_cons.2 ⟨hfirst, hothers⟩ piece hpiece

theorem linesOf_eq_cutAt (text : List Char) : Text.linesOf text = Text.cutAt '\n' text := by
  fun_induction Text.linesOf text with
  | case1 => rfl
  | case2 rest ih => rw [Text.cutAt, if_pos rfl, ih]
  | case3 c rest hc hlines ih => rw [Text.cutAt, if_neg hc, ← ih, hlines]
  | case4 c rest hc line lines hlines ih => rw [Text.cutAt, if_neg hc, ← ih, hlines]

theorem Joins.of_mem_linesOf {text line : List Char} (h : Joins text)
    (hline : line ∈ Text.linesOf text) : Joins line := by
  rw [linesOf_eq_cutAt] at hline
  exact h.of_mem_cutAt (isAnchor_of_isBlank (by decide)) hline

theorem joins_expandPieces {pieces : List (List Char)} (h : ∀ piece ∈ pieces, Joins piece)
    (column : Nat) : Joins (expandPieces column pieces) := by
  fun_induction expandPieces column pieces with
  | case1 => trivial
  | case2 column piece => exact h piece (by simp)
  | case3 column piece pieces hne filled stop missing ih =>
      obtain ⟨hpiece, hpieces⟩ := List.forall_mem_cons.1 h
      rw [List.append_assoc, List.append_assoc]
      exact hpiece.append ((joins_spaces 1).append ((joins_spaces missing).append (ih hpieces)))

theorem Joins.expandTabs {line : List Char} (h : Joins line) : Joins (expandTabs line) :=
  joins_expandPieces (fun _ hpiece => h.of_mem_cutAt (isAnchor_of_isBlank (by decide)) hpiece) 0

/-! ## Words -/

theorem isBlank_joiner : Text.isBlank joiner = false := by decide

theorem Anchored.append_of_ne_nil {text : List Char} (h : Anchored text) (hne : text ≠ [])
    (rest : List Char) : Anchored (text ++ rest) := by
  obtain ⟨c, others, rfl⟩ := List.exists_cons_of_ne_nil hne
  exact anchored_cons_iff.2 (anchored_cons_iff.1 h)

theorem JoinsAfter.ne_of_isBlank {last c : Char} {rest : List Char}
    (h : JoinsAfter last (c :: rest)) (hlast : Text.isBlank last = true) : c ≠ joiner := by
  intro hc
  exact absurd ((h.1 hc).symm.trans (isAnchor_of_isBlank hlast)) (by decide)

/-- A word begins with the first character of the line or after white space. -/
theorem anchored_wordsAfter {before text : List Char} {inside : Bool}
    (hbefore : Anchored before.reverse) (h : JoinsAfter (before.head?.getD '\n') text) :
    ∀ word ∈ wordsAfter before inside text, Anchored word := by
  fun_induction wordsAfter before inside text with
  | case1 => exact List.forall_mem_singleton.2 hbefore
  | case2 => exact List.forall_mem_nil _
  | case3 before inside c rest hblank ih =>
      refine ih ?_ h.2
      rw [List.reverse_cons]
      refine anchored_append hbefore (anchored_cons_iff.2 ?_)
      rintro rfl
      exact absurd (hblank.symm.trans isBlank_joiner) (by decide)
  | case4 inside c rest _ last before hbreak ih =>
      have hlast : Text.isBlank last = true := (Bool.and_eq_true_iff.1 hbreak).2
      exact List.forall_mem_cons.2
        ⟨hbefore, ih (anchored_cons_iff.2 (h.ne_of_isBlank hlast)) h.2⟩
  | case5 inside c rest _ last before _ ih =>
      refine ih ?_ h.2
      rw [List.reverse_cons]
      exact hbefore.append_of_ne_nil (by simp) [c]
  | case6 inside c rest _ ih =>
      exact ih (anchored_cons_iff.2 (h.ne_of_isBlank (by decide))) h.2

/-! ## Lines of words -/

/-- A kind of texts to which nothing belongs, and with two texts what they make up together.  Lines
are put together from words and their clusters, so they are of every such kind of which these are. -/
structure ClosedUnderAppend (kind : List Char → Prop) : Prop where
  nil : kind []
  append {text rest : List Char} : kind text → kind rest → kind (text ++ rest)

theorem anchored_closed : ClosedUnderAppend Anchored :=
  ⟨anchored_nil, fun h hrest => anchored_append h hrest⟩

namespace ClosedUnderAppend

variable {kind : List Char → Prop}

theorem flatten (hkind : ClosedUnderAppend kind) {texts : List (List Char)}
    (h : ∀ text ∈ texts, kind text) : kind texts.flatten := by
  induction texts with
  | nil => exact hkind.nil
  | cons text texts ih =>
      obtain ⟨htext, htexts⟩ := List.forall_mem_cons.1 h
      exact hkind.append htext (ih htexts)

theorem reverse_flatten (hkind : ClosedUnderAppend kind) {line : List (List Char)}
    (h : ∀ text ∈ line, kind text) : kind line.reverse.flatten :=
  hkind.flatten fun text hmem => h text (List.mem_reverse.1 hmem)

theorem chopAfter (hkind : ClosedUnderAppend kind) (width used : Nat) {line : List (List Char)}
    {parts : List Cluster} (hline : ∀ text ∈ line, kind text)
    (h : ∀ part ∈ parts, kind part.chars) :
    ∀ text ∈ Terminal.chopAfter width used line parts, kind text := by
  induction parts generalizing used line with
  | nil => exact List.forall_mem_singleton.2 (hkind.reverse_flatten hline)
  | cons part parts ih =>
      obtain ⟨hpart, hparts⟩ := List.forall_mem_cons.1 h
      rw [Terminal.chopAfter]
      split_ifs
      · exact List.forall_mem_cons.2
          ⟨hkind.reverse_flatten hline, ih _ (List.forall_mem_singleton.2 hpart) hparts⟩
      · exact ih _ (List.forall_mem_cons.2 ⟨hpart, hline⟩) hparts

/-- A word that is too wide is chopped, so its clusters have to be of the kind as well. -/
theorem fillAfter (hkind : ClosedUnderAppend kind)
    (hclusters : ∀ word, kind word → ∀ part ∈ clusters word, kind part.chars) (width used : Nat)
    {line words : List (List Char)} (hline : ∀ text ∈ line, kind text)
    (h : ∀ word ∈ words, kind word) :
    ∀ text ∈ Terminal.fillAfter width used line words, kind text := by
  induction words generalizing used line with
  | nil => exact List.forall_mem_singleton.2 (hkind.reverse_flatten hline)
  | cons word words ih =>
      obtain ⟨hword, hwords⟩ := List.forall_mem_cons.1 h
      have hfinished :
          ∀ text ∈ (if line.isEmpty then [] else [line.reverse.flatten]), kind text := by
        split_ifs
        · exact List.forall_mem_nil _
        · exact List.forall_mem_singleton.2 (hkind.reverse_flatten hline)
      have hchop : ∀ text ∈ chop width word, kind text :=
        hkind.chopAfter width 0 (List.forall_mem_nil _) (hclusters word hword)
      have hlast : kind ((chop width word).getLast?.getD []) := by
        cases hparts : (chop width word).getLast? with
        | none => exact hkind.nil
        | some last => exact hchop last (List.mem_of_getLast? hparts)
      rw [Terminal.fillAfter]
      simp only
      by_cases hfits : used + lineWidth (Text.trimEnd word) ≤ width
      · rw [if_pos hfits]
        exact ih _ (List.forall_mem_cons.2 ⟨hword, hline⟩) hwords
      · rw [if_neg hfits]
        by_cases hwide : width < lineWidth (Text.trimEnd word)
        · rw [if_pos hwide]
          refine List.forall_mem_append.2 ⟨List.forall_mem_append.2 ⟨hfinished, ?_⟩,
            ih _ (List.forall_mem_singleton.2 hlast) hwords⟩
          exact fun text hmem => hchop text (List.dropLast_subset _ hmem)
        · rw [if_neg hwide]
          exact List.forall_mem_append.2
            ⟨hfinished, ih _ (List.forall_mem_singleton.2 hword) hwords⟩

end ClosedUnderAppend

theorem exists_mapM {α β : Type} {f : α → Option β} {property : β → Prop} {items : List α}
    (h : ∀ item ∈ items, ∃ result, f item = some result ∧ property result) :
    ∃ results, items.mapM f = some results ∧ ∀ result ∈ results, property result := by
  induction items with
  | nil => exact ⟨[], rfl, List.forall_mem_nil _⟩
  | cons item items ih =>
      obtain ⟨⟨result, hresult, hproperty⟩, hitems⟩ := List.forall_mem_cons.1 h
      obtain ⟨results, hresults, hproperties⟩ := ih hitems
      exact ⟨result :: results, by rw [List.mapM_cons, hresult, hresults]; rfl,
        List.forall_mem_cons.2 ⟨hproperty, hproperties⟩⟩

theorem exists_folded (width : Nat) {line : List Char} (h : Joins line) :
    ∃ lines, folded width line = some lines ∧ ∀ text ∈ lines, Anchored text := by
  have hlines : ∀ text ∈ (if Text.allBlank line then [line]
      else fillAfter width 0 [] (wordsAfter [] false line)), Anchored text := by
    split_ifs
    · exact List.forall_mem_singleton.2 h.anchored
    · exact anchored_closed.fillAfter (fun _ => anchored_clusters) width 0 (List.forall_mem_nil _)
        (anchored_wordsAfter anchored_nil h)
  rw [folded]
  refine exists_mapM fun text hmem => ?_
  have hkept : Anchored (dropExcess width text) :=
    (hlines text hmem).of_begins (List.take_prefix _ _)
  simp only
  split_ifs
  · exact exists_fitted width hkept
  · exact ⟨_, rfl, hkept⟩

/-- A message is printed if every joiner stands after an anchor. -/
theorem exists_printed (width : Nat) {message : List Char} (h : Joins message) :
    ∃ text, printed width message = some text := by
  obtain ⟨lines, hlines, -⟩ := exists_mapM fun line hline =>
    exists_folded width (h.of_mem_linesOf hline).expandTabs
  exact ⟨_, by rw [printed, hlines]; rfl⟩

end TextureCatalog.Terminal
