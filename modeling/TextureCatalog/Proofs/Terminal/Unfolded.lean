import TextureCatalog.Proofs.Terminal.Cutting
import TextureCatalog.Proofs.Text.Pieces

/-!
# Messages that fit on their lines

A line that is narrower than the screen is printed as it is: the words into which it is cut are put
together again on one line.  No character takes up more than two cells, so a message that is short
enough can only change where it has tabs.  Of a wider one at least the characters are known: they
are those of the message and spaces, but never tabs.
-/

namespace TextureCatalog.Terminal

/-! ## Short lines -/

theorem charWidth_le (c : Char) : charWidth c ≤ 2 := by
  unfold charWidth
  split_ifs <;> omega

theorem selectorWidth_le (base : Option Char) : selectorWidth base ≤ 2 := by
  unfold selectorWidth
  split_ifs <;> omega

theorem lineWidthAfter_le (base : Option Char) (text : List Char) :
    lineWidthAfter base text ≤ 2 * text.length := by
  fun_induction lineWidthAfter base text with
  | case1 => omega
  | case2 => omega
  | case3 base next rest ih =>
      simp only [List.length_cons]
      omega
  | case4 base rest hjoiner ih =>
      have hselector := selectorWidth_le base
      simp only [List.length_cons]
      omega
  | case5 base c rest hjoiner hselector ih =>
      have hchar := charWidth_le c
      simp only [List.length_cons]
      omega

theorem lineWidth_le (line : List Char) : lineWidth line ≤ 2 * line.length :=
  lineWidthAfter_le none line

theorem length_trimEnd_le (text : List Char) : (Text.trimEnd text).length ≤ text.length := by
  have hreversed : text.reverse.length = text.length := List.length_reverse
  rw [Text.trimEnd, List.length_reverse, ← hreversed]
  exact (List.dropWhile_sublist _).length_le

/-- The words of a line make up the line, unless there are none. -/
theorem flatten_wordsAfter {before text : List Char} {inside : Bool}
    (h : inside = true ∨ Text.allBlank text = false) :
    (wordsAfter before inside text).flatten = before.reverse ++ text := by
  fun_induction wordsAfter before inside text with
  | case1 before => simp
  | case2 before hinside => simp_all [Text.allBlank]
  | case3 before inside c rest hblank ih =>
      have hrest : inside = true ∨ Text.allBlank rest = false := by
        simpa [Text.allBlank, hblank] using h
      rw [ih hrest, List.reverse_cons, List.append_assoc]
      rfl
  | case4 inside c rest _ last before hbreak ih =>
      rw [List.flatten_cons, ih (.inl rfl)]
      rfl
  | case5 inside c rest _ last before _ ih =>
      rw [ih (.inl rfl), List.reverse_cons, List.append_assoc]
      rfl
  | case6 inside c rest _ ih =>
      rw [ih (.inl rfl)]
      rfl

/-- Words that fit on a line are put on it. -/
theorem fillAfter_of_short {width used : Nat} {line words : List (List Char)}
    (h : used + 2 * words.flatten.length ≤ width) :
    fillAfter width used line words = [line.reverse.flatten ++ words.flatten] := by
  induction words generalizing used line with
  | nil => simp [fillAfter]
  | cons word words ih =>
      rw [List.flatten_cons, List.length_append] at h
      have hword := lineWidth_le word
      have htrimmed := lineWidth_le (Text.trimEnd word)
      have hshorter := length_trimEnd_le word
      rw [fillAfter, if_pos (by omega), ih (by omega)]
      simp

theorem dropExcess_of_short {width : Nat} {line : List Char} (h : line.length ≤ width) :
    dropExcess width line = line := by
  rw [dropExcess]
  exact List.take_of_length_le (by omega)

theorem folded_of_short {width : Nat} {line : List Char} (h : 2 * line.length ≤ width) :
    folded width line = some [line] := by
  have hlines : (if Text.allBlank line then [line]
      else fillAfter width 0 [] (wordsAfter [] false line)) = [line] := by
    split_ifs with hblank
    · rfl
    · have hwords : (wordsAfter [] false line).flatten = line :=
        flatten_wordsAfter (.inr (by simpa using hblank))
      rw [fillAfter_of_short (by rw [hwords]; omega), hwords]
      rfl
  have hwidth := lineWidth_le line
  rw [folded, hlines]
  simp only [List.mapM_cons, List.mapM_nil, dropExcess_of_short (show line.length ≤ width by omega)]
  rw [if_neg (by omega)]
  rfl

theorem expandTabs_of_not_mem {line : List Char} (h : '\t' ∉ line) : expandTabs line = line := by
  rw [expandTabs, Text.cutAt_of_not_mem h]
  rfl

/-- The lines of a text and the line ends between them make up the text. -/
theorem flatMap_linesOf (text : List Char) :
    ((Text.linesOf text).flatMap fun line => line ++ ['\n']) = text ++ ['\n'] := by
  fun_induction Text.linesOf text with
  | case1 => rfl
  | case2 rest ih =>
      rw [List.flatMap_cons, ih]
      rfl
  | case3 c rest hc hlines ih =>
      rw [hlines] at ih
      exact absurd ih (by simp)
  | case4 c rest hc line lines hlines ih =>
      rw [hlines, List.flatMap_cons] at ih
      rw [List.flatMap_cons, List.cons_append, List.cons_append, ih]
      rfl

theorem mapM_eq_some {α β : Type} {f : α → Option β} {g : α → β} {items : List α}
    (h : ∀ item ∈ items, f item = some (g item)) : items.mapM f = some (items.map g) := by
  induction items with
  | nil => rfl
  | cons item items ih =>
      obtain ⟨hitem, hitems⟩ := List.forall_mem_cons.1 h
      rw [List.mapM_cons, hitem, ih hitems]
      rfl

/-- A short message without tabs is printed as it is. -/
theorem printed_of_short {width : Nat} {message : List Char} (htab : '\t' ∉ message)
    (h : 2 * message.length ≤ width) : printed width message = some (message ++ ['\n']) := by
  have hlines : ∀ line ∈ Text.linesOf message, folded width (expandTabs line) = some [line] := by
    intro line hline
    have hpart : line <:+: message := by
      rw [linesOf_eq_cutAt] at hline
      obtain ⟨-, before, after, hmessage, -⟩ := Text.isPiece_of_mem_cutAt hline
      exact ⟨before, after, hmessage.symm⟩
    rw [expandTabs_of_not_mem fun hmem => htab (hpart.subset hmem)]
    have hlength := hpart.length_le
    exact folded_of_short (by omega)
  have hprinted : printed width message =
      some (((Text.linesOf message).map fun line => [line]).flatten.flatMap
        fun line => line ++ ['\n']) := by
    rw [printed, mapM_eq_some hlines]
    rfl
  rw [hprinted, ← List.flatMap_def, List.flatMap_singleton', flatMap_linesOf]

/-! ## What lines are made of -/

theorem exists_of_mem_mapM {α β : Type} {f : α → Option β} {items : List α} {results : List β}
    (h : items.mapM f = some results) {result : β} (hresult : result ∈ results) :
    ∃ item ∈ items, f item = some result := by
  induction items generalizing results with
  | nil =>
      obtain rfl := Option.some.inj h
      exact absurd hresult List.not_mem_nil
  | cons item items ih =>
      rw [List.mapM_cons] at h
      obtain ⟨first, hfirst, h⟩ := Option.bind_eq_some_iff.1 h
      obtain ⟨others, hothers, h⟩ := Option.bind_eq_some_iff.1 h
      obtain rfl := Option.some.inj h
      rcases List.mem_cons.1 hresult with rfl | hmem
      · exact ⟨item, List.mem_cons_self, hfirst⟩
      · obtain ⟨origin, horigin, hf⟩ := ih hothers hmem
        exact ⟨origin, List.mem_cons_of_mem _ horigin, hf⟩

section Characters

variable {whole : List Char}

theorem subset_closed (whole : List Char) : ClosedUnderAppend (· ⊆ whole) :=
  ⟨List.nil_subset whole, fun h hrest => List.append_subset.2 ⟨h, hrest⟩⟩

theorem wordsAfter_subset {before text : List Char} {inside : Bool} (hbefore : before ⊆ whole)
    (h : text ⊆ whole) : ∀ word ∈ wordsAfter before inside text, word ⊆ whole := by
  have hword {reversed : List Char} (hreversed : reversed ⊆ whole) : reversed.reverse ⊆ whole :=
    fun c hc => hreversed (List.mem_reverse.1 hc)
  fun_induction wordsAfter before inside text with
  | case1 before => exact List.forall_mem_singleton.2 (hword hbefore)
  | case2 => exact List.forall_mem_nil _
  | case3 before inside c rest hblank ih =>
      obtain ⟨hc, hrest⟩ := List.cons_subset.1 h
      exact ih (List.cons_subset.2 ⟨hc, hbefore⟩) hrest
  | case4 inside c rest _ last before hbreak ih =>
      obtain ⟨hc, hrest⟩ := List.cons_subset.1 h
      exact List.forall_mem_cons.2
        ⟨hword hbefore, ih (List.cons_subset.2 ⟨hc, List.nil_subset _⟩) hrest⟩
  | case5 inside c rest _ last before _ ih =>
      obtain ⟨hc, hrest⟩ := List.cons_subset.1 h
      exact ih (List.cons_subset.2 ⟨hc, hbefore⟩) hrest
  | case6 inside c rest _ ih =>
      obtain ⟨hc, hrest⟩ := List.cons_subset.1 h
      exact ih (List.cons_subset.2 ⟨hc, List.nil_subset _⟩) hrest

/-- What joins a cluster comes from the text, and the rest follows it. -/
theorem append_splitJoining (base : Option Char) (text : List Char) :
    (splitJoining base text).1 ++ (splitJoining base text).2.2 = text := by
  fun_induction splitJoining base text <;> simp_all

theorem clusters_subset {text : List Char} (h : text ⊆ whole) :
    ∀ cluster ∈ clusters text, cluster.chars ⊆ whole := by
  fun_induction clusters text with
  | case1 => exact List.forall_mem_nil _
  | case2 c rest joined ih =>
      obtain ⟨hc, hrest⟩ := List.cons_subset.1 h
      have hparts : joined.1 ++ joined.2.2 ⊆ whole :=
        (append_splitJoining (baseAfter none c) rest).symm ▸ hrest
      obtain ⟨hjoining, hafter⟩ := List.append_subset.1 hparts
      exact List.forall_mem_cons.2 ⟨List.cons_subset.2 ⟨hc, hjoining⟩, ih hafter⟩

theorem takeClusters_subset {width : Nat} {parts : List Cluster} {taken : List Char}
    (hspace : ' ' ∈ whole) (h : ∀ part ∈ parts, part.chars ⊆ whole)
    (htaken : takeClusters width parts = some taken) : taken ⊆ whole := by
  induction parts generalizing width taken with
  | nil =>
      rw [takeClusters] at htaken
      split_ifs at htaken
      exact Option.some.inj htaken ▸ List.nil_subset _
  | cons part parts ih =>
      obtain ⟨hpart, hparts⟩ := List.forall_mem_cons.1 h
      rw [takeClusters] at htaken
      split_ifs at htaken
      · exact Option.some.inj htaken ▸ List.nil_subset _
      · obtain ⟨rest, hrest, rfl⟩ := Option.map_eq_some_iff.1 htaken
        exact List.append_subset.2 ⟨hpart, ih hparts hrest⟩
      · exact Option.some.inj htaken ▸ List.cons_subset.2 ⟨hspace, List.nil_subset _⟩

theorem fitted_subset {width : Nat} {text fit : List Char} (hspace : ' ' ∈ whole)
    (h : text ⊆ whole) (hfit : fitted width text = some fit) : fit ⊆ whole := by
  rw [fitted] at hfit
  split_ifs at hfit
  · obtain rfl := Option.some.inj hfit
    refine List.append_subset.2 ⟨h, fun c hc => ?_⟩
    rw [List.eq_of_mem_replicate hc]
    exact hspace
  · exact takeClusters_subset hspace (clusters_subset h) hfit

/-- Folding a line adds only spaces. -/
theorem folded_subset {width : Nat} {line : List Char} {lines : List (List Char)}
    (hspace : ' ' ∈ whole) (h : line ⊆ whole) (hlines : folded width line = some lines) :
    ∀ text ∈ lines, text ⊆ whole := by
  have hparts : ∀ text ∈ (if Text.allBlank line then [line]
      else fillAfter width 0 [] (wordsAfter [] false line)), text ⊆ whole := by
    split_ifs
    · exact List.forall_mem_singleton.2 h
    · exact (subset_closed whole).fillAfter (fun _ => clusters_subset) width 0
        (List.forall_mem_nil _) (wordsAfter_subset (List.nil_subset _) h)
  intro text htext
  obtain ⟨part, hpart, hfit⟩ := exists_of_mem_mapM hlines htext
  have hkept : dropExcess width part ⊆ whole :=
    List.Subset.trans (List.take_subset _ _) (hparts part hpart)
  simp only at hfit
  split_ifs at hfit
  · exact fitted_subset hspace hkept hfit
  · exact Option.some.inj hfit ▸ hkept

end Characters

theorem tab_not_mem_expandPieces {pieces : List (List Char)} (h : ∀ piece ∈ pieces, '\t' ∉ piece)
    (column : Nat) : '\t' ∉ expandPieces column pieces := by
  fun_induction expandPieces column pieces with
  | case1 => exact List.not_mem_nil
  | case2 column piece => exact h piece (List.mem_singleton_self _)
  | case3 column piece pieces hne filled stop missing ih =>
      obtain ⟨hpiece, hpieces⟩ := List.forall_mem_cons.1 h
      have hspaces : '\t' ∉ spaces missing := fun hmem =>
        absurd (List.eq_of_mem_replicate hmem) (by decide)
      simp [filled, hpiece, hspaces, ih hpieces]

theorem tab_not_mem_expandTabs (line : List Char) : '\t' ∉ expandTabs line :=
  tab_not_mem_expandPieces (fun _ hpiece => (Text.isPiece_of_mem_cutAt hpiece).1) 0

/-- No tab is ever printed. -/
theorem tab_not_mem_printed {width : Nat} {message text : List Char}
    (h : printed width message = some text) : '\t' ∉ text := by
  rw [printed] at h
  obtain ⟨lines, hlines, htext⟩ := Option.bind_eq_some_iff.1 h
  obtain rfl := Option.some.inj htext
  intro hmem
  obtain ⟨line, hline, hinside⟩ := List.mem_flatMap.1 hmem
  obtain ⟨group, hgroup, hingroup⟩ := List.mem_flatten.1 hline
  obtain ⟨origin, -, hfolded⟩ := exists_of_mem_mapM hlines hgroup
  have hsubset : line ⊆ ' ' :: expandTabs origin :=
    folded_subset List.mem_cons_self (List.subset_cons_self _ _) hfolded line hingroup
  rcases List.mem_append.1 hinside with hprinted | hend
  · rcases List.mem_cons.1 (hsubset hprinted) with hspace | htab
    · exact absurd hspace (by decide)
    · exact tab_not_mem_expandTabs origin htab
  · exact absurd (List.mem_singleton.1 hend) (by decide)

end TextureCatalog.Terminal
