import TextureCatalog.Proofs.Terminal.Escaping

/-!
# Messages with a label

A label is a part of a message in a style of its own.  The tags around it do not show, and what they
are put around shows if no piece of it is a tag.
-/

namespace TextureCatalog.Terminal.Markup

/-- The normal name of a style, which can be put into a tag and into the one that closes it. -/
structure IsLabel (name : List Char) : Prop where
  isTag : IsTag name
  isClosingTag : IsTag ('/' :: name)
  isPlain : '=' ∉ name
  notAction : name.head? ≠ some '@'
  notClosing : name.head? ≠ some '/'
  trimmed : Text.trim name = name
  normal : normalName name = .ok name
  styled : (styleNamed? (name ++ [' '])).isOk = true

theorem isLabel_error : IsLabel "error".toList where
  isTag := ⟨⟨'e', "rror".toList, rfl, by decide⟩, by decide, by decide⟩
  isClosingTag := ⟨⟨'/', "error".toList, rfl, by decide⟩, by decide, by decide⟩
  isPlain := by decide
  notAction := by decide
  notClosing := by decide
  trimmed := by decide
  normal := by decide +kernel
  styled := by decide +kernel

theorem isLabel_info : IsLabel "info".toList where
  isTag := ⟨⟨'i', "nfo".toList, rfl, by decide⟩, by decide, by decide⟩
  isClosingTag := ⟨⟨'/', "info".toList, rfl, by decide⟩, by decide, by decide⟩
  isPlain := by decide
  notAction := by decide
  notClosing := by decide
  trimmed := by decide
  normal := by decide +kernel
  styled := by decide +kernel

/-- A text that begins with a label, after some blanks. -/
def labelled (indent : Nat) (name word message : List Char) : List Char :=
  spaces indent ++ '[' :: (name ++ ']' :: (word ++ '[' :: ('/' :: name ++ ']' :: message)))

/-! ## Reading -/

/-- Pieces without tags show, whatever comes after them. -/
theorem readAfter_append_of_isText {texts : List Piece} (h : ∀ piece ∈ texts, piece.isText = true)
    (position : Nat) (opened : List OpenTag) (pieces : List Piece) :
    readAfter position opened (texts ++ pieces) =
      (readAfter (position + (shownPieces texts).length) opened pieces).map fun result =>
        (shownPieces texts ++ result.1, result.2) := by
  induction texts generalizing position with
  | nil => cases hread : readAfter position opened pieces <;> simp [shownPieces, Except.map, hread]
  | cons piece texts ih =>
      obtain ⟨hpiece, htexts⟩ := List.forall_mem_cons.1 h
      cases piece with
      | tag content => simp [Piece.isText] at hpiece
      | text content =>
          rw [List.cons_append, readAfter]
          simp only [bind, Except.bind, ih htexts]
          have hlength : (shownPieces (.text content :: texts)).length =
              (shownRun content).length + (shownPieces texts).length := List.length_append
          rw [hlength, ← Nat.add_assoc]
          cases readAfter _ opened pieces with
          | error fault => rfl
          | ok result => simp [Except.map, shownPieces, Piece.content, pure, Except.pure]

theorem readAfter_opening {name : List Char} (h : IsLabel name) (position : Nat)
    (pieces : List Piece) :
    readAfter position [] (.tag name :: pieces) =
      readAfter position [⟨name, [], position⟩] pieces := by
  have hplain : ∀ c ∈ name, (c != '=') = true := fun c hc =>
    bne_iff_ne.2 fun heq => h.isPlain (heq ▸ hc)
  rw [readAfter, List.takeWhile_eq_self_iff.2 hplain, List.dropWhile_eq_nil_iff.2 hplain]
  split
  · exact absurd rfl h.notClosing
  · rw [h.normal]
    rfl

theorem readAfter_closing {name : List Char} (h : IsLabel name) (start position : Nat)
    (pieces : List Piece) :
    readAfter position [⟨name, [], start⟩] (.tag ('/' :: name) :: pieces) =
      (readAfter position [] pieces).map fun result =>
        (result.1, (⟨name, [], start⟩ : OpenTag).span position :: result.2) := by
  have hplain : ∀ c ∈ '/' :: name, (c != '=') = true := fun c hc =>
    bne_iff_ne.2 fun heq => by
      subst heq
      rcases List.mem_cons.1 hc with hslash | hname
      · exact absurd hslash (by decide)
      · exact h.isPlain hname
  obtain ⟨⟨first, others, rfl, -⟩, -, -⟩ := h.isTag
  have hclosing : closing? [⟨first :: others, [], start⟩] (first :: others) =
      .ok (some (⟨first :: others, [], start⟩, [])) := by
    rw [closing?, h.normal]
    simp
  have hclosed : (⟨first :: others, [], start⟩ : OpenTag).closedSpans position =
      .ok [(⟨first :: others, [], start⟩ : OpenTag).span position] := if_pos h.notAction
  rw [readAfter, List.takeWhile_eq_self_iff.2 hplain]
  simp only [h.trimmed, hclosing, hclosed, bind, Except.bind]
  cases readAfter position [] pieces <;> rfl

/-- A text with a single label shows. -/
theorem shown_of_pieces {name text : List Char} {before inside after : List Piece}
    (h : IsLabel name)
    (hpieces : pieces text = before ++ .tag name :: (inside ++ .tag ('/' :: name) :: after))
    (hbefore : ∀ piece ∈ before, piece.isText = true)
    (hinside : ∀ piece ∈ inside, piece.isText = true)
    (hafter : ∀ piece ∈ after, piece.isText = true) :
    shown text = .ok (shownPieces before ++ (shownPieces inside ++ shownPieces after)) := by
  obtain ⟨style, hstyle⟩ : ∃ style, styleNamed? (name ++ [' ']) = .ok style := by
    have hok := h.styled
    cases hstyle : styleNamed? (name ++ [' ']) with
    | ok style => exact ⟨style, rfl⟩
    | error color => simp [hstyle, Except.isOk, Except.toBool] at hok
  rw [shown, hpieces, readAfter_append_of_isText hbefore, readAfter_opening h,
    readAfter_append_of_isText hinside, readAfter_closing h, readAfter_of_isText hafter]
  simp only [Except.map, bind, Except.bind, List.filter_cons, List.filter_nil]
  split_ifs
  · simp only [OpenTag.span, List.forM_eq_forM, List.forM_cons, List.forM_nil, hstyle]
    rfl
  · rfl

theorem IsLabel.taggedAt_opening {name : List Char} (h : IsLabel name) (rest : List Char) :
    taggedAt ('[' :: (name ++ ']' :: rest)) = some (0, name, rest) :=
  h.isTag.taggedAt_append 0 rest

theorem IsLabel.taggedAt_closing {name : List Char} (h : IsLabel name) (rest : List Char) :
    taggedAt ('[' :: ('/' :: name ++ ']' :: rest)) = some (0, '/' :: name, rest) :=
  h.isClosingTag.taggedAt_append 0 rest

/-- A label shows, and so does a bland message behind it. -/
theorem exists_shown_labelled {name word content message : List Char} (h : IsLabel name)
    (hword : Passes word ('[' :: ('/' :: name ++ ']' :: message)) content)
    (hmessage : Bland message) (indent : Nat) :
    ∃ run, shown (labelled indent name word message) = .ok run ∧
      (Joins content → Joins message → Joins run) := by
  have hspaces {mark : Char} (hmark : mark ≠ ' ') : mark ∉ spaces indent := fun hmem =>
    hmark (List.eq_of_mem_replicate hmem)
  obtain ⟨blanks, blank, hblanks, hlead⟩ := passes_of_plain (hspaces (by decide))
    (hspaces (by decide))
    ('[' :: (name ++ ']' :: (word ++ '[' :: ('/' :: name ++ ']' :: message)))) []
  obtain ⟨runs, rest, hruns, hinside⟩ := hword []
  have hpieces : pieces (labelled indent name word message) =
      (blanks ++ textPiece blank.reverse) ++ .tag name :: ((runs ++ textPiece rest.reverse) ++
        .tag ('/' :: name) :: textPiece message) := by
    rw [pieces, labelled, hblanks, piecesAfter_tag (h.taggedAt_opening _), hruns,
      piecesAfter_tag (h.taggedAt_closing _), hmessage.piecesAfter_eq]
    simp [textPiece]
  have htext {runs : List Piece} {rest content : List Char} (hholds : Holds runs rest content) :
      (∀ piece ∈ runs ++ textPiece rest.reverse, piece.isText = true) ∧
        (Joins content → Joins (shownPieces (runs ++ textPiece rest.reverse))) := by
    refine ⟨List.forall_mem_append.2 ⟨hholds.isText, forall_mem_textPiece _⟩, fun hjoins => ?_⟩
    apply joinsAfter_shownPieces
    rw [List.flatMap_append, flatMap_content_textPiece, hholds.content]
    exact hjoins
  obtain ⟨hleadText, hleadJoins⟩ := htext hlead
  obtain ⟨hinsideText, hinsideJoins⟩ := htext hinside
  refine ⟨_, shown_of_pieces h hpieces hleadText hinsideText (forall_mem_textPiece _),
    fun hjoins hjoinsMessage => ?_⟩
  refine (hleadJoins (joins_spaces indent)).append ((hinsideJoins hjoins).append ?_)
  exact joinsAfter_shownPieces ((flatMap_content_textPiece message).symm ▸ hjoinsMessage)

end TextureCatalog.Terminal.Markup
