import Mathlib.Data.List.Infix
import TextureCatalog.Proofs.Terminal.Labels
import TextureCatalog.Proofs.Terminal.Unfolded

/-!
# Texts that are not escaped

A text that is put into a message without being escaped shows as it is only if none of its
characters is taken for markup.  Otherwise some of its brackets, backslashes and control characters
vanish, and nothing else brings any of these characters back, so what shows has fewer of them.
-/

namespace TextureCatalog.Terminal.Markup

/-- A text that shows as it is without being escaped: no tag begins in it, no backslash stands
before an opening bracket, no character is dropped, and no tab is replaced. -/
structure ShowsAsItIs (text : List Char) : Prop where
  untagged : ∀ rest, rest <:+ text → tagAt rest = none
  unmarked : ¬ ['\\', '['] <:+: text
  kept : ∀ c ∈ text, isDropped c = false
  untabbed : '\t' ∉ text

/-! ## Runs of text -/

/-- The characters that can vanish from a text with markup, apart from what stands in tags. -/
def canVanish (c : Char) : Bool :=
  c == '\\' || c == '[' || isDropped c

/-- A test of all characters of a text, in a form that is evaluated along the text. -/
theorem forall_eq_false_of_any {test : Char → Bool} {text : List Char} (h : text.any test = false) :
    ∀ c ∈ text, test c = false :=
  fun c hc => Bool.eq_false_iff.2 (List.any_eq_false.1 h c hc)

/-- A text shows as it is, or some of its characters have vanished. -/
def Loses (shown text : List Char) : Prop :=
  shown = text ∨ shown.countP canVanish < text.countP canVanish

theorem Loses.countP_le {shown text : List Char} (h : Loses shown text) :
    shown.countP canVanish ≤ text.countP canVanish := by
  rcases h with rfl | hlt
  · exact Nat.le_refl _
  · exact Nat.le_of_lt hlt

theorem Loses.trans {shown between text : List Char} (h : Loses shown between)
    (hbetween : Loses between text) : Loses shown text := by
  rcases hbetween with rfl | hlt
  · exact h
  · exact .inr (Nat.lt_of_le_of_lt h.countP_le hlt)

theorem Loses.cons {shown text : List Char} (h : Loses shown text) (c : Char) :
    Loses (c :: shown) (c :: text) := by
  rcases h with rfl | hlt
  · exact .inl rfl
  · refine .inr ?_
    rw [List.countP_cons, List.countP_cons]
    omega

theorem loses_dropBackslashes (text : List Char) : Loses (dropBackslashes text) text := by
  fun_induction dropBackslashes text with
  | case1 => exact .inl rfl
  | case2 rest ih =>
      have hle := ih.countP_le
      refine .inr ?_
      have hbackslash : canVanish '\\' = true := rfl
      have hopening : canVanish '[' = true := rfl
      rw [List.countP_cons_of_pos hopening, List.countP_cons_of_pos hbackslash,
        List.countP_cons_of_pos hopening]
      omega
  | case3 c rest _ ih => exact ih.cons c

theorem loses_filter (text : List Char) : Loses (text.filter (!isDropped ·)) text := by
  induction text with
  | nil => exact .inl rfl
  | cons c text ih =>
      cases hdropped : isDropped c with
      | true =>
          have hvanishes : canVanish c = true := by simp [canVanish, hdropped]
          have hle := ih.countP_le
          refine .inr ?_
          rw [List.filter_cons_of_neg (by simp [hdropped]), List.countP_cons_of_pos hvanishes]
          omega
      | false =>
          rw [List.filter_cons_of_pos (by simp [hdropped])]
          exact ih.cons c

theorem loses_shownRun (text : List Char) : Loses (shownRun text) text :=
  (loses_filter _).trans (loses_dropBackslashes text)

theorem dropBackslashes_sublist (text : List Char) : (dropBackslashes text).Sublist text := by
  fun_induction dropBackslashes text with
  | case1 => exact List.Sublist.refl _
  | case2 rest ih => exact (ih.cons_cons '[').cons '\\'
  | case3 c rest _ ih => exact ih.cons_cons c

theorem shownRun_sublist (text : List Char) : (shownRun text).Sublist text :=
  List.filter_sublist.trans (dropBackslashes_sublist text)

theorem dropBackslashes_eq_self_iff {text : List Char} :
    dropBackslashes text = text ↔ ¬ ['\\', '['] <:+: text := by
  fun_induction dropBackslashes text with
  | case1 => simp
  | case2 rest ih =>
      refine iff_of_false (fun h => ?_) (fun h => h ⟨[], rest, rfl⟩)
      exact absurd (List.cons.inj h).1 (by decide)
  | case3 c rest hother ih =>
      have hstart : ¬ ['\\', '['] <+: c :: rest := by
        rintro ⟨tail, htail⟩
        obtain ⟨rfl, rfl⟩ := List.cons.inj htail
        exact hother _ rfl rfl
      rw [List.infix_cons_iff, not_or, and_iff_right hstart, ← ih]
      exact ⟨fun h => (List.cons.inj h).2, congrArg (c :: ·)⟩

theorem shownRun_eq_self_iff {text : List Char} :
    shownRun text = text ↔ ¬ ['\\', '['] <:+: text ∧ ∀ c ∈ text, isDropped c = false := by
  have hkept : text.filter (!isDropped ·) = text ↔ ∀ c ∈ text, isDropped c = false := by
    simp [List.filter_eq_self]
  rw [← dropBackslashes_eq_self_iff, ← hkept]
  constructor
  · intro h
    rcases loses_dropBackslashes text with hsame | hlt
    · exact ⟨hsame, by rwa [shownRun, hsame] at h⟩
    · have hle := (loses_filter (dropBackslashes text)).countP_le
      rw [show (dropBackslashes text).filter (!isDropped ·) = text from h] at hle
      omega
  · rintro ⟨hsame, hall⟩
    rw [shownRun, hsame, hall]

/-- What shows of a run behind a text without backslashes and dropped characters. -/
theorem shownRun_append {before text : List Char}
    (h : ∀ c ∈ before, c ≠ '\\' ∧ isDropped c = false) :
    shownRun (before ++ text) = before ++ shownRun text := by
  induction before with
  | nil => rfl
  | cons c before ih =>
      obtain ⟨⟨hbackslash, hkept⟩, hbefore⟩ := List.forall_mem_cons.1 h
      have hdrop : dropBackslashes (c :: (before ++ text)) =
          c :: dropBackslashes (before ++ text) := by
        rw [dropBackslashes]
        exact fun _ heq => absurd heq hbackslash
      have hfilter := List.filter_cons_of_pos (p := (!isDropped ·)) (a := c)
        (l := dropBackslashes (before ++ text)) (by simp [hkept])
      rw [List.cons_append, shownRun, hdrop, hfilter]
      exact congrArg (c :: ·) (ih hbefore)

/-! ## Pieces -/

/-- What shows of a piece. -/
def Piece.visible : Piece → List Char
  | .text content => shownRun content
  | .tag _ => []

theorem flatMap_visible_textPiece (content : List Char) :
    (textPiece content).flatMap Piece.visible = shownRun content :=
  flatMap_textPiece rfl content

theorem exists_of_bind_eq_ok {α β : Type} {first : Except Fault α} {next : α → Except Fault β}
    {result : β} (h : first >>= next = .ok result) :
    ∃ value, first = .ok value ∧ next value = .ok result := by
  cases first with
  | error fault => exact absurd h (by simp [bind, Except.bind])
  | ok value => exact ⟨value, rfl, h⟩

/-- If a text is shown, it is made of what shows of its pieces. -/
theorem visible_of_readAfter {position : Nat} {opened : List OpenTag} {pieces : List Piece}
    {run : List Char} {spans : List Span} (h : readAfter position opened pieces = .ok (run, spans)) :
    run = pieces.flatMap Piece.visible := by
  induction pieces generalizing position opened run spans with
  | nil => exact (Prod.mk.inj (Except.ok.inj h)).1.symm
  | cons piece pieces ih =>
      cases piece with
      | text content =>
          rw [readAfter] at h
          obtain ⟨⟨rest, others⟩, hrest, h⟩ := exists_of_bind_eq_ok h
          obtain ⟨rfl, -⟩ := Prod.mk.inj (Except.ok.inj h)
          rw [ih hrest]
          rfl
      | tag content =>
          rw [readAfter] at h
          split at h
          · obtain ⟨closing, -, h⟩ := exists_of_bind_eq_ok h
            cases closing with
            | none => exact absurd h (by simp [throw, throwThe, MonadExceptOf.throw])
            | some closing =>
                obtain ⟨closed, -, h⟩ := exists_of_bind_eq_ok h
                obtain ⟨⟨rest, others⟩, hrest, h⟩ := exists_of_bind_eq_ok h
                obtain ⟨rfl, -⟩ := Prod.mk.inj (Except.ok.inj h)
                exact ih hrest
          · obtain ⟨name, -, h⟩ := exists_of_bind_eq_ok h
            exact ih h

theorem visible_of_shown {text run : List Char} (h : shown text = .ok run) :
    run = (pieces text).flatMap Piece.visible := by
  rw [shown] at h
  obtain ⟨⟨visible, spans⟩, hread, h⟩ := exists_of_bind_eq_ok h
  obtain ⟨-, -, h⟩ := exists_of_bind_eq_ok h
  rw [← Except.ok.inj h]
  exact visible_of_readAfter hread

theorem taggedAt_of_untagged {text : List Char} (h : ∀ rest, rest <:+ text → tagAt rest = none) :
    ∀ rest, rest <:+ text → taggedAt rest = none := by
  intro rest hrest
  rw [taggedAt, h _ ((List.dropWhile_suffix _).trans hrest)]
  rfl

theorem tagAt_of_taggedAt {text : List Char} (h : taggedAt text = none) : tagAt text = none := by
  cases htag : tagAt text with
  | none => rfl
  | some tag =>
      obtain ⟨rfl, -⟩ := isTag_of_tagAt htag
      rw [taggedAt, List.dropWhile_cons_of_neg (by decide), htag] at h
      exact absurd h (by simp)

/-- A text in which no tag begins is a single run. -/
theorem piecesAfter_of_untagged {text : List Char}
    (h : ∀ rest, rest <:+ text → taggedAt rest = none) (before : List Char) :
    piecesAfter before text = textPiece (before.reverse ++ text) := by
  induction text generalizing before with
  | nil => rw [piecesAfter_nil, List.append_nil]
  | cons c text ih =>
      rw [piecesAfter_cons (h _ (List.suffix_refl _)),
        ih fun rest hrest => h rest (hrest.trans (List.suffix_cons c text))]
      simp

/-- Nothing shows that is not there, and nothing changes its place. -/
theorem visible_sublist (before text : List Char) :
    ((piecesAfter before text).flatMap Piece.visible).Sublist (before.reverse ++ text) := by
  fun_induction piecesAfter before text with
  | case1 before =>
      rw [flatMap_visible_textPiece, List.append_nil]
      exact shownRun_sublist _
  | case2 before c rest hnone ih =>
      rw [List.reverse_cons, List.append_assoc] at ih
      exact ih
  | case3 before c rest count tag after hsome hlength ih =>
      obtain ⟨heq, -⟩ := isTag_of_taggedAt hsome
      have hbackslashes : (shownRun (List.replicate (count / 2) '\\')).Sublist
          (List.replicate count '\\') :=
        (shownRun_sublist _).trans ((List.replicate_sublist_replicate _).2 (by omega))
      have hmarked : (Piece.visible
          (if count % 2 = 1 then .text ('[' :: (tag ++ [']'])) else .tag tag)).Sublist
            ('[' :: (tag ++ [']'])) := by
        split_ifs
        · exact shownRun_sublist _
        · exact List.nil_sublist _
      have hwhole : before.reverse ++ c :: rest =
          before.reverse ++ List.replicate count '\\' ++ ('[' :: (tag ++ [']']) ++ after) := by
        rw [heq]
        simp
      rw [hwhole, List.flatMap_append, List.flatMap_append, List.flatMap_cons,
        flatMap_visible_textPiece, flatMap_visible_textPiece]
      exact ((shownRun_sublist _).append hbackslashes).append (hmarked.append ih)

/-- No tag begins in a text, or some of its characters vanish. -/
theorem untagged_or_vanishes (before text : List Char) :
    (∀ rest, rest <:+ text → taggedAt rest = none) ∨
      ((piecesAfter before text).flatMap Piece.visible).countP canVanish <
        (before.reverse ++ text).countP canVanish := by
  fun_induction piecesAfter before text with
  | case1 before =>
      refine .inl fun rest hrest => ?_
      rw [List.suffix_nil.1 hrest]
      rfl
  | case2 before c rest hnone ih =>
      rcases ih with huntagged | hlt
      · refine .inl fun part hpart => ?_
        rcases List.suffix_cons_iff.1 hpart with rfl | hpart
        · exact hnone
        · exact huntagged part hpart
      · rw [List.reverse_cons, List.append_assoc] at hlt
        exact .inr hlt
  | case3 before c rest count tag after hsome hlength ih =>
      obtain ⟨heq, -⟩ := isTag_of_taggedAt hsome
      have hbackslash : canVanish '\\' = true := rfl
      have hopening : canVanish '[' = true := rfl
      have hclosing : canVanish ']' = false := rfl
      have hbefore := (shownRun_sublist before.reverse).countP_le (p := canVanish)
      have hbackslashes := (shownRun_sublist (List.replicate (count / 2) '\\')).countP_le (p := canVanish)
      have hmarked := (shownRun_sublist ('[' :: (tag ++ [']']))).countP_le (p := canVanish)
      have hpiece : (Piece.visible
          (if count % 2 = 1 then .text ('[' :: (tag ++ [']'])) else .tag tag)).countP canVanish +
            count / 2 < count + (tag.countP canVanish + 1) := by
        split_ifs with hodd
        · simp only [List.countP_append, List.countP_cons, hopening, hclosing, List.countP_nil,
            if_true, Bool.false_eq_true, if_false] at hmarked
          simp only [Piece.visible]
          omega
        · simp only [Piece.visible, List.countP_nil]
          omega
      have hafter : ((piecesAfter [] after).flatMap Piece.visible).countP canVanish ≤
          after.countP canVanish := (visible_sublist [] after).countP_le
      refine .inr ?_
      rw [heq]
      simp only [List.flatMap_append, List.flatMap_cons, flatMap_visible_textPiece,
        List.countP_append, List.countP_replicate, List.countP_cons, hbackslash, hopening,
        hclosing, if_true, Bool.false_eq_true, if_false] at hbackslashes ⊢
      omega

/-! ## Behind a label -/

theorem piecesAfter_append_of_plain {text : List Char} (h : ∀ c ∈ text, canVanish c = false)
    (before suffix : List Char) :
    piecesAfter before (text ++ suffix) = piecesAfter (text.reverse ++ before) suffix := by
  induction text generalizing before with
  | nil => rfl
  | cons c text ih =>
      obtain ⟨hc, htext⟩ := List.forall_mem_cons.1 h
      have hnone : taggedAt (c :: (text ++ suffix)) = none :=
        taggedAt_eq_none_of_ne (by rintro rfl; exact absurd hc (by decide))
          (by rintro rfl; exact absurd hc (by decide)) _
      rw [List.cons_append, piecesAfter_cons hnone, ih htext]
      simp

theorem shownRun_append_of_plain {before text : List Char} (h : ∀ c ∈ before, canVanish c = false) :
    shownRun (before ++ text) = before ++ shownRun text := by
  refine shownRun_append fun c hc => ⟨?_, ?_⟩
  · rintro rfl
    exact absurd (h _ hc) (by decide)
  · simpa [canVanish] using (Bool.or_eq_false_iff.1 (h c hc)).2

theorem shownRun_of_plain {text : List Char} (h : ∀ c ∈ text, canVanish c = false) :
    shownRun text = text := by
  have happend : shownRun (text ++ []) = text ++ [] := shownRun_append_of_plain h
  rwa [List.append_nil] at happend

variable {name word lead text : List Char}

theorem pieces_labelled (h : IsLabel name) (hword : ∀ c ∈ word, canVanish c = false)
    (message : List Char) :
    pieces (labelled 0 name word message) =
      .tag name :: (textPiece word ++ .tag ('/' :: name) :: piecesAfter [] message) := by
  rw [pieces, labelled, show spaces 0 = [] from rfl, List.nil_append,
    piecesAfter_tag (h.taggedAt_opening _), piecesAfter_append_of_plain hword,
    piecesAfter_tag (h.taggedAt_closing _)]
  simp [textPiece]

/-- A text that shows as it is does so behind a label. -/
theorem ShowsAsItIs.shown_labelled (htext : ShowsAsItIs text) (h : IsLabel name)
    (hword : ∀ c ∈ word, canVanish c = false) (hlead : ∀ c ∈ lead, canVanish c = false) :
    shown (labelled 0 name word (lead ++ text)) = .ok (word ++ (lead ++ text)) := by
  have hpieces : pieces (labelled 0 name word (lead ++ text)) =
      [] ++ .tag name :: (textPiece word ++ .tag ('/' :: name) :: textPiece (lead ++ text)) := by
    rw [pieces_labelled h hword, piecesAfter_append_of_plain hlead,
      piecesAfter_of_untagged (taggedAt_of_untagged htext.untagged)]
    simp
  have hrun : shownRun text = text := shownRun_eq_self_iff.2 ⟨htext.unmarked, htext.kept⟩
  have hshown := shown_of_pieces h hpieces (List.forall_mem_nil _) (forall_mem_textPiece _)
    (forall_mem_textPiece _)
  rwa [shownPieces_textPiece, shownPieces_textPiece, shownRun_of_plain hword,
    shownRun_append_of_plain hlead, hrun] at hshown

/-- What shows behind a label is the text itself, or has fewer of the characters that can vanish. -/
theorem showsAsItIs_or_vanishes {run : List Char} (h : IsLabel name)
    (hword : ∀ c ∈ word, canVanish c = false) (hlead : ∀ c ∈ lead, canVanish c = false)
    (htab : '\t' ∉ text) (hrun : shown (labelled 0 name word (lead ++ text)) = .ok run) :
    run.Sublist (word ++ (lead ++ text)) ∧
      (ShowsAsItIs text ∨ run.countP canVanish < text.countP canVanish) := by
  have hnone {plain : List Char} (hplain : ∀ c ∈ plain, canVanish c = false) :
      plain.countP canVanish = 0 :=
    List.countP_eq_zero.2 fun c hc => by simp [hplain c hc]
  have hpieces : pieces (labelled 0 name word (lead ++ text)) = .tag name ::
      (textPiece word ++ .tag ('/' :: name) :: piecesAfter lead.reverse text) := by
    rw [pieces_labelled h hword, piecesAfter_append_of_plain hlead, List.append_nil]
  obtain rfl : run = word ++ (piecesAfter lead.reverse text).flatMap Piece.visible := by
    rw [visible_of_shown hrun, hpieces, List.flatMap_cons, List.flatMap_append, List.flatMap_cons,
      flatMap_visible_textPiece, shownRun_of_plain hword]
    rfl
  have hsublist := visible_sublist lead.reverse text
  rw [List.reverse_reverse] at hsublist
  refine ⟨(List.Sublist.refl word).append hsublist, ?_⟩
  rw [List.countP_append, hnone hword, Nat.zero_add]
  rcases untagged_or_vanishes lead.reverse text with huntagged | hlt
  · rw [piecesAfter_of_untagged huntagged, flatMap_visible_textPiece, List.reverse_reverse,
      shownRun_append_of_plain hlead, List.countP_append, hnone hlead, Nat.zero_add]
    rcases loses_shownRun text with hsame | hlt
    · obtain ⟨hunmarked, hkept⟩ := shownRun_eq_self_iff.1 hsame
      exact .inl ⟨fun rest hrest => tagAt_of_taggedAt (huntagged rest hrest), hunmarked, hkept, htab⟩
    · exact .inr hlt
  · rw [List.reverse_reverse, List.countP_append, hnone hlead, Nat.zero_add] at hlt
    exact .inr hlt

/-! ## On the screen -/

variable {width : Nat}

/-- A text that shows as it is gets so onto a screen that has room for the message. -/
theorem ShowsAsItIs.printed_labelled (htext : ShowsAsItIs text) (h : IsLabel name)
    (hword : ∀ c ∈ word, canVanish c = false) (hlead : ∀ c ∈ lead, canVanish c = false)
    (htabs : '\t' ∉ word ++ lead) (hwidth : 2 * (word ++ (lead ++ text)).length ≤ width) :
    shown (labelled 0 name word (lead ++ text)) = .ok (word ++ (lead ++ text)) ∧
      printed width (word ++ (lead ++ text)) = some (word ++ (lead ++ text) ++ ['\n']) := by
  refine ⟨htext.shown_labelled h hword hlead, printed_of_short ?_ hwidth⟩
  rw [← List.append_assoc]
  exact fun hmem => (List.mem_append.1 hmem).elim htabs htext.untabbed

/-- A text that is found on the screen, which has room for the message, shows as it is. -/
theorem showsAsItIs_of_printed {run shownText : List Char} (h : IsLabel name)
    (hword : ∀ c ∈ word, canVanish c = false) (hlead : ∀ c ∈ lead, canVanish c = false)
    (htabs : '\t' ∉ word ++ lead) (hwidth : 2 * (word ++ (lead ++ text)).length ≤ width)
    (hrun : shown (labelled 0 name word (lead ++ text)) = .ok run)
    (hprinted : printed width run = some shownText) (htext : text <:+: shownText) :
    ShowsAsItIs text := by
  have htab : '\t' ∉ text := fun hmem => tab_not_mem_printed hprinted (htext.subset hmem)
  obtain ⟨hsublist, hshows | hlt⟩ := showsAsItIs_or_vanishes h hword hlead htab hrun
  · exact hshows
  -- The message has room on its line, so nothing comes back that has vanished.
  have hnoTab : '\t' ∉ run := by
    intro hmem
    have hwhole := hsublist.subset hmem
    rw [← List.append_assoc] at hwhole
    exact (List.mem_append.1 hwhole).elim htabs htab
  have hlength := hsublist.length_le
  have hsame := printed_of_short hnoTab (by omega : 2 * run.length ≤ width)
  obtain rfl := Option.some.inj (hprinted.symm.trans hsame)
  have hcount : text.countP canVanish ≤ (run ++ ['\n']).countP canVanish :=
    htext.sublist.countP_le
  have hend : canVanish '\n' = false := rfl
  rw [List.countP_append, List.countP_singleton, hend] at hcount
  exact absurd hcount (by simpa using hlt)

theorem showsAsItIs_of_not_mem (hopening : '[' ∉ text) (hkept : ∀ c ∈ text, isDropped c = false)
    (htab : '\t' ∉ text) : ShowsAsItIs text where
  untagged rest hrest := by
    cases htag : tagAt rest with
    | none => rfl
    | some tag =>
        obtain ⟨rfl, -⟩ := isTag_of_tagAt htag
        exact absurd (hrest.subset List.mem_cons_self) hopening
  unmarked h := hopening (h.subset (by simp))
  kept := hkept
  untabbed := htab

end TextureCatalog.Terminal.Markup
