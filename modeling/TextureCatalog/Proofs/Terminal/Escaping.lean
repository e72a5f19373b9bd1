import Mathlib.Data.List.TakeWhile
import TextureCatalog.Proofs.Terminal.Cutting

/-!
# Escaped texts show as they are

No tag of an escaped text takes effect, so an escaped text can always be shown, alone and before a
mark.
-/

namespace TextureCatalog.Terminal.Markup

/-! ## Tags -/

/-- What can stand between the brackets of a tag. -/
def IsTag (tag : List Char) : Prop :=
  (∃ first others, tag = first :: others ∧ startsTag first = true) ∧ '[' ∉ tag ∧ ']' ∉ tag

theorem eq_append_of_upToClosing {text content rest : List Char}
    (h : upToClosing text = some (content, rest)) :
    text = content ++ ']' :: rest ∧ '[' ∉ content ∧ ']' ∉ content := by
  induction text generalizing content with
  | nil => simp [upToClosing] at h
  | cons c text ih =>
      rw [upToClosing] at h
      split_ifs at h with hclosing hopening
      · obtain ⟨rfl, rfl⟩ := Prod.mk.inj (Option.some.inj h)
        exact ⟨by rw [hclosing]; rfl, List.not_mem_nil, List.not_mem_nil⟩
      · obtain ⟨⟨inner, after⟩, hinner, heq⟩ := Option.map_eq_some_iff.1 h
        obtain ⟨rfl, rfl⟩ := Prod.mk.inj heq
        obtain ⟨rfl, hnoOpening, hnoClosing⟩ := ih hinner
        exact ⟨rfl, List.not_mem_cons_of_ne_of_not_mem (Ne.symm hopening) hnoOpening,
          List.not_mem_cons_of_ne_of_not_mem (Ne.symm hclosing) hnoClosing⟩

theorem upToClosing_append {content : List Char} (hopening : '[' ∉ content)
    (hclosing : ']' ∉ content) (rest : List Char) :
    upToClosing (content ++ ']' :: rest) = some (content, rest) := by
  induction content with
  | nil => rfl
  | cons c content ih =>
      rw [List.cons_append, upToClosing, if_neg (List.ne_of_not_mem_cons hclosing).symm,
        if_neg (List.ne_of_not_mem_cons hopening).symm,
        ih (List.not_mem_of_not_mem_cons hopening) (List.not_mem_of_not_mem_cons hclosing)]
      rfl

theorem isTag_of_tagAt {text tag rest : List Char} (h : tagAt text = some (tag, rest)) :
    text = '[' :: (tag ++ ']' :: rest) ∧ IsTag tag := by
  unfold tagAt at h
  split at h
  · next c tail =>
      split_ifs at h with hstarts
      obtain ⟨⟨content, after⟩, hcontent, heq⟩ := Option.map_eq_some_iff.1 h
      obtain ⟨rfl, rfl⟩ := Prod.mk.inj heq
      obtain ⟨rfl, hopening, hclosing⟩ := eq_append_of_upToClosing hcontent
      have hne {mark : Char} (hmark : startsTag mark = false) : mark ≠ c := by
        rintro rfl
        exact absurd (hmark.symm.trans hstarts) (by decide)
      exact ⟨rfl, ⟨c, content, rfl, hstarts⟩,
        List.not_mem_cons_of_ne_of_not_mem (hne (by decide)) hopening,
        List.not_mem_cons_of_ne_of_not_mem (hne (by decide)) hclosing⟩
  · simp at h

theorem isTag_of_taggedAt {text tag rest : List Char} {count : Nat}
    (h : taggedAt text = some (count, tag, rest)) :
    text = List.replicate count '\\' ++ '[' :: (tag ++ ']' :: rest) ∧ IsTag tag := by
  obtain ⟨⟨inner, after⟩, hinner, heq⟩ := Option.map_eq_some_iff.1 h
  obtain ⟨hcount, htag⟩ := Prod.mk.inj heq
  obtain ⟨rfl, rfl⟩ := Prod.mk.inj htag
  obtain ⟨hdrop, htag⟩ := isTag_of_tagAt hinner
  have htake : text.takeWhile (· == '\\') = List.replicate count '\\' :=
    List.eq_replicate_iff.2 ⟨hcount, fun c hc => by simpa using List.mem_takeWhile_imp hc⟩
  exact ⟨by rw [← htake, ← hdrop, List.takeWhile_append_dropWhile], htag⟩

theorem IsTag.tagAt_append {tag : List Char} (h : IsTag tag) (rest : List Char) :
    tagAt ('[' :: (tag ++ ']' :: rest)) = some (tag, rest) := by
  obtain ⟨⟨first, others, rfl, hstarts⟩, hopening, hclosing⟩ := h
  rw [List.cons_append, tagAt, if_pos hstarts, upToClosing_append
    (List.not_mem_of_not_mem_cons hopening) (List.not_mem_of_not_mem_cons hclosing)]
  rfl

theorem IsTag.taggedAt_append {tag : List Char} (h : IsTag tag) (count : Nat) (rest : List Char) :
    taggedAt (List.replicate count '\\' ++ '[' :: (tag ++ ']' :: rest)) =
      some (count, tag, rest) := by
  have hall : ∀ c ∈ List.replicate count '\\', (c == '\\') = true := fun c hc => by
    rw [List.eq_of_mem_replicate hc]
    rfl
  have hcount :
      leadingBackslashes (List.replicate count '\\' ++ '[' :: (tag ++ ']' :: rest)) = count := by
    rw [leadingBackslashes, List.takeWhile_append_of_pos hall]
    simp
  rw [taggedAt, hcount, List.dropWhile_append_of_pos hall, List.dropWhile_cons_of_neg (by decide),
    h.tagAt_append]
  rfl

/-- A backslash before a text is no part of a tag unless more of them are. -/
theorem taggedAt_backslash_eq_none_iff {text : List Char} :
    taggedAt ('\\' :: text) = none ↔ taggedAt text = none := by
  rw [taggedAt, taggedAt, List.dropWhile_cons_of_pos (by decide), Option.map_eq_none_iff,
    Option.map_eq_none_iff]

theorem taggedAt_eq_none_of_ne {c : Char} (hbackslash : c ≠ '\\') (hopening : c ≠ '[')
    (text : List Char) : taggedAt (c :: text) = none := by
  rw [taggedAt, List.dropWhile_cons_of_neg (by simpa using hbackslash), Option.map_eq_none_iff]
  unfold tagAt
  split
  · next heq => exact absurd (List.cons.inj heq).1 hopening
  · rfl

/-! ## Bland texts -/

/-- A text in which nothing looks like the beginning of a tag. -/
inductive Bland : List Char → Prop
  | nil : Bland []
  | plain {c : Char} {text : List Char} : c ≠ '[' → Bland text → Bland (c :: text)
  | bracket {c : Char} {text : List Char} :
      startsTag c = false → c ≠ '[' → Bland text → Bland ('[' :: c :: text)

theorem bland_of_not_mem {text : List Char} (h : '[' ∉ text) : Bland text := by
  induction text with
  | nil => exact .nil
  | cons c text ih =>
      exact .plain (List.ne_of_not_mem_cons h).symm (ih (List.not_mem_of_not_mem_cons h))

theorem Bland.append {text rest : List Char} (h : Bland text) (hrest : Bland rest) :
    Bland (text ++ rest) := by
  induction h with
  | nil => exact hrest
  | plain hc _ ih => exact .plain hc ih
  | bracket hc hopening _ ih => exact .bracket hc hopening ih

theorem Bland.taggedAt_eq_none {text : List Char} (h : Bland text) : taggedAt text = none := by
  induction h with
  | nil => rfl
  | @plain c text hc _ ih =>
      by_cases hbackslash : c = '\\'
      · rw [hbackslash, taggedAt_backslash_eq_none_iff]
        exact ih
      · exact taggedAt_eq_none_of_ne hbackslash hc text
  | bracket hc _ _ =>
      rw [taggedAt, List.dropWhile_cons_of_neg (by decide), tagAt, if_neg (by simp [hc])]
      rfl

/-! ## Pieces -/

theorem piecesAfter_nil (before : List Char) :
    piecesAfter before [] = textPiece before.reverse := by
  rw [piecesAfter]

theorem piecesAfter_cons {c : Char} {text : List Char} (h : taggedAt (c :: text) = none)
    (before : List Char) : piecesAfter before (c :: text) = piecesAfter (c :: before) text := by
  rw [piecesAfter]
  split
  · rfl
  · next heq => exact absurd (h.symm.trans heq) (by simp)

theorem piecesAfter_tag {text tag after : List Char} {count : Nat}
    (h : taggedAt text = some (count, tag, after)) (before : List Char) :
    piecesAfter before text =
      textPiece before.reverse ++ textPiece (List.replicate (count / 2) '\\') ++
        (if count % 2 = 1 then .text ('[' :: (tag ++ [']'])) else .tag tag) ::
          piecesAfter [] after := by
  cases text with
  | nil => simp [taggedAt, tagAt] at h
  | cons c text =>
      rw [piecesAfter]
      split
      · next heq => exact absurd (h.symm.trans heq) (by simp)
      · next heq =>
          obtain ⟨rfl, heq⟩ := Prod.mk.inj (Option.some.inj (heq.symm.trans h))
          obtain ⟨rfl, rfl⟩ := Prod.mk.inj heq
          rfl

/-- A bland text is a single run. -/
theorem Bland.piecesAfter_eq {text : List Char} (h : Bland text) (before : List Char) :
    piecesAfter before text = textPiece (before.reverse ++ text) := by
  induction h generalizing before with
  | nil => rw [piecesAfter_nil, List.append_nil]
  | @plain c text hc htext ih =>
      rw [piecesAfter_cons (Bland.plain hc htext).taggedAt_eq_none, ih]
      simp
  | @bracket c text hc hopening htext ih =>
      rw [piecesAfter_cons (Bland.bracket hc hopening htext).taggedAt_eq_none,
        piecesAfter_cons (Bland.plain hopening htext).taggedAt_eq_none, ih]
      simp

/-- The characters of a piece. -/
def Piece.content : Piece → List Char
  | .text content | .tag content => content

/-- Whether a piece is no tag. -/
def Piece.isText : Piece → Bool
  | .text _ => true
  | .tag _ => false

theorem forall_mem_textPiece (content : List Char) :
    ∀ piece ∈ textPiece content, piece.isText = true := by
  rw [textPiece]
  split
  · exact List.forall_mem_nil _
  · exact List.forall_mem_singleton.2 rfl

theorem flatMap_textPiece {read : Piece → List Char} (h : read (.text []) = [])
    (content : List Char) : (textPiece content).flatMap read = read (.text content) := by
  rw [textPiece]
  split
  · next hempty =>
      rw [List.isEmpty_iff.1 hempty, h]
      rfl
  · exact List.append_nil _

theorem flatMap_content_textPiece (content : List Char) :
    (textPiece content).flatMap Piece.content = content :=
  flatMap_textPiece rfl content

/-! ## Escaped texts -/

/-- What may follow an escaped text: it does not make a tag out of an opening bracket or of
backslashes before it. -/
structure Guarded (text : List Char) : Prop where
  untagged : taggedAt text = none
  open_ended : upToClosing text = none
  starts : ∀ c, text.head? = some c → startsTag c = false

theorem guarded_nil : Guarded [] := ⟨rfl, rfl, fun _ hc => absurd hc (by simp)⟩

theorem guarded_cons {c : Char} {text : List Char} (hbackslash : c ≠ '\\') (hopening : c ≠ '[')
    (hstarts : startsTag c = false) (h : upToClosing (c :: text) = none) : Guarded (c :: text) where
  untagged := taggedAt_eq_none_of_ne hbackslash hopening text
  open_ended := h
  starts := by
    intro d hd
    obtain rfl := Option.some.inj hd
    exact hstarts

theorem Guarded.backslash {text : List Char} (h : Guarded text) : Guarded ('\\' :: text) where
  untagged := taggedAt_backslash_eq_none_iff.2 h.untagged
  open_ended := by rw [upToClosing, if_neg (by decide), if_neg (by decide), h.open_ended]; rfl
  starts := by
    intro c hc
    obtain rfl := Option.some.inj hc
    decide

/-- A text that closes no bracket leaves one open, unless what comes after it closes it. -/
theorem upToClosing_append_of_not_mem {text rest : List Char} (h : ']' ∉ text)
    (hrest : upToClosing rest = none) : upToClosing (text ++ rest) = none := by
  induction text with
  | nil => exact hrest
  | cons c text ih =>
      rw [List.cons_append, upToClosing, if_neg (List.ne_of_not_mem_cons h).symm,
        ih (List.not_mem_of_not_mem_cons h)]
      split_ifs <;> rfl

theorem escapeTags_cons {c : Char} {text : List Char} (h : taggedAt (c :: text) = none) :
    escapeTags (c :: text) = c :: escapeTags text := by
  rw [escapeTags]
  split
  · rfl
  · next heq => exact absurd (h.symm.trans heq) (by simp)

theorem escapeTags_tag {text tag after : List Char} {count : Nat}
    (h : taggedAt text = some (count, tag, after)) :
    escapeTags text =
      List.replicate (2 * count + 1) '\\' ++ '[' :: (tag ++ ']' :: escapeTags after) := by
  cases text with
  | nil => simp [taggedAt, tagAt] at h
  | cons c text =>
      rw [escapeTags]
      split
      · next heq => exact absurd (h.symm.trans heq) (by simp)
      · next heq =>
          obtain ⟨rfl, heq⟩ := Prod.mk.inj (Option.some.inj (heq.symm.trans h))
          obtain ⟨rfl, rfl⟩ := Prod.mk.inj heq
          rfl

/-- Escaping does not close a bracket that was open. -/
theorem upToClosing_escapeTags {text suffix : List Char} (h : upToClosing text = none)
    (hsuffix : Guarded suffix) : upToClosing (escapeTags text ++ suffix) = none := by
  fun_induction escapeTags text with
  | case1 => exact hsuffix.open_ended
  | case2 c rest hnone ih =>
      rw [upToClosing] at h
      rw [List.cons_append, upToClosing]
      split_ifs at h ⊢
      · rfl
      · rw [ih (Option.map_eq_none_iff.1 h)]
        rfl
  | case3 c rest count tag after hsome hlength ih =>
      have hnone : ']' ∉ List.replicate (2 * count + 1) '\\' := fun hmem =>
        absurd (List.eq_of_mem_replicate hmem) (by decide)
      rw [List.append_assoc]
      exact upToClosing_append_of_not_mem hnone rfl

theorem taggedAt_bracket_eq_none_iff {text : List Char} :
    taggedAt ('[' :: text) = none ↔
      ∀ c rest, text = c :: rest → startsTag c = true → upToClosing rest = none := by
  rw [taggedAt, List.dropWhile_cons_of_neg (by decide), Option.map_eq_none_iff]
  cases text with
  | nil => simp [tagAt]
  | cons c text =>
      rw [tagAt]
      split_ifs with hstarts
      · rw [Option.map_eq_none_iff]
        constructor
        · rintro h _ _ heq -
          obtain ⟨rfl, rfl⟩ := List.cons.inj heq
          exact h
        · exact fun h => h c text rfl hstarts
      · refine iff_of_true rfl ?_
        rintro d rest heq hd
        obtain ⟨rfl, rfl⟩ := List.cons.inj heq
        exact absurd hd hstarts

/-- A character that begins an escaped text and can begin a tag began the text before. -/
theorem exists_escapeTags_eq_cons {text suffix tail : List Char} {first : Char}
    (hsuffix : Guarded suffix) (heq : escapeTags text ++ suffix = first :: tail)
    (hstarts : startsTag first = true) :
    ∃ others, text = first :: others ∧ tail = escapeTags others ++ suffix := by
  fun_cases escapeTags text with
  | case1 =>
      rw [escapeTags, List.nil_append] at heq
      have := hsuffix.starts first (by rw [heq]; rfl)
      exact absurd (this.symm.trans hstarts) (by decide)
  | case2 c rest hnone =>
      rw [escapeTags_cons hnone, List.cons_append] at heq
      obtain ⟨rfl, rfl⟩ := List.cons.inj heq
      exact ⟨rest, rfl, rfl⟩
  | case3 c rest count tag after hsome =>
      rw [escapeTags_tag hsome, List.replicate_succ] at heq
      obtain ⟨rfl, -⟩ := List.cons.inj heq
      exact absurd hstarts (by decide)

/-- Escaping does not make a tag where there was none. -/
theorem taggedAt_escapeTags {text suffix : List Char} (h : taggedAt text = none)
    (hsuffix : Guarded suffix) : taggedAt (escapeTags text ++ suffix) = none := by
  fun_induction escapeTags text with
  | case1 => exact hsuffix.untagged
  | case2 c rest hnone ih =>
      rw [List.cons_append]
      by_cases hbackslash : c = '\\'
      · rw [hbackslash, taggedAt_backslash_eq_none_iff] at h ⊢
        exact ih h
      · by_cases hopening : c = '['
        · rw [hopening, taggedAt_bracket_eq_none_iff] at h ⊢
          intro first tail heq hstarts
          obtain ⟨others, rfl, rfl⟩ := exists_escapeTags_eq_cons hsuffix heq hstarts
          exact upToClosing_escapeTags (h first others rfl hstarts) hsuffix
        · exact taggedAt_eq_none_of_ne hbackslash hopening _
  | case3 c rest count tag after hsome hlength ih => exact absurd (h.symm.trans hsome) (by simp)

/-- Pieces without tags that hold a text, together with what is no part of a piece yet. -/
structure Holds (pieces : List Piece) (before text : List Char) : Prop where
  isText : ∀ piece ∈ pieces, piece.isText = true
  content : pieces.flatMap Piece.content ++ before.reverse = text

theorem Holds.of_eq {pieces : List Piece} {before text other : List Char}
    (h : Holds pieces before text) (heq : text = other) : Holds pieces before other :=
  heq ▸ h

theorem holds_nil (before : List Char) : Holds [] before before.reverse :=
  ⟨List.forall_mem_nil _, rfl⟩

/-- Before a suffix, a text is cut into pieces without tags, which hold some content. -/
def Passes (text suffix content : List Char) : Prop :=
  ∀ before, ∃ runs rest, piecesAfter before (text ++ suffix) = runs ++ piecesAfter rest suffix ∧
    Holds runs rest (before.reverse ++ content)

theorem Passes.append {text other suffix content more : List Char}
    (h : Passes text (other ++ suffix) content) (hother : Passes other suffix more) :
    Passes (text ++ other) suffix (content ++ more) := by
  intro before
  obtain ⟨runs, rest, hpieces, hholds⟩ := h before
  obtain ⟨others, left, hothers, hleft⟩ := hother rest
  refine ⟨runs ++ others, left, ?_, ?_, ?_⟩
  · rw [List.append_assoc, hpieces, hothers, List.append_assoc]
  · exact List.forall_mem_append.2 ⟨hholds.isText, hleft.isText⟩
  · rw [List.flatMap_append, List.append_assoc, hleft.content, ← List.append_assoc, hholds.content,
      List.append_assoc]

/-- A text is passed if at none of its places a tag begins. -/
theorem passes_of_taggedAt {text suffix : List Char}
    (h : ∀ rest, rest <:+ text → rest ≠ [] → taggedAt (rest ++ suffix) = none) :
    Passes text suffix text := by
  intro before
  induction text generalizing before with
  | nil => exact ⟨[], before, rfl, (holds_nil before).of_eq (List.append_nil _).symm⟩
  | cons c text ih =>
      obtain ⟨runs, left, hpieces, hholds⟩ :=
        ih (fun rest hrest => h rest (hrest.trans (List.suffix_cons c text))) (c :: before)
      have hnone := h (c :: text) (List.suffix_refl _) (List.cons_ne_nil _ _)
      rw [List.cons_append] at hnone
      refine ⟨runs, left, ?_, hholds.of_eq (by simp)⟩
      rw [List.cons_append, piecesAfter_cons hnone, hpieces]

/-- Characters that can be no part of a tag or of the backslashes before one are passed. -/
theorem passes_of_plain {text : List Char} (hbackslash : '\\' ∉ text) (hopening : '[' ∉ text)
    (suffix : List Char) : Passes text suffix text := by
  refine passes_of_taggedAt fun rest hrest hne => ?_
  obtain ⟨c, others, rfl⟩ := List.exists_cons_of_ne_nil hne
  have hmem : c ∈ text := hrest.subset List.mem_cons_self
  exact taggedAt_eq_none_of_ne (ne_of_mem_of_not_mem hmem hbackslash)
    (ne_of_mem_of_not_mem hmem hopening) _

theorem taggedAt_append_of_not_mem {text suffix : List Char} (h : '[' ∉ text)
    (hsuffix : taggedAt suffix = none) : taggedAt (text ++ suffix) = none := by
  induction text with
  | nil => exact hsuffix
  | cons c text ih =>
      by_cases hbackslash : c = '\\'
      · rw [hbackslash, List.cons_append, taggedAt_backslash_eq_none_iff]
        exact ih (List.not_mem_of_not_mem_cons h)
      · exact taggedAt_eq_none_of_ne hbackslash (List.ne_of_not_mem_cons h).symm _

/-- A text without opening brackets is passed, if no tag follows. -/
theorem passes_of_not_mem {text suffix : List Char} (h : '[' ∉ text)
    (hsuffix : taggedAt suffix = none) : Passes text suffix text :=
  passes_of_taggedAt fun _ hrest _ =>
    taggedAt_append_of_not_mem (fun hmem => h (hrest.subset hmem)) hsuffix

/-- An escaped text is passed before something that makes no tag of it. -/
theorem passes_escapeTags (text : List Char) {suffix : List Char} (hsuffix : Guarded suffix) :
    Passes (escapeTags text) suffix text := by
  intro before
  fun_induction escapeTags text generalizing before with
  | case1 => exact ⟨[], before, rfl, (holds_nil before).of_eq (List.append_nil _).symm⟩
  | case2 c rest hnone ih =>
      have hescaped := taggedAt_escapeTags hnone hsuffix
      rw [escapeTags_cons hnone, List.cons_append] at hescaped
      obtain ⟨runs, left, hpieces, hholds⟩ := ih (c :: before)
      refine ⟨runs, left, ?_, hholds.of_eq (by simp)⟩
      rw [List.cons_append, piecesAfter_cons hescaped, hpieces]
  | case3 c rest count tag after hsome hlength ih =>
      obtain ⟨heq, htag⟩ := isTag_of_taggedAt hsome
      obtain ⟨runs, left, hpieces, hholds⟩ := ih []
      have hhalf : (2 * count + 1) / 2 = count := by omega
      have hodd : (2 * count + 1) % 2 = 1 := by omega
      rw [List.append_assoc, List.cons_append, List.append_assoc, List.cons_append,
        piecesAfter_tag (htag.taggedAt_append _ _), hhalf, if_pos hodd, hpieces]
      refine ⟨textPiece before.reverse ++ textPiece (List.replicate count '\\') ++
        .text ('[' :: (tag ++ [']'])) :: runs, left, by simp, ?_, ?_⟩
      · exact List.forall_mem_append.2 ⟨List.forall_mem_append.2 ⟨forall_mem_textPiece _,
          forall_mem_textPiece _⟩, List.forall_mem_cons.2 ⟨rfl, hholds.isText⟩⟩
      · rw [List.flatMap_append, List.flatMap_append, List.flatMap_cons, flatMap_content_textPiece,
          flatMap_content_textPiece]
        simp only [List.append_assoc, hholds.content, heq, Piece.content]
        simp

theorem escapeTags_of_not_mem {text : List Char} (h : '[' ∉ text) : escapeTags text = text := by
  induction text with
  | nil => rw [escapeTags]
  | cons c text ih =>
      rw [escapeTags_cons (bland_of_not_mem h).taggedAt_eq_none,
        ih (List.not_mem_of_not_mem_cons h)]

/-- A backslash may be added to a text that is escaped. -/
theorem exists_escape_eq (text : List Char) :
    ∃ marks, (marks = [] ∨ marks = ['\\']) ∧ escape text = escapeTags text ++ marks := by
  rw [escape]
  split_ifs
  · exact ⟨['\\'], .inr rfl, rfl⟩
  · exact ⟨[], .inl rfl, (List.append_nil _).symm⟩

theorem Guarded.marks {marks suffix : List Char} (h : Guarded suffix)
    (hmarks : marks = [] ∨ marks = ['\\']) : Guarded (marks ++ suffix) := by
  rcases hmarks with rfl | rfl
  · exact h
  · exact h.backslash

/-- An escaped text closes no bracket if the text does not. -/
theorem upToClosing_escape {text suffix : List Char} (h : ']' ∉ text) (hsuffix : Guarded suffix) :
    upToClosing (escape text ++ suffix) = none := by
  have hnone : upToClosing text = none := List.append_nil text ▸ upToClosing_append_of_not_mem h rfl
  obtain ⟨marks, hmarks, hescape⟩ := exists_escape_eq text
  rw [hescape, List.append_assoc]
  exact upToClosing_escapeTags hnone (hsuffix.marks hmarks)

/-- An escaped text is passed, if what follows is guarded, or if there is no bracket that it could
close. -/
theorem exists_passes_escape {text suffix : List Char}
    (h : Guarded suffix ∨ ('[' ∉ text ∧ taggedAt suffix = none)) :
    ∃ marks, joiner ∉ marks ∧ Passes (escape text) suffix (text ++ marks) := by
  obtain ⟨marks, hmarks, hescape⟩ := exists_escape_eq text
  have hopening : '[' ∉ marks := by rcases hmarks with rfl | rfl <;> decide
  refine ⟨marks, by rcases hmarks with rfl | rfl <;> decide, ?_⟩
  rw [hescape]
  obtain hsuffix | ⟨hnot, hsuffix⟩ := h
  · exact (passes_escapeTags text (hsuffix.marks hmarks)).append
      (passes_of_not_mem hopening hsuffix.untagged)
  · rw [escapeTags_of_not_mem hnot]
    exact passes_of_not_mem (by simp [hnot, hopening]) hsuffix

/-! ## Showing -/

/-- What shows of pieces without tags. -/
def shownPieces (pieces : List Piece) : List Char :=
  pieces.flatMap fun piece => shownRun piece.content

theorem shownPieces_textPiece (content : List Char) :
    shownPieces (textPiece content) = shownRun content :=
  flatMap_textPiece rfl content

theorem readAfter_of_isText {pieces : List Piece} (h : ∀ piece ∈ pieces, piece.isText = true)
    (position : Nat) : readAfter position [] pieces = .ok (shownPieces pieces, []) := by
  induction pieces generalizing position with
  | nil => rfl
  | cons piece pieces ih =>
      obtain ⟨hpiece, hpieces⟩ := List.forall_mem_cons.1 h
      cases piece with
      | tag content => simp [Piece.isText] at hpiece
      | text content =>
          rw [readAfter]
          simp only [bind, Except.bind, ih hpieces]
          rfl

theorem shown_of_isText {text : List Char} (h : ∀ piece ∈ pieces text, piece.isText = true) :
    shown text = .ok (shownPieces (pieces text)) := by
  rw [shown, readAfter_of_isText h]
  rfl

theorem joinsAfter_dropBackslashes_append {last : Char} {content rest : List Char}
    (h : JoinsAfter last (content ++ rest)) :
    JoinsAfter last (dropBackslashes content ++ rest) := by
  fun_induction dropBackslashes content generalizing last with
  | case1 => exact h
  | case2 content ih => exact ⟨fun heq => absurd heq (by decide), ih h.2.2⟩
  | case3 c content _ ih => exact ⟨h.1, ih h.2⟩

/-- What is dropped is no anchor, so what comes after it may come after what was before. -/
theorem joinsAfter_filter_append {last : Char} {content rest other : List Char}
    (h : JoinsAfter last (content ++ rest))
    (hrest : ∀ last, JoinsAfter last rest → JoinsAfter last other) :
    JoinsAfter last (content.filter (!isDropped ·) ++ other) := by
  induction content generalizing last with
  | nil => exact hrest last h
  | cons c content ih =>
      cases hdropped : isDropped c with
      | true =>
          rw [List.filter_cons_of_neg (by simp [hdropped])]
          exact ih (h.2.of_not_anchor (by simp [isAnchor, hdropped]) last)
      | false =>
          rw [List.filter_cons_of_pos (by simp [hdropped])]
          exact ⟨h.1, ih h.2⟩

theorem joinsAfter_shownPieces {last : Char} {pieces : List Piece}
    (h : JoinsAfter last (pieces.flatMap Piece.content)) :
    JoinsAfter last (shownPieces pieces) := by
  induction pieces generalizing last with
  | nil => trivial
  | cons piece pieces ih =>
      exact joinsAfter_filter_append (joinsAfter_dropBackslashes_append h) fun _ => ih

/-- An escaped text shows as it is before something that makes no tag of it. -/
theorem exists_shown_escape (text : List Char) {suffix : List Char} (hbland : Bland suffix)
    (hsuffix : Guarded suffix) :
    ∃ run, shown (escape text ++ suffix) = .ok run ∧ (Joins text → Joins suffix → Joins run) := by
  obtain ⟨marks, hmarks, hpasses⟩ : ∃ marks, joiner ∉ marks ∧
      Passes (escape text) suffix (text ++ marks) := exists_passes_escape (.inl hsuffix)
  obtain ⟨runs, rest, hpieces, hholds⟩ := hpasses []
  rw [hbland.piecesAfter_eq] at hpieces
  have htext : ∀ piece ∈ pieces (escape text ++ suffix), piece.isText = true := by
    rw [pieces, hpieces]
    exact List.forall_mem_append.2 ⟨hholds.isText, forall_mem_textPiece _⟩
  refine ⟨_, shown_of_isText htext, fun hjoins hjoinsSuffix => ?_⟩
  apply joinsAfter_shownPieces
  rw [pieces, hpieces, List.flatMap_append, flatMap_content_textPiece, ← List.append_assoc,
    hholds.content, List.reverse_nil, List.nil_append, List.append_assoc]
  exact hjoins.append ((joins_of_not_mem hmarks).append hjoinsSuffix)

end TextureCatalog.Terminal.Markup
