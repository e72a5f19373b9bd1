import TextureCatalog.Proofs.Json.Writing
import TextureCatalog.Proofs.Text.Newline

/-!
# Line ends in JSON texts

No token of a JSON text holds a line end: a string has its line ends escaped.  So they only stand
between tokens, and a text in which they are unified still means the same document.
-/

namespace TextureCatalog.Json

open Text (Unifies unifyNewlines)

theorem IsSpaces.unifyNewlines {space : List Char} (h : IsSpaces space) :
    IsSpaces (unifyNewlines space) := by
  fun_induction Text.unifyNewlines space with
  | case1 => exact h
  | case2 rest ih =>
      have hrest : IsSpaces rest := fun c hc => h c (by simp [hc])
      exact List.forall_mem_cons.2 ⟨rfl, ih hrest⟩
  | case3 rest _ ih =>
      have hrest : IsSpaces rest := fun c hc => h c (by simp [hc])
      exact List.forall_mem_cons.2 ⟨rfl, ih hrest⟩
  | case4 c rest _ _ ih =>
      obtain ⟨hc, hrest⟩ := List.forall_mem_cons.1 h
      exact List.forall_mem_cons.2 ⟨hc, ih hrest⟩

theorem NoControls.unifies {text : List Char} (h : NoControls text) : Unifies text text :=
  Text.unifies_of_not_mem (h.not_mem (by decide))

/-- The white space before a part of a document is changed by itself. -/
theorem Spells.unifies_append {text unified : List Char} {part : Part} (hspells : Spells text part)
    (h : Unifies text unified) (space : List Char) :
    Unifies (space ++ text) (unifyNewlines space ++ unified) := by
  obtain ⟨first, others, rfl, hfirst, -⟩ := hspells.exists_eq_cons
  refine h.append_left ?_ space
  rintro rfl
  exact absurd hfirst (by decide)

/-- The white space before a mark is changed by itself. -/
theorem unifies_mark {text unified : List Char} (h : Unifies text unified) (space : List Char)
    (c : Char) (hc : c ≠ '\r' ∧ c ≠ '\n') :
    Unifies (space ++ c :: text) (unifyNewlines space ++ c :: unified) :=
  (h.cons c hc.1).append_left hc.2 space

/-- A string is not changed. -/
theorem Quotes.unifies {content : List Char} {value : String} (hcontent : Quotes content value)
    {text unified : List Char} (h : Unifies text unified) :
    Unifies ('"' :: (content ++ '"' :: text)) ('"' :: (content ++ '"' :: unified)) :=
  (hcontent.noControls.unifies.append (h.cons '"' (by decide))).cons '"' (by decide)

/-- A text with unified line ends spells what it spelled before. -/
theorem Spells.exists_unifies {text : List Char} {part : Part} (h : Spells text part) :
    ∃ unified, Unifies text unified ∧ Spells unified part := by
  have hnil := Text.unifies_nil
  induction h with
  | word hword => exact ⟨_, (noControls_word hword).unifies, .word hword⟩
  | @integer negative digits hdigits hlimit =>
      have htext := noControls_append_iff.2
        ⟨noControls_signText negative, noControls_of_isDigit hdigits.isDigit⟩
      exact ⟨_, htext.unifies, .integer hdigits hlimit⟩
  | @decimal negative digits fraction exponent hdigits hfraction hexponent hne =>
      have hspells := @Spells.decimal negative _ _ _ hdigits hfraction hexponent hne
      exact ⟨_, (noControls_of_spells_decimal hspells).unifies, hspells⟩
  | string hcontent => exact ⟨_, hcontent.unifies hnil, .string hcontent⟩
  | @emptyList space hspace =>
      have htext := unifies_mark hnil space ']' (by decide)
      exact ⟨_, htext.cons '[' (by decide), .emptyList hspace.unifyNewlines⟩
  | @list space inner items hspace hinner ih =>
      obtain ⟨unified, hunifies, hspells⟩ := ih
      have htext := hinner.unifies_append hunifies space
      exact ⟨_, htext.cons '[' (by decide), .list hspace.unifyNewlines hspells⟩
  | @emptyTable space hspace =>
      have htext := unifies_mark hnil space '}' (by decide)
      exact ⟨_, htext.cons '{' (by decide), .emptyTable hspace.unifyNewlines⟩
  | @table space inner members hspace hinner ih =>
      obtain ⟨unified, hunifies, hspells⟩ := ih
      have htext := hinner.unifies_append hunifies space
      exact ⟨_, htext.cons '{' (by decide), .table hspace.unifyNewlines hspells⟩
  | @lastItem text space item _ hspace ih =>
      obtain ⟨unified, hunifies, hspells⟩ := ih
      have hclosing := unifies_mark hnil space ']' (by decide)
      exact ⟨_, hunifies.append hclosing, .lastItem hspells hspace.unifyNewlines⟩
  | @item text before after inner item items _ hbefore hafter hinner ih ihitems =>
      obtain ⟨unified, hunifies, hspells⟩ := ih
      obtain ⟨others, hothers, hspellsOthers⟩ := ihitems
      have hcomma := unifies_mark (hinner.unifies_append hothers after) before ',' (by decide)
      exact ⟨_, hunifies.append hcomma,
        .item hspells hbefore.unifyNewlines hafter.unifyNewlines hspellsOthers⟩
  | @lastMember content before after text space key value hkey hbefore hafter hvalue hspace ih =>
      obtain ⟨unified, hunifies, hspells⟩ := ih
      have hclosing := unifies_mark hnil space '}' (by decide)
      have hcolon := unifies_mark (hvalue.unifies_append hunifies after |>.append hclosing) before
        ':' (by decide)
      simp only [List.append_assoc] at hcolon
      exact ⟨_, hkey.unifies hcolon, .lastMember hkey hbefore.unifyNewlines hafter.unifyNewlines
        hspells hspace.unifyNewlines⟩
  | @member content before after text space gap inner key value members hkey hbefore hafter hvalue
      hspace hgap hinner ih ihmembers =>
      obtain ⟨unified, hunifies, hspells⟩ := ih
      obtain ⟨others, hothers, hspellsOthers⟩ := ihmembers
      have hcomma := unifies_mark (hinner.unifies_append hothers gap) space ',' (by decide)
      have hcolon := unifies_mark (hvalue.unifies_append hunifies after |>.append hcomma) before
        ':' (by decide)
      simp only [List.append_assoc] at hcolon
      exact ⟨_, hkey.unifies hcolon, .member hkey hbefore.unifyNewlines hafter.unifyNewlines
        hspells hspace.unifyNewlines hgap.unifyNewlines hspellsOthers⟩

/-- A text with unified line ends means what it meant before. -/
theorem Means.unifyNewlines {text : List Char} {document : Document} (h : Means text document) :
    Means (unifyNewlines text) document := by
  obtain ⟨before, token, after, hbefore, hafter, htoken, rfl⟩ := h
  obtain ⟨unified, hunifies, hspells⟩ := htoken.exists_unifies
  refine ⟨_, unified, _, hbefore.unifyNewlines, hafter.unifyNewlines, hspells, ?_⟩
  have hwhole := htoken.unifies_append hunifies before after
  rwa [List.append_assoc, List.append_assoc] at hwhole

end TextureCatalog.Json
