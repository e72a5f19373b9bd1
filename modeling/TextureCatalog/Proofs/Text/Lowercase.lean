import TextureCatalog.Proofs.Text.Trimming
import TextureCatalog.Text.Lowercase

/-!
# The lower case of a part of a text

A capital sigma has two lower-case forms, and which one it takes depends on its neighbours; every
other character has one.  So the lower-case form of a part is what stands for it in the lower-case
form of the whole text exactly if every capital sigma of the part ends a word of the text just when
it ends a word of the part.  White space beside the part makes no difference to that.
-/

namespace TextureCatalog.Text

/-! ## Cutting before putting into lower case -/

/-- The lower-case form of a part of a text between the characters `before`, which are given nearest
first, and `after`. -/
def lowerAmong (before : List Char) : List Char → List Char → List Char
  | [], _ => []
  | c :: rest, after => lowerWithin before c (rest ++ after) ++ lowerAmong (c :: before) rest after

theorem lowerFrom_append (before text after : List Char) :
    lowerFrom before (text ++ after) =
      lowerAmong before text after ++ lowerFrom (text.reverse ++ before) after := by
  induction text generalizing before with
  | nil => rfl
  | cons c rest ih =>
      rw [List.cons_append, lowerFrom, ih, lowerAmong, List.append_assoc, List.reverse_cons,
        List.append_assoc, List.singleton_append]

theorem lowerAmong_nil (before text : List Char) :
    lowerAmong before text [] = lowerFrom before text := by
  have h := lowerFrom_append before text []
  rw [List.append_nil, lowerFrom, List.append_nil] at h
  exact h.symm

/-- What stands for a part in the lower-case form of the whole text. -/
theorem lower_append_append (before text after : List Char) :
    lower (before ++ text ++ after) =
      lowerAmong [] before (text ++ after) ++ lowerAmong before.reverse text after ++
        lowerFrom (text.reverse ++ before.reverse) after := by
  rw [lower, List.append_assoc, lowerFrom_append, lowerFrom_append, List.append_nil,
    List.append_assoc]

/-! ## Capital sigmas -/

/-- Every capital sigma of a part takes the form among its neighbours that it takes in the part
alone. -/
def SigmasAgree (before text after : List Char) : Prop :=
  ∀ first rest, text = first ++ 'Σ' :: rest →
    endsWord (before ++ first).reverse (rest ++ after) = endsWord first.reverse rest

theorem length_lowerWithin (c : Char) (before after others more : List Char) :
    (lowerWithin before c after).length = (lowerWithin others c more).length := by
  unfold lowerWithin
  split <;> rfl

theorem lowerWithin_eq_iff {c : Char} {before after others more : List Char} :
    lowerWithin before c after = lowerWithin others c more ↔
      (c = 'Σ' → endsWord before after = endsWord others more) := by
  unfold lowerWithin
  by_cases hc : c = 'Σ'
  · cases endsWord before after <;> cases endsWord others more <;> simp [hc]
  · simp [hc]

/-- The characters of a part that are like one are its first one and those further on. -/
theorem forall_cons_eq_append_iff {c sigma : Char} {text : List Char}
    {P : List Char → List Char → Prop} :
    (∀ first rest, c :: text = first ++ sigma :: rest → P first rest) ↔
      (c = sigma → P [] text) ∧
        ∀ first rest, text = first ++ sigma :: rest → P (c :: first) rest := by
  constructor
  · intro h
    refine ⟨fun hc => h [] text (by simp [hc]), fun first rest htext => ?_⟩
    exact h (c :: first) rest (by simp [htext])
  · rintro ⟨hhead, htail⟩ first rest htext
    rcases List.cons_eq_append_iff.1 htext with ⟨rfl, hrest⟩ | ⟨others, rfl, hrest⟩
    · obtain ⟨rfl, rfl⟩ := List.cons.inj hrest
      exact hhead rfl
    · exact htail others rest hrest

theorem lowerAmong_eq_iff {inner outer text after : List Char} :
    lowerAmong (inner ++ outer) text after = lowerAmong inner text [] ↔
      ∀ first rest, text = first ++ 'Σ' :: rest →
        endsWord (first.reverse ++ (inner ++ outer)) (rest ++ after) =
          endsWord (first.reverse ++ inner) rest := by
  -- The induction is over the part, whose characters go over to what comes before, nearest first.
  induction text generalizing inner with
  | nil => simp [lowerAmong]
  | cons c text ih =>
      have hlength := length_lowerWithin c (inner ++ outer) (text ++ after) inner (text ++ [])
      have hparts : lowerAmong (inner ++ outer) (c :: text) after =
            lowerAmong inner (c :: text) [] ↔
          lowerWithin (inner ++ outer) c (text ++ after) = lowerWithin inner c (text ++ []) ∧
            lowerAmong (c :: inner ++ outer) text after = lowerAmong (c :: inner) text [] :=
        ⟨fun h => List.append_inj h hlength, fun ⟨hfirst, hrest⟩ =>
          congrArg₂ (· ++ ·) hfirst hrest⟩
      rw [hparts, lowerWithin_eq_iff, ih, forall_cons_eq_append_iff, List.append_nil]
      simp only [List.reverse_nil, List.nil_append, List.reverse_cons, List.append_assoc,
        List.cons_append]

/-- What stands for a part in the lower-case form of the whole text is the lower-case form of the
part exactly if the capital sigmas agree. -/
theorem lowerAmong_eq_lower_iff {before text after : List Char} :
    lowerAmong before.reverse text after = lower text ↔ SigmasAgree before text after := by
  have h := @lowerAmong_eq_iff [] before.reverse text after
  simp only [List.nil_append, lowerAmong_nil, List.append_nil] at h
  simpa only [SigmasAgree, lower, List.reverse_append] using h

instance (before text after : List Char) : Decidable (SigmasAgree before text after) :=
  decidable_of_iff _ lowerAmong_eq_lower_iff

theorem SigmasAgree.lower_part {before text after : List Char}
    (h : SigmasAgree before text after) : lower text <:+: lower (before ++ text ++ after) := by
  rw [lower_append_append, lowerAmong_eq_lower_iff.2 h]
  exact List.infix_append _ _ _

/-! ## White space beside a part -/

/-- A blank character is neither passed over in the search for a letter with case nor one itself. -/
theorem case_of_isBlank {c : Char} (h : isBlank c = true) :
    inRanges caseIgnorableRanges c.toNat = false ∧ inRanges casedRanges c.toNat = false := by
  obtain ⟨range, hrange, hlow, hhigh⟩ := exists_mem_of_inRanges h
  have hdecide : ∀ range ∈ blankRanges, ∀ offset < range.2 - range.1 + 1,
      inRanges caseIgnorableRanges (range.1 + offset) = false ∧
        inRanges casedRanges (range.1 + offset) = false := by
    decide +kernel
  have hcode := hdecide range hrange (c.toNat - range.1) (by omega)
  rwa [Nat.add_sub_cancel' hlow] at hcode

theorem meetsCased_of_allBlank {blanks : List Char} (h : allBlank blanks = true) :
    meetsCased blanks = false := by
  cases blanks with
  | nil => rfl
  | cons c blanks =>
      have hc := case_of_isBlank (List.all_eq_true.1 h c List.mem_cons_self)
      simp [meetsCased, hc.1, hc.2]

theorem meetsCased_append {text blanks : List Char} (h : allBlank blanks = true) :
    meetsCased (text ++ blanks) = meetsCased text := by
  induction text with
  | nil => exact meetsCased_of_allBlank h
  | cons c text ih =>
      by_cases hc : inRanges caseIgnorableRanges c.toNat = true
      · simpa [meetsCased, hc] using ih
      · simp [meetsCased, hc]

theorem sigmasAgree_of_allBlank {before after : List Char} (hbefore : allBlank before = true)
    (hafter : allBlank after = true) (text : List Char) : SigmasAgree before text after := by
  have hreverse : allBlank before.reverse = true := by rwa [allBlank, List.all_reverse]
  intro first rest _
  rw [endsWord, endsWord, List.reverse_append, meetsCased_append hreverse,
    meetsCased_append hafter]

/-- Trimming a text only takes away from its lower-case form. -/
theorem lower_trim_part (text : List Char) : lower (trim text) <:+: lower text := by
  obtain ⟨before, after, hbefore, hafter, htext⟩ := exists_eq_append_trim text
  have hinfix := (sigmasAgree_of_allBlank hbefore hafter (trim text)).lower_part
  rwa [← htext] at hinfix

end TextureCatalog.Text
