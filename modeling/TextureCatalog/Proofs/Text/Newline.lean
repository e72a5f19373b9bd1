import TextureCatalog.Text.Newline

/-!
# Texts with unified line ends

A carriage return and the line feed after it are one line end, so the parts of a text can be changed
one by one wherever it is not cut between the two.
-/

namespace TextureCatalog.Text

/-- A text is changed into another one when line ends are unified, whatever comes after it. -/
def Unifies (text unified : List Char) : Prop :=
  ∀ rest, unifyNewlines (text ++ rest) = unified ++ unifyNewlines rest

theorem unifyNewlines_cons {c : Char} (h : c ≠ '\r') (rest : List Char) :
    unifyNewlines (c :: rest) = c :: unifyNewlines rest := by
  rw [unifyNewlines]
  · simp [h]
  · simp [h]

/-- A text without carriage returns stays as it is. -/
theorem unifies_of_not_mem {text : List Char} (h : '\r' ∉ text) : Unifies text text := by
  intro rest
  induction text with
  | nil => rfl
  | cons c text ih =>
      have hc : c ≠ '\r' := (List.ne_of_not_mem_cons h).symm
      have htext := ih (List.not_mem_of_not_mem_cons h)
      rw [List.cons_append, unifyNewlines_cons hc, htext, List.cons_append]

theorem unifies_nil : Unifies [] [] := fun _ => rfl

theorem unifyNewlines_of_not_mem {text : List Char} (h : '\r' ∉ text) :
    unifyNewlines text = text := by
  simpa [unifyNewlines] using unifies_of_not_mem h []

theorem Unifies.append {first second unifiedFirst unifiedSecond : List Char}
    (hfirst : Unifies first unifiedFirst) (hsecond : Unifies second unifiedSecond) :
    Unifies (first ++ second) (unifiedFirst ++ unifiedSecond) := by
  intro rest
  rw [List.append_assoc, hfirst, hsecond, List.append_assoc]

theorem Unifies.cons {text unified : List Char} (h : Unifies text unified) (c : Char)
    (hc : c ≠ '\r') : Unifies (c :: text) (c :: unified) := by
  intro rest
  rw [List.cons_append, unifyNewlines_cons hc, h, List.cons_append]

/-- Two parts can be changed one by one if the second does not begin with a line feed, which could
belong to the carriage return at the end of the first. -/
theorem unifyNewlines_append {left right : List Char} (h : right.head? ≠ some '\n') :
    unifyNewlines (left ++ right) = unifyNewlines left ++ unifyNewlines right := by
  fun_induction unifyNewlines left with
  | case1 => rfl
  | case2 rest ih =>
      rw [List.cons_append, List.cons_append, unifyNewlines, ih, List.cons_append]
  | case3 rest hrest ih =>
      rw [List.cons_append, unifyNewlines, ih, List.cons_append]
      cases rest with
      | nil =>
          rintro others rfl
          exact h rfl
      | cons c rest =>
          intro others heq
          exact hrest rest (congrArg (· :: rest) (List.cons.inj heq).1)
  | case4 c rest _ hc ih =>
      rw [List.cons_append, unifyNewlines_cons (fun heq => hc heq), ih, List.cons_append]

/-- What comes before a part that does not begin with a line feed is changed by itself. -/
theorem Unifies.append_left {c : Char} (hc : c ≠ '\n') {text unified : List Char}
    (h : Unifies (c :: text) unified) (before : List Char) :
    Unifies (before ++ c :: text) (unifyNewlines before ++ unified) := by
  intro rest
  have hhead : (c :: text ++ rest).head? ≠ some '\n' := fun heq => hc (Option.some.inj heq)
  rw [List.append_assoc, unifyNewlines_append hhead, h, List.append_assoc]

end TextureCatalog.Text
