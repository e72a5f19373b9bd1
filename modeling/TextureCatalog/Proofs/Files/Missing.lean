import Mathlib.Data.List.Flatten
import Mathlib.Data.List.TakeWhile
import TextureCatalog.Proofs.Files.Reaching

/-!
# Paths that lead to nothing

A path is shown as a part of the text that it was read from, so it is no longer than that text.  If
it is not too long, and neither are its names, there are only two reasons why it leads to nothing:
a name is missing, or something on the way is no directory.
-/

namespace TextureCatalog.Files

/-! ## Shown paths -/

/-- Pieces that are left out take a separator with them. -/
theorem joinWith_sublist {pieces others : List (List Char)} (between : List Char)
    (h : pieces.Sublist others) :
    (Text.joinWith between pieces).Sublist (Text.joinWith between others) := by
  induction h with
  | slnil => exact List.Sublist.refl _
  | @cons pieces others piece h ih =>
      refine ih.trans ?_
      cases others with
      | nil => exact List.nil_sublist _
      | cons next others => exact List.sublist_append_right _ _
  | @cons_cons pieces others piece h ih =>
      cases pieces with
      | nil =>
          cases others with
          | nil => exact List.Sublist.refl _
          | cons next others =>
              rw [Text.joinWith, Text.joinWith, List.append_assoc]
              exact List.sublist_append_left _ _
      | cons first pieces =>
          cases others with
          | nil => exact absurd h (by simp)
          | cons next others => exact (List.Sublist.refl _).append ih

/-- The names in a path text: its pieces without the empty ones and the single dots. -/
def namesIn (text : List Char) : List (List Char) :=
  (Text.cutAt '/' text).filter fun name => !name.isEmpty && name != ['.']

theorem names_ofText (text : String) :
    (Path.ofText text).names.map (·.toList) = namesIn text.toList := by
  have hsame : (String.toList ∘ String.ofList) = id := funext fun _ => String.toList_ofList
  rw [Path.ofText, List.map_map]
  exact (congrArg (List.map · _) hsame).trans (List.map_id _)

theorem joinWith_namesIn_sublist (text : List Char) :
    (Text.joinWith ['/'] (namesIn text)).Sublist text := by
  have hjoined := joinWith_sublist ['/'] (List.filter_sublist (l := Text.cutAt '/' text)
    (p := fun name => !name.isEmpty && name != ['.']))
  rwa [Text.joinWith_cutAt] at hjoined

theorem namesIn_slashes (count : Nat) (text : List Char) :
    namesIn (List.replicate count '/' ++ text) = namesIn text := by
  induction count with
  | zero => rfl
  | succ count ih =>
      rw [List.replicate_succ, List.cons_append, namesIn, Text.cutAt, if_pos rfl]
      exact (List.filter_cons_of_neg (by simp)).trans ih

theorem takeWhile_slashes (text : List Char) :
    text.takeWhile (· == '/') = List.replicate (text.takeWhile (· == '/')).length '/' :=
  List.eq_replicate_iff.2 ⟨rfl, fun _ hc => by simpa using List.mem_takeWhile_imp hc⟩

theorem namesIn_dropWhile (text : List Char) :
    namesIn (text.dropWhile (· == '/')) = namesIn text := by
  conv_rhs => rw [← List.takeWhile_append_dropWhile (p := (· == '/')) (l := text),
    takeWhile_slashes, namesIn_slashes]

/-- The beginning of a shown path is a part of the slashes at the beginning of its text. -/
theorem anchor_sublist (text : List Char) :
    (Path.anchorOf text).text.Sublist (text.takeWhile (· == '/')) := by
  rw [Path.anchorOf, takeWhile_slashes, List.length_replicate]
  generalize (text.takeWhile (· == '/')).length = count
  match count with
  | 0 | 1 | 2 => exact List.Sublist.refl _
  | count + 3 => exact (List.replicate_sublist_replicate _).2 (Nat.le_add_left 1 (count + 2))

/-- A path is shown as a part of its text, or as a single dot. -/
theorem toText_ofText_sublist (text : String) :
    (Path.ofText text).toText = "." ∨
      (Path.ofText text).toText.toList.Sublist text.toList := by
  rw [Path.toText]
  split_ifs
  · exact .inl rfl
  · have hnames := joinWith_namesIn_sublist (text.toList.dropWhile (· == '/'))
    have hboth := (anchor_sublist text.toList).append hnames
    rw [namesIn_dropWhile, List.takeWhile_append_dropWhile] at hboth
    rw [String.toList_ofList, names_ofText]
    exact .inr hboth

/-- A path that is shown has no more bytes than its text, which may be empty. -/
theorem byteLength_toText_ofText_le (text : String) :
    byteLength (Path.ofText text).toText ≤ max 1 (byteLength text) := by
  rcases toText_ofText_sublist text with hdot | hsublist
  · rw [hdot]
    exact Nat.le_max_left 1 _
  · exact Nat.le_trans (hsublist.flatMap _).length_le (Nat.le_max_right 1 _)

theorem length_le_byteLength (text : String) : text.toList.length ≤ byteLength text := by
  have hchar : ∀ c, 1 ≤ (Text.Utf8.encodeChar c).length := by
    intro c
    unfold Text.Utf8.encodeChar
    simp only
    split_ifs <;> simp
  rw [byteLength, Text.Utf8.encode]
  induction text.toList with
  | nil => exact Nat.le_refl 0
  | cons c text ih =>
      have hc := hchar c
      rw [List.flatMap_cons, List.length_append, List.length_cons]
      omega

/-! ## Nothing there -/

/-- Nothing stands at a path text: the path and its names are not too long, it is not expanded to a
home directory, and it leads to no entry. -/
structure NamesNothing (tree : Tree) (surroundings : Surroundings) (text : String) : Prop where
  short : byteLength text ≤ pathLimit
  names : ∀ name ∈ (Path.ofText text).names, byteLength name ≤ nameLimit
  home : (Path.ofText text).expandHome surroundings = .ok (.ofText text)
  absent : ∀ entry, tree.reach (.ofText text) surroundings.workingDirectory ≠ .ok entry

variable {tree : Tree} {surroundings : Surroundings} {text : String}

theorem fault_of_walk {here : Location} {names : List String} {fault : Fault}
    (hnames : ∀ name ∈ names, byteLength name ≤ nameLimit)
    (h : tree.walk here names = .error fault) : fault = .notFound ∨ fault = .notADirectory := by
  induction names generalizing here with
  | nil =>
      rw [Tree.walk] at h
      split at h
      · exact .inl (Except.error.inj h).symm
      · exact absurd h (by simp)
  | cons name names ih =>
      obtain ⟨hname, hnames⟩ := List.forall_mem_cons.1 hnames
      rw [Tree.walk] at h
      split at h
      · exact .inl (Except.error.inj h).symm
      · exact .inr (Except.error.inj h).symm
      · rw [if_neg (Nat.not_lt.2 hname)] at h
        split_ifs at h
        · exact ih hnames h
        · exact ih hnames h

/-- A path that is not too long is walked along from some place. -/
theorem exists_reach_eq (tree : Tree) {path : Path} (h : byteLength path.toText ≤ pathLimit)
    (workingDirectory : Location) :
    ∃ start, tree.reach path workingDirectory = (tree.walk start path.names).map (·.2) :=
  ⟨_, if_neg (Nat.not_lt.2 h)⟩

theorem NamesNothing.reach_cases (h : NamesNothing tree surroundings text) :
    tree.reach (.ofText text) surroundings.workingDirectory = .error .notFound ∨
      tree.reach (.ofText text) surroundings.workingDirectory = .error .notADirectory := by
  have hshort : byteLength (Path.ofText text).toText ≤ pathLimit :=
    Nat.le_trans (byteLength_toText_ofText_le text) (Nat.max_le.2 ⟨by decide, h.short⟩)
  obtain ⟨start, hreach⟩ := exists_reach_eq tree hshort surroundings.workingDirectory
  have habsent := h.absent
  rw [hreach] at habsent ⊢
  cases hwalk : tree.walk start (Path.ofText text).names with
  | ok place => exact absurd (congrArg (Except.map (·.2)) hwalk) (habsent place.2)
  | error fault =>
      rcases fault_of_walk h.names hwalk with rfl | rfl
      · exact .inl rfl
      · exact .inr rfl

end TextureCatalog.Files
