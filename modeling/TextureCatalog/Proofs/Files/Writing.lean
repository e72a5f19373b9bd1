import Mathlib.Data.List.Basic
import TextureCatalog.Proofs.Files.Reaching

/-!
# Writing files

A file can be written to a location exactly if the places above it are directories or missing from
some place on, it is no directory itself, and its names and its path are short enough.  Writing
changes the location and the missing places above it, and nothing else.
-/

namespace TextureCatalog.Files.Tree

variable {tree changed : Tree} {location : Location} {name : String}

/-! ## Making directories -/

/-- The places along a location are directories, or they are missing from some place on. -/
def CanMake (tree : Tree) (location : Location) : Prop :=
  ∀ place, place <+: location → tree.get? place = some .directory ∨
    ∀ below, place <+: below → below <+: location → tree.get? below = none

/-- A tree in which a location is a directory, and the places above it too, and that is otherwise
the same. -/
structure Made (tree changed : Tree) (location : Location) : Prop where
  made : changed.IsDirectoryPath location
  others : ∀ place, ¬ place <+: location → changed.get? place = tree.get? place

theorem IsDirectoryPath.canMake (h : tree.IsDirectoryPath location) : tree.CanMake location :=
  fun place hplace => Or.inl (h place hplace)

theorem IsDirectoryPath.made (h : tree.IsDirectoryPath location) : tree.Made tree location :=
  ⟨h, fun _ _ => rfl⟩

theorem child_not_above (location : Location) (name : String) :
    ¬ location ++ [name] <+: location := by
  intro h
  have hlength := h.length_le
  rw [List.length_append, List.length_singleton] at hlength
  omega

theorem canMake_append_singleton_iff :
    tree.CanMake (location ++ [name]) ↔
      tree.IsDirectoryPath (location ++ [name]) ∨
        tree.get? (location ++ [name]) = none ∧ tree.CanMake location := by
  constructor
  · intro h
    rcases h _ (List.prefix_refl _) with hdirectory | hmissing
    · refine Or.inl fun place hplace => ?_
      rcases h place hplace with hfound | hnone
      · exact hfound
      · rw [hnone _ hplace (List.prefix_refl _)] at hdirectory
        exact absurd hdirectory (by simp)
    · refine Or.inr ⟨hmissing _ (List.prefix_refl _) (List.prefix_refl _), fun place hplace => ?_⟩
      rcases h place (hplace.trans (List.prefix_append _ _)) with hfound | hnone
      · exact Or.inl hfound
      · exact Or.inr fun below habove hbelow =>
          hnone below habove (hbelow.trans (List.prefix_append _ _))
  · rintro (hdirectory | ⟨hnone, h⟩)
    · exact hdirectory.canMake
    · intro place hplace
      rcases List.prefix_concat_iff.1 hplace with rfl | habove
      · refine Or.inr fun below hbelow hlast => ?_
        rw [List.IsPrefix.eq_of_length hlast (Nat.le_antisymm hlast.length_le hbelow.length_le)]
        exact hnone
      · rcases h place habove with hfound | hmissing
        · exact Or.inl hfound
        · refine Or.inr fun below hplaceBelow hbelow => ?_
          rcases List.prefix_concat_iff.1 hbelow with rfl | hbelowAbove
          · exact hnone
          · exact hmissing below hplaceBelow hbelowAbove

/-- A location whose directory can be made is a directory, or is not found. -/
theorem CanMake.reachLocation_cases (h : tree.CanMake location) (hlocation : ".." ∉ location)
    (hfits : FitsPath location) (hnames : FitNames location) :
    tree.reachLocation location = .ok .directory ∨
      tree.reachLocation location = .error .notFound := by
  induction location using List.reverseRecOn with
  | nil => exact Or.inl (reachLocation_root tree)
  | append_singleton location name ih =>
      obtain ⟨habove, hname⟩ := not_mem_append_singleton_iff.1 hlocation
      obtain ⟨hnamesAbove, hshort⟩ := fitNames_append_singleton_iff.1 hnames
      rcases canMake_append_singleton_iff.1 h with hdirectory | ⟨hnone, hmake⟩
      · exact Or.inl ((reachLocation_eq_directory_iff hlocation).2 ⟨hfits, hnames, hdirectory⟩)
      · rw [reachLocation_append_singleton_eq_notFound_iff habove hname]
        rcases ih hmake habove hfits.above hnamesAbove with hreach | hreach
        · exact Or.inr ⟨hfits, Or.inr ⟨hreach, hshort, hnone⟩⟩
        · exact Or.inr ⟨hfits, Or.inl hreach⟩

/-- A single directory is made exactly in a directory that has no entry of its name. -/
theorem makeDirectory_eq_ok_iff (hlocation : ".." ∉ location) (hname : name ≠ "..") :
    tree.makeDirectory (location ++ [name]) = .ok changed ↔
      FitsPath (location ++ [name]) ∧ FitNames (location ++ [name]) ∧
        tree.IsDirectoryPath location ∧ tree.get? (location ++ [name]) = none ∧
        changed = tree.put (location ++ [name]) .directory := by
  rw [makeDirectory, List.dropLast_concat]
  constructor
  · intro h
    split at h
    · simp at h
    · next hreach =>
        split at h
        · next habove =>
            obtain ⟨hfits, hnames, hpath, hnone⟩ :=
              (notFound_below_directory_iff hlocation hname).1 ⟨hreach, habove⟩
            exact ⟨hfits, hnames, hpath, hnone, (Except.ok.inj h).symm⟩
        · simp at h
        · simp at h
    · simp at h
  · rintro ⟨hfits, hnames, hpath, hnone, rfl⟩
    obtain ⟨hreach, habove⟩ := (notFound_below_directory_iff hlocation hname).2
      ⟨hfits, hnames, hpath, hnone⟩
    rw [hreach, habove]

/-- Below what is not found itself no directory is made. -/
theorem makeDirectory_of_notFound (hlocation : ".." ∉ location) (hname : name ≠ "..")
    (hfits : FitsPath (location ++ [name]))
    (h : tree.reachLocation location = .error .notFound) :
    tree.makeDirectory (location ++ [name]) = .error .notFound := by
  have hreach := (reachLocation_append_singleton_eq_notFound_iff hlocation hname).2
    ⟨hfits, Or.inl h⟩
  rw [makeDirectory, List.dropLast_concat, hreach, h]

/-- A directory is made at once, or after the ones above it. -/
theorem makeDirectories_append_singleton (tree : Tree) (location : Location) (name : String) :
    tree.makeDirectories (location ++ [name]) =
      match tree.makeDirectory (location ++ [name]) with
      | .ok changed => .ok changed
      | .error .notFound =>
        match tree.makeDirectories location with
        | .error unfinished => .error unfinished
        | .ok changed =>
          match changed.makeDirectory (location ++ [name]) with
          | .ok changed => .ok changed
          | .error fault => .error ⟨fault, location ++ [name], changed⟩
      | .error fault =>
        if tree.isDirectory (location ++ [name]) then .ok tree
        else .error ⟨fault, location ++ [name], tree⟩ := by
  rw [makeDirectories, List.reverse_concat, makeDirectoriesUpward, List.reverse_cons,
    List.reverse_reverse]
  cases tree.makeDirectory (location ++ [name]) with
  | ok changed => rfl
  | error fault => cases fault <;> rfl

theorem isDirectory_eq_true_iff :
    tree.isDirectory location = true ↔ tree.reachLocation location = .ok .directory := by
  unfold isDirectory
  split
  · next h => simp [h]
  · next h => simpa using h

/-- What is put below directories that have been made leaves them as they are. -/
theorem Made.isDirectoryPath_put (h : tree.Made changed location) (name : String)
    (entry : Entry) : (changed.put (location ++ [name]) entry).IsDirectoryPath location := by
  intro place hplace
  rw [get?_put_of_ne]
  · exact h.made place hplace
  · rintro rfl
    exact child_not_above location name hplace

theorem Made.get?_put_of_not_above (h : tree.Made changed location) (entry : Entry)
    {place : Location} (hplace : ¬ place <+: location ++ [name]) :
    (changed.put (location ++ [name]) entry).get? place = tree.get? place := by
  rw [get?_put_of_ne]
  · exact h.others place fun habove => hplace (habove.trans (List.prefix_append _ _))
  · rintro rfl
    exact hplace (List.prefix_refl _)

/-- A directory is put where those above it have been made. -/
theorem Made.put_directory (h : tree.Made changed location) (name : String) :
    tree.Made (changed.put (location ++ [name]) .directory) (location ++ [name]) where
  made := isDirectoryPath_append_singleton_iff.2
    ⟨h.isDirectoryPath_put name .directory, get?_put_self _ _ (by simp)⟩
  others _ hplace := h.get?_put_of_not_above .directory hplace

/-- Directories are only made where they can be, and nothing else is changed. -/
theorem made_of_makeDirectories (hlocation : ".." ∉ location)
    (h : tree.makeDirectories location = .ok changed) :
    tree.CanMake location ∧ tree.Made changed location := by
  induction location using List.reverseRecOn generalizing changed with
  | nil =>
      have hroot := isDirectoryPath_nil tree
      rw [← Except.ok.inj h]
      exact ⟨hroot.canMake, hroot.made⟩
  | append_singleton location name ih =>
      obtain ⟨habove, hname⟩ := not_mem_append_singleton_iff.1 hlocation
      rw [makeDirectories_append_singleton] at h
      split at h
      · next made hmade =>
          obtain ⟨-, -, hpath, hnone, rfl⟩ := (makeDirectory_eq_ok_iff habove hname).1 hmade
          rw [← Except.ok.inj h]
          exact ⟨canMake_append_singleton_iff.2 (Or.inr ⟨hnone, hpath.canMake⟩),
            hpath.made.put_directory name⟩
      · split at h
        · simp at h
        · next above hmadeAbove =>
            obtain ⟨hmake, hchanged⟩ := ih habove hmadeAbove
            split at h
            · next made hmade =>
                obtain ⟨-, -, -, hnone, rfl⟩ := (makeDirectory_eq_ok_iff habove hname).1 hmade
                rw [hchanged.others _ (child_not_above location name)] at hnone
                rw [← Except.ok.inj h]
                exact ⟨canMake_append_singleton_iff.2 (Or.inr ⟨hnone, hmake⟩),
                  hchanged.put_directory name⟩
            · simp at h
      · next fault hother _ =>
          split at h
          · next hdirectory =>
              have hpath := (reachLocation_eq_directory_iff hlocation).1
                (isDirectory_eq_true_iff.1 hdirectory)
              rw [← Except.ok.inj h]
              exact ⟨hpath.2.2.canMake, hpath.2.2.made⟩
          · simp at h

theorem CanMake.exists_makeDirectories (h : tree.CanMake location) (hlocation : ".." ∉ location)
    (hfits : FitsPath location) (hnames : FitNames location) :
    ∃ changed, tree.makeDirectories location = .ok changed := by
  induction location using List.reverseRecOn with
  | nil => exact ⟨tree, rfl⟩
  | append_singleton location name ih =>
      obtain ⟨habove, hname⟩ := not_mem_append_singleton_iff.1 hlocation
      have hnamesAbove := (fitNames_append_singleton_iff.1 hnames).1
      rw [makeDirectories_append_singleton]
      rcases canMake_append_singleton_iff.1 h with hdirectory | ⟨hnone, hmake⟩
      · have hreach := (reachLocation_eq_directory_iff hlocation).2 ⟨hfits, hnames, hdirectory⟩
        have hexists : tree.makeDirectory (location ++ [name]) = .error .exists := by
          rw [makeDirectory, hreach]
        rw [hexists]
        exact ⟨tree, if_pos (isDirectory_eq_true_iff.2 hreach)⟩
      · rcases hmake.reachLocation_cases habove hfits.above hnamesAbove with hreach | hreach
        · have hpath := ((reachLocation_eq_directory_iff habove).1 hreach).2.2
          rw [(makeDirectory_eq_ok_iff habove hname).2 ⟨hfits, hnames, hpath, hnone, rfl⟩]
          exact ⟨_, rfl⟩
        · obtain ⟨made, hmade⟩ := ih hmake habove hfits.above hnamesAbove
          have hchanged := (made_of_makeDirectories habove hmade).2
          rw [← hchanged.others _ (child_not_above location name)] at hnone
          rw [makeDirectory_of_notFound habove hname hfits hreach, hmade]
          simp only [(makeDirectory_eq_ok_iff habove hname).2
            ⟨hfits, hnames, hchanged.made, hnone, rfl⟩]
          exact ⟨_, rfl⟩

/-! ## Writing a file -/

/-- A file is written to a directory where no directory has its name. -/
theorem writeFile_eq_ok_iff {content : List UInt8} (hlocation : ".." ∉ location)
    (hname : name ≠ "..") (hpath : tree.IsDirectoryPath location) :
    tree.writeFile (location ++ [name]) content = .ok changed ↔
      FitsPath (location ++ [name]) ∧ FitNames (location ++ [name]) ∧
        tree.get? (location ++ [name]) ≠ some .directory ∧
        changed = tree.put (location ++ [name]) (.file content) := by
  rw [writeFile, List.dropLast_concat]
  constructor
  · intro h
    split at h
    · simp at h
    · next hreach =>
        obtain ⟨hfits, habove, hshort, hentry⟩ :=
          (reachLocation_append_singleton_eq_ok_iff hlocation hname).1 hreach
        obtain ⟨-, hnames, -⟩ := (reachLocation_eq_directory_iff hlocation).1 habove
        exact ⟨hfits, fitNames_append_singleton_iff.2 ⟨hnames, hshort⟩, by simp [hentry],
          (Except.ok.inj h).symm⟩
    · next hreach =>
        split at h
        · next habove =>
            obtain ⟨hfits, hnames, -, hnone⟩ := (notFound_below_directory_iff hlocation hname).1
              ⟨hreach, isDirectory_eq_true_iff.1 habove⟩
            exact ⟨hfits, hnames, by simp [hnone], (Except.ok.inj h).symm⟩
        · simp at h
    · simp at h
  · rintro ⟨hfits, hnames, hfree, rfl⟩
    cases hentry : tree.get? (location ++ [name]) with
    | none =>
        obtain ⟨hreach, habove⟩ := (notFound_below_directory_iff hlocation hname).2
          ⟨hfits, hnames, hpath, hentry⟩
        rw [hreach]
        exact if_pos (isDirectory_eq_true_iff.2 habove)
    | some entry =>
        obtain ⟨hnamesAbove, hshort⟩ := fitNames_append_singleton_iff.1 hnames
        have habove := (reachLocation_eq_directory_iff hlocation).2
          ⟨hfits.above, hnamesAbove, hpath⟩
        rw [(reachLocation_append_singleton_eq_ok_iff hlocation hname).2
          ⟨hfits, habove, hshort, hentry⟩]
        cases entry with
        | directory => exact absurd hentry hfree
        | file old => rfl

/-- Locations to which a file can be written. -/
structure Writable (tree : Tree) (location : Location) : Prop where
  named : location ≠ []
  fitsPath : FitsPath location
  fitNames : FitNames location
  above : tree.CanMake location.dropLast
  free : tree.get? location ≠ some .directory

/-- A tree with a file at a location, in directories of which some may be new, that is otherwise the
same. -/
structure Written (tree changed : Tree) (location : Location) (content : List UInt8) : Prop where
  content : changed.get? location = some (.file content)
  above : changed.IsDirectoryPath location.dropLast
  others : ∀ place, ¬ place <+: location → changed.get? place = tree.get? place

/-- A file is put where the directories above it have been made. -/
theorem Made.put_file (h : tree.Made changed location) (name : String) (content : List UInt8) :
    tree.Written (changed.put (location ++ [name]) (.file content)) (location ++ [name])
      content where
  content := get?_put_self _ _ (by simp)
  above := by
    rw [List.dropLast_concat]
    exact h.isDirectoryPath_put name (.file content)
  others _ hplace := h.get?_put_of_not_above (.file content) hplace

theorem install_append_singleton_eq_ok_iff {saved : Tree} {content : List UInt8} :
    tree.install (location ++ [name]) content = .ok saved ↔
      ∃ changed, tree.makeDirectories location = .ok changed ∧
        changed.writeFile (location ++ [name]) content = .ok saved := by
  rw [install, List.dropLast_concat]
  cases tree.makeDirectories location with
  | error unfinished => simp [bind, Except.bind]
  | ok changed =>
      cases hwrite : changed.writeFile (location ++ [name]) content with
      | error fault => simp [bind, Except.bind, hwrite, throw, throwThe, MonadExceptOf.throw]
      | ok written => simp [bind, Except.bind, hwrite, pure, Except.pure]

/-- The root is a directory, to which no file is written. -/
theorem install_root (tree : Tree) (content : List UInt8) :
    tree.install [] content = .error ⟨.isADirectory, [], tree⟩ := by
  have hwrite : tree.writeFile [] content = .error .isADirectory := by
    rw [writeFile, reachLocation_root]
  have hmake : tree.makeDirectories [] = .ok tree := rfl
  rw [install, List.dropLast_nil, hmake]
  simp only [bind, Except.bind, hwrite]
  rfl

/-- A file is only written to a location to which it can be, and is then there. -/
theorem written_of_install {saved : Tree} {content : List UInt8} (hlocation : ".." ∉ location)
    (h : tree.install location content = .ok saved) :
    tree.Writable location ∧ tree.Written saved location content := by
  rcases List.eq_nil_or_concat' location with rfl | ⟨location, name, rfl⟩
  · rw [install_root] at h
    simp at h
  · obtain ⟨habove, hname⟩ := not_mem_append_singleton_iff.1 hlocation
    obtain ⟨changed, hmake, hwrite⟩ := install_append_singleton_eq_ok_iff.1 h
    obtain ⟨hcanMake, hmade⟩ := made_of_makeDirectories habove hmake
    obtain ⟨hfits, hnames, hfree, rfl⟩ := (writeFile_eq_ok_iff habove hname hmade.made).1 hwrite
    rw [hmade.others _ (child_not_above location name)] at hfree
    refine ⟨⟨by simp, hfits, hnames, ?_, hfree⟩, hmade.put_file name content⟩
    rwa [List.dropLast_concat]

/-- Writing to such a location succeeds. -/
theorem Writable.exists_install (h : tree.Writable location) (hlocation : ".." ∉ location)
    (content : List UInt8) : ∃ saved, tree.install location content = .ok saved := by
  obtain ⟨location, name, rfl⟩ := (List.eq_nil_or_concat' location).resolve_left h.named
  obtain ⟨habove, hname⟩ := not_mem_append_singleton_iff.1 hlocation
  have hcanMake := h.above
  have hfree := h.free
  rw [List.dropLast_concat] at hcanMake
  obtain ⟨changed, hmake⟩ := hcanMake.exists_makeDirectories habove h.fitsPath.above
    (fitNames_append_singleton_iff.1 h.fitNames).1
  have hmade := (made_of_makeDirectories habove hmake).2
  rw [← hmade.others _ (child_not_above location name)] at hfree
  exact ⟨_, install_append_singleton_eq_ok_iff.2 ⟨changed, hmake,
    (writeFile_eq_ok_iff habove hname hmade.made).2 ⟨h.fitsPath, h.fitNames, hfree, rfl⟩⟩⟩

/-- A written file can be written again. -/
theorem Written.writable {saved : Tree} {content : List UInt8}
    (h : tree.Written saved location content) (hwritable : tree.Writable location) :
    saved.Writable location where
  named := hwritable.named
  fitsPath := hwritable.fitsPath
  fitNames := hwritable.fitNames
  above := h.above.canMake
  free := by simp [h.content]

/-- A written file is found. -/
theorem Written.reachLocation_eq {saved : Tree} {content : List UInt8}
    (h : tree.Written saved location content) (hwritable : tree.Writable location)
    (hlocation : ".." ∉ location) : saved.reachLocation location = .ok (.file content) := by
  obtain ⟨location, name, rfl⟩ := (List.eq_nil_or_concat' location).resolve_left hwritable.named
  obtain ⟨habove, hname⟩ := not_mem_append_singleton_iff.1 hlocation
  obtain ⟨hnames, hshort⟩ := fitNames_append_singleton_iff.1 hwritable.fitNames
  have hpath := h.above
  rw [List.dropLast_concat] at hpath
  have hreach := (reachLocation_eq_directory_iff habove).2
    ⟨hwritable.fitsPath.above, hnames, hpath⟩
  exact (reachLocation_append_singleton_eq_ok_iff habove hname).2
    ⟨hwritable.fitsPath, hreach, hshort, h.content⟩

end TextureCatalog.Files.Tree
