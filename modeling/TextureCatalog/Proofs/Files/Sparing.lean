import TextureCatalog.Proofs.Files.Writing

/-!
# What the writing of a file leaves alone

Before a file is written the missing directories above it are made, and these stay even if the file
itself cannot be written.  This module shows that nothing else becomes of a tree, whether the
writing succeeds or not: apart from the file, every place is as it was, or it was empty and has
become a directory above the file.
-/

namespace TextureCatalog.Files.Tree

variable {tree changed saved : Tree} {location place : Location} {name : String}
  {content : List UInt8} {unfinished : Unfinished}

/-! ## Places and files -/

/-- There is an entry at a location, and directories lead to it, as to every real entry. -/
def IsOccupied (tree : Tree) (location : Location) : Prop :=
  tree.IsDirectoryPath location.dropLast ∧ ∃ entry, tree.get? location = some entry

/-- There is a file somewhere on the way to a location. -/
def IsBelowFile (tree : Tree) (location : Location) : Prop :=
  ∃ above content, above <+: location ∧ above ≠ location ∧
    tree.get? above = some (.file content)

/-- A place is as it was, or it was empty and has become a directory on the way to a location. -/
def KeepsPlace (tree changed : Tree) (location place : Location) : Prop :=
  changed.get? place = tree.get? place ∨
    tree.get? place = none ∧ place <+: location ∧ changed.get? place = some .directory

/-- Two trees have the same files with the same contents. -/
def SameFiles (tree changed : Tree) : Prop :=
  ∀ place content,
    changed.get? place = some (.file content) ↔ tree.get? place = some (.file content)

theorem keepsPlace_refl (tree : Tree) (location place : Location) :
    tree.KeepsPlace tree location place :=
  .inl rfl

theorem KeepsPlace.below (h : tree.KeepsPlace changed location place) {other : Location}
    (hbelow : location <+: other) : tree.KeepsPlace changed other place := by
  rcases h with hsame | ⟨hnone, hplace, hdirectory⟩
  · exact .inl hsame
  · exact .inr ⟨hnone, hplace.trans hbelow, hdirectory⟩

theorem sameFiles_of_keepsPlace (h : ∀ place, tree.KeepsPlace changed location place) :
    tree.SameFiles changed := by
  intro place content
  rcases h place with hsame | ⟨hnone, -, hdirectory⟩
  · rw [hsame]
  · simp [hnone, hdirectory]

theorem sameFiles_refl (tree : Tree) : tree.SameFiles tree :=
  fun _ _ => Iff.rfl

/-! ## Occupied places -/

/-- A place below directories is found, unless a name or the path is too long. -/
theorem reachLocation_append_singleton_cases {entry : Entry} (hlocation : ".." ∉ location)
    (hname : name ≠ "..")
    (habove : tree.reachLocation location = .ok .directory ∨
      tree.reachLocation location = .error .nameTooLong)
    (hentry : tree.get? (location ++ [name]) = some entry) :
    tree.reachLocation (location ++ [name]) = .ok entry ∨
      tree.reachLocation (location ++ [name]) = .error .nameTooLong := by
  by_cases hfits : FitsPath (location ++ [name])
  · rw [reachLocation_append_singleton hlocation hname hfits]
    rcases habove with hreach | hreach
    · rw [hreach, hentry]
      by_cases hlong : nameLimit < byteLength name
      · exact .inr (if_pos hlong)
      · exact .inl (if_neg hlong)
    · rw [hreach]
      exact .inr rfl
  · exact .inr (if_pos (Nat.lt_of_not_le hfits))

theorem IsDirectoryPath.reachLocation_cases (h : tree.IsDirectoryPath location)
    (hlocation : ".." ∉ location) :
    tree.reachLocation location = .ok .directory ∨
      tree.reachLocation location = .error .nameTooLong := by
  induction location using List.reverseRecOn with
  | nil => exact .inl (reachLocation_root tree)
  | append_singleton location name ih =>
      obtain ⟨habove, hname⟩ := not_mem_append_singleton_iff.1 hlocation
      obtain ⟨hpath, hentry⟩ := isDirectoryPath_append_singleton_iff.1 h
      exact reachLocation_append_singleton_cases habove hname (ih hpath habove) hentry

/-- What is there is found, unless a name or the path is too long. -/
theorem IsOccupied.reachLocation_cases (h : tree.IsOccupied location)
    (hlocation : ".." ∉ location) :
    (∃ entry, tree.reachLocation location = .ok entry) ∨
      tree.reachLocation location = .error .nameTooLong := by
  rcases List.eq_nil_or_concat' location with rfl | ⟨location, name, rfl⟩
  · exact .inl ⟨.directory, reachLocation_root tree⟩
  · obtain ⟨habove, hname⟩ := not_mem_append_singleton_iff.1 hlocation
    obtain ⟨hpath, entry, hentry⟩ := h
    rw [List.dropLast_concat] at hpath
    exact (reachLocation_append_singleton_cases habove hname (hpath.reachLocation_cases habove)
      hentry).imp_left fun hreach => ⟨entry, hreach⟩

/-- What is found is there. -/
theorem isOccupied_of_reachLocation {entry : Entry} (hlocation : ".." ∉ location)
    (h : tree.reachLocation location = .ok entry) : tree.IsOccupied location := by
  rcases List.eq_nil_or_concat' location with rfl | ⟨location, name, rfl⟩
  · exact ⟨isDirectoryPath_nil tree, .directory, rfl⟩
  · obtain ⟨habove, hname⟩ := not_mem_append_singleton_iff.1 hlocation
    obtain ⟨-, hreach, -, hentry⟩ := (reachLocation_append_singleton_eq_ok_iff habove hname).1 h
    have hpath := ((reachLocation_eq_directory_iff habove).1 hreach).2.2
    exact ⟨by rwa [List.dropLast_concat], entry, hentry⟩

/-! ## Places to which nothing can be written -/

theorem Writable.not_isBelowFile (h : tree.Writable location) : ¬ tree.IsBelowFile location := by
  rintro ⟨above, content, habove, hne, hfile⟩
  obtain ⟨location, name, rfl⟩ := (List.eq_nil_or_concat' location).resolve_left h.named
  have hcanMake := h.above
  rw [List.dropLast_concat] at hcanMake
  have hprefix := (List.prefix_concat_iff.1 habove).resolve_left hne
  rcases hcanMake above hprefix with hdirectory | hmissing
  · simp [hfile] at hdirectory
  · simp [hmissing above (List.prefix_refl _) hprefix] at hfile

theorem Writable.reachLocation_ne_nameTooLong (h : tree.Writable location)
    (hlocation : ".." ∉ location) : tree.reachLocation location ≠ .error .nameTooLong := by
  obtain ⟨location, name, rfl⟩ := (List.eq_nil_or_concat' location).resolve_left h.named
  obtain ⟨habove, hname⟩ := not_mem_append_singleton_iff.1 hlocation
  obtain ⟨hnames, hshort⟩ := fitNames_append_singleton_iff.1 h.fitNames
  have hcanMake := h.above
  rw [List.dropLast_concat] at hcanMake
  rw [reachLocation_append_singleton habove hname h.fitsPath]
  rcases hcanMake.reachLocation_cases habove h.fitsPath.above hnames with hreach | hreach
  · rw [hreach]
    simp only [Nat.not_lt.2 hshort, if_false]
    cases tree.get? (location ++ [name]) <;> simp
  · rw [hreach]
    simp

/-! ## Directories that have been made -/

/-- Where directories can be made, a directory is an old one or stands where nothing was. -/
theorem CanMake.keepsPlace (h : tree.CanMake location) (hplace : place <+: location)
    (hdirectory : changed.get? place = some .directory) :
    tree.KeepsPlace changed location place := by
  rcases h place hplace with hfound | hmissing
  · exact .inl (hdirectory.trans hfound.symm)
  · exact .inr ⟨hmissing place (List.prefix_refl _) hplace, hplace, hdirectory⟩

theorem Made.keepsPlace (h : tree.Made changed location) (hcanMake : tree.CanMake location)
    (place : Location) : tree.KeepsPlace changed location place := by
  by_cases hplace : place <+: location
  · exact hcanMake.keepsPlace hplace (h.made place hplace)
  · exact .inl (h.others place hplace)

/-- The directories that were made before a fault are directories above the place of the fault. -/
theorem keepsPlace_of_makeDirectories_error (hlocation : ".." ∉ location)
    (h : tree.makeDirectories location = .error unfinished) (place : Location) :
    tree.KeepsPlace unfinished.tree location place := by
  induction location using List.reverseRecOn generalizing unfinished with
  | nil => exact absurd h (by simp [makeDirectories, makeDirectoriesUpward])
  | append_singleton location name ih =>
      obtain ⟨habove, hname⟩ := not_mem_append_singleton_iff.1 hlocation
      have hbelow : location <+: location ++ [name] := List.prefix_append _ _
      rw [makeDirectories_append_singleton] at h
      split at h
      · simp at h
      · split at h
        · next hmake =>
            rw [← Except.error.inj h]
            exact (ih habove hmake).below hbelow
        · next made hmake =>
            obtain ⟨hcanMake, hmade⟩ := made_of_makeDirectories habove hmake
            split at h
            · simp at h
            · rw [← Except.error.inj h]
              exact (hmade.keepsPlace hcanMake place).below hbelow
      · split at h
        · simp at h
        · rw [← Except.error.inj h]
          exact keepsPlace_refl tree _ place

/-! ## Files that have been written, or not -/

/-- If a file cannot be written, there may be new directories above it, and nothing else has
changed. -/
theorem keepsPlace_of_install_error (hlocation : ".." ∉ location)
    (h : tree.install location content = .error unfinished) (place : Location) :
    tree.KeepsPlace unfinished.tree location place := by
  rcases List.eq_nil_or_concat' location with rfl | ⟨location, name, rfl⟩
  · rw [install_root] at h
    rw [← Except.error.inj h]
    exact keepsPlace_refl tree _ place
  · have habove := (not_mem_append_singleton_iff.1 hlocation).1
    have hbelow : location <+: location ++ [name] := List.prefix_append _ _
    rw [install, List.dropLast_concat] at h
    cases hmake : tree.makeDirectories location with
    | error left =>
        rw [hmake] at h
        rw [← Except.error.inj h]
        exact (keepsPlace_of_makeDirectories_error habove hmake place).below hbelow
    | ok changed =>
        obtain ⟨hcanMake, hmade⟩ := made_of_makeDirectories habove hmake
        rw [hmake] at h
        simp only [bind, Except.bind] at h
        split at h
        · simp [pure, Except.pure] at h
        · rw [← Except.error.inj h]
          exact (hmade.keepsPlace hcanMake place).below hbelow

/-- Writing a file changes the file, and there may be new directories above it. -/
theorem Written.keepsPlace (h : tree.Written saved location content)
    (hwritable : tree.Writable location) (hplace : place ≠ location) :
    tree.KeepsPlace saved location place := by
  obtain ⟨location, name, rfl⟩ := (List.eq_nil_or_concat' location).resolve_left hwritable.named
  have hcanMake := hwritable.above
  have hdirectories := h.above
  rw [List.dropLast_concat] at hcanMake hdirectories
  by_cases hprefix : place <+: location ++ [name]
  · have habove := (List.prefix_concat_iff.1 hprefix).resolve_left hplace
    exact (hcanMake.keepsPlace habove (hdirectories place habove)).below (List.prefix_append _ _)
  · exact .inl (h.others place hprefix)

end TextureCatalog.Files.Tree
