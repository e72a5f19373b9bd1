import Mathlib.Data.List.Induction
import TextureCatalog.Files.Tree
import TextureCatalog.Proofs.Text.Pieces

/-!
# Reaching locations

To which locations paths lead, and what is found there, told from the entry above: the location
above is reached first, has to be a directory, and holds an entry of the last name or none.
-/

namespace TextureCatalog.Files

/-! ## Resolved paths -/

/-- Locations as they are met in a file tree: no name is a step up, and none holds a NUL. -/
def IsProper (location : Location) : Prop :=
  ∀ name ∈ location, name ≠ ".." ∧ '\x00' ∉ name.toList

theorem IsProper.not_mem {location : Location} (h : IsProper location) : ".." ∉ location :=
  fun hmem => (h _ hmem).1 rfl

theorem isProper_follow {place : Location} (hplace : IsProper place) {names : List String}
    (hnames : ∀ name ∈ names, '\x00' ∉ name.toList) : IsProper (Path.follow place names) := by
  induction names generalizing place with
  | nil => exact hplace
  | cons name names ih =>
      rw [Path.follow, List.foldl_cons, ← Path.follow]
      apply ih _ fun other hother => hnames other (List.mem_cons_of_mem _ hother)
      split
      · exact fun other hother => hplace other (List.dropLast_subset _ hother)
      · next hup =>
          intro other hother
          rcases List.mem_append.1 hother with hbefore | hlast
          · exact hplace other hbefore
          · rw [List.mem_singleton.1 hlast]
            exact ⟨hup, hnames name List.mem_cons_self⟩

/-- A path without NULs is resolved to a proper location. -/
theorem isProper_resolve {path : Path} {workingDirectory : Location}
    (hworking : IsProper workingDirectory) (hnames : ∀ name ∈ path.names, '\x00' ∉ name.toList) :
    IsProper (path.resolve workingDirectory) := by
  have hroot : IsProper [] := by simp [IsProper]
  rw [Path.resolve.eq_def]
  split
  · exact isProper_follow hworking hnames
  · exact isProper_follow hroot hnames

theorem follow_of_not_mem {names : List String} (h : ".." ∉ names) (place : Location) :
    Path.follow place names = place ++ names := by
  induction names generalizing place with
  | nil => simp [Path.follow]
  | cons name names ih =>
      have hname : name ≠ ".." := fun hsame => h (hsame ▸ List.mem_cons_self)
      rw [Path.follow, List.foldl_cons, if_neg hname, ← Path.follow,
        ih fun hmem => h (List.mem_cons_of_mem _ hmem), List.append_assoc, List.singleton_append]

/-- The path of a proper location is resolved to that location. -/
theorem IsProper.resolve_ofLocation {location : Location} (h : IsProper location)
    (workingDirectory : Location) :
    (Path.ofLocation location).resolve workingDirectory = location :=
  follow_of_not_mem h.not_mem []

theorem not_mem_append_singleton_iff {location : Location} {name : String} :
    ".." ∉ location ++ [name] ↔ ".." ∉ location ∧ name ≠ ".." := by
  simp [eq_comm]

/-! ## Lengths of paths -/

theorem byteLength_ofList_append (left right : List Char) :
    byteLength (String.ofList (left ++ right)) =
      byteLength (String.ofList left) + byteLength (String.ofList right) := by
  simp [byteLength, Text.Utf8.encode]

theorem toText_ofLocation (location : Location) :
    (Path.ofLocation location).toText =
      String.ofList ('/' :: Text.joinWith ['/'] (location.map (·.toList))) := by
  rw [Path.toText, if_neg (by simp [Path.ofLocation])]
  rfl

/-- A location below another one has the longer path. -/
theorem byteLength_toText_le (location : Location) (name : String) :
    byteLength (Path.ofLocation location).toText ≤
      byteLength (Path.ofLocation (location ++ [name])).toText := by
  obtain ⟨added, hadded⟩ :=
    Text.exists_joinWith_append_singleton ['/'] (location.map (·.toList)) name.toList
  rw [toText_ofLocation, toText_ofLocation, List.map_append, List.map_singleton, hadded,
    ← List.cons_append, byteLength_ofList_append]
  exact Nat.le_add_right _ _

/-- A location whose path is short enough to be looked up. -/
def FitsPath (location : Location) : Prop :=
  byteLength (Path.ofLocation location).toText ≤ pathLimit

theorem FitsPath.above {location : Location} {name : String} (h : FitsPath (location ++ [name])) :
    FitsPath location :=
  Nat.le_trans (byteLength_toText_le location name) h

/-- The names along a location are short enough to be looked up. -/
def FitNames (location : Location) : Prop :=
  ∀ name ∈ location, byteLength name ≤ nameLimit

theorem fitNames_append_singleton_iff {location : Location} {name : String} :
    FitNames (location ++ [name]) ↔ FitNames location ∧ byteLength name ≤ nameLimit := by
  simp [FitNames, or_imp, forall_and]

namespace Tree

/-! ## One name further -/

/-- A way that goes one name further first reaches the place before. -/
theorem walk_append_singleton (tree : Tree) (here : Location) (names : List String)
    {name : String} (hname : name ≠ "..") :
    tree.walk here (names ++ [name]) =
      match tree.walk here names with
      | .error fault => .error fault
      | .ok (_, .file _) => .error .notADirectory
      | .ok (place, .directory) =>
        if nameLimit < byteLength name then .error .nameTooLong
        else
          match tree.get? (place ++ [name]) with
          | none => .error .notFound
          | some entry => .ok (place ++ [name], entry) := by
  induction names generalizing here with
  | nil =>
      rw [List.nil_append, walk]
      simp only [hname, if_false, walk]
      cases tree.get? here with
      | none => rfl
      | some entry => cases entry <;> rfl
  | cons first names ih =>
      simp only [List.cons_append, walk]
      cases tree.get? here with
      | none => rfl
      | some entry =>
          cases entry with
          | file content => rfl
          | directory =>
              by_cases hup : first = ".."
              · simp only [hup, if_true, ih]
              · by_cases hlong : nameLimit < byteLength first
                · simp only [hup, hlong, if_true, if_false]
                · simp only [hup, hlong, if_false, ih]

/-- A way without steps up leads to the place with the names of the way. -/
theorem place_of_walk {tree : Tree} {here place : Location} {names : List String} {entry : Entry}
    (hnames : ".." ∉ names) (h : tree.walk here names = .ok (place, entry)) :
    place = here ++ names := by
  induction names generalizing here with
  | nil =>
      rw [walk] at h
      cases hentry : tree.get? here with
      | none => simp [hentry] at h
      | some found =>
          simp only [hentry, Except.ok.injEq, Prod.mk.injEq] at h
          rw [List.append_nil, h.1]
  | cons first names ih =>
      have hfirst : first ≠ ".." := fun hsame => hnames (hsame ▸ List.mem_cons_self)
      rw [walk] at h
      split at h
      · simp at h
      · simp at h
      · rw [if_neg hfirst] at h
        split at h
        · simp at h
        · rw [ih (fun hmem => hnames (List.mem_cons_of_mem _ hmem)) h, List.append_assoc]
          rfl

theorem reachLocation_of_fits {tree : Tree} {location : Location} (h : FitsPath location) :
    tree.reachLocation location = (tree.walk [] location).map (·.2) :=
  if_neg (Nat.not_lt_of_le h)

theorem fits_of_reachLocation {tree : Tree} {location : Location}
    (h : tree.reachLocation location ≠ .error .nameTooLong) : FitsPath location := by
  rw [FitsPath, ← Nat.not_lt]
  exact fun hlong => h (if_pos hlong)

theorem reachLocation_root (tree : Tree) : tree.reachLocation [] = .ok .directory := by
  rw [reachLocation_of_fits (by unfold FitsPath; decide)]
  rfl

variable {tree : Tree} {location : Location} {name : String}

/-- What is at a location, told from what is at the one above it. -/
theorem reachLocation_append_singleton (hlocation : ".." ∉ location) (hname : name ≠ "..")
    (hfits : FitsPath (location ++ [name])) :
    tree.reachLocation (location ++ [name]) =
      match tree.reachLocation location with
      | .error fault => .error fault
      | .ok (.file _) => .error .notADirectory
      | .ok .directory =>
        if nameLimit < byteLength name then .error .nameTooLong
        else
          match tree.get? (location ++ [name]) with
          | none => .error .notFound
          | some entry => .ok entry := by
  rw [reachLocation_of_fits hfits, reachLocation_of_fits hfits.above,
    walk_append_singleton tree [] location hname]
  cases hwalk : tree.walk [] location with
  | error fault => rfl
  | ok reached =>
      obtain ⟨place, entry⟩ := reached
      have hplace := place_of_walk hlocation hwalk
      rw [List.nil_append] at hplace
      subst hplace
      cases entry with
      | file content => rfl
      | directory =>
          by_cases hlong : nameLimit < byteLength name
          · simp only [Except.map, hlong, if_true]
          · simp only [Except.map, hlong, if_false]
            cases tree.get? (place ++ [name]) <;> rfl

/-! ## Directories all the way -/

/-- A location is a directory, and so is everything above it. -/
def IsDirectoryPath (tree : Tree) (location : Location) : Prop :=
  ∀ place, place <+: location → tree.get? place = some .directory

theorem isDirectoryPath_nil (tree : Tree) : tree.IsDirectoryPath [] := by
  intro place hplace
  rw [List.prefix_nil.1 hplace]
  rfl

theorem isDirectoryPath_append_singleton_iff :
    tree.IsDirectoryPath (location ++ [name]) ↔
      tree.IsDirectoryPath location ∧ tree.get? (location ++ [name]) = some .directory := by
  constructor
  · intro h
    exact ⟨fun place hplace => h place (hplace.trans (List.prefix_append _ _)),
      h _ (List.prefix_refl _)⟩
  · rintro ⟨hlocation, hlast⟩ place hplace
    rcases List.prefix_concat_iff.1 hplace with rfl | habove
    · exact hlast
    · exact hlocation place habove

/-- What is above a location that can be reached, and what is there itself. -/
theorem reachLocation_append_singleton_eq_ok_iff {entry : Entry} (hlocation : ".." ∉ location)
    (hname : name ≠ "..") :
    tree.reachLocation (location ++ [name]) = .ok entry ↔
      FitsPath (location ++ [name]) ∧ tree.reachLocation location = .ok .directory ∧
        byteLength name ≤ nameLimit ∧ tree.get? (location ++ [name]) = some entry := by
  constructor
  · intro h
    have hfits := fits_of_reachLocation (by rw [h]; simp)
    rw [reachLocation_append_singleton hlocation hname hfits] at h
    split at h
    · simp at h
    · simp at h
    · next hreach =>
        split at h
        · simp at h
        · next hshort =>
            split at h
            · simp at h
            · next hentry =>
                rw [Except.ok.inj h] at hentry
                exact ⟨hfits, hreach, Nat.le_of_not_lt hshort, hentry⟩
  · rintro ⟨hfits, hreach, hshort, hentry⟩
    rw [reachLocation_append_singleton hlocation hname hfits, hreach]
    simp only [Nat.not_lt.2 hshort, if_false, hentry]

/-- A directory is found exactly where everything above is one, if names and path are short
enough. -/
theorem reachLocation_eq_directory_iff (hlocation : ".." ∉ location) :
    tree.reachLocation location = .ok .directory ↔
      FitsPath location ∧ FitNames location ∧ tree.IsDirectoryPath location := by
  induction location using List.reverseRecOn with
  | nil =>
      refine iff_of_true (reachLocation_root tree) ⟨by unfold FitsPath; decide, ?_, ?_⟩
      · simp [FitNames]
      · exact isDirectoryPath_nil tree
  | append_singleton location name ih =>
      obtain ⟨habove, hname⟩ := not_mem_append_singleton_iff.1 hlocation
      rw [reachLocation_append_singleton_eq_ok_iff habove hname, ih habove,
        fitNames_append_singleton_iff, isDirectoryPath_append_singleton_iff]
      constructor
      · rintro ⟨hfits, ⟨-, hnames, hpath⟩, hshort, hentry⟩
        exact ⟨hfits, ⟨hnames, hshort⟩, hpath, hentry⟩
      · rintro ⟨hfits, ⟨hnames, hshort⟩, hpath, hentry⟩
        exact ⟨hfits, ⟨hfits.above, hnames, hpath⟩, hshort, hentry⟩

/-- Nothing is found exactly below what is missing itself, or in a directory without an entry of the
last name. -/
theorem reachLocation_append_singleton_eq_notFound_iff (hlocation : ".." ∉ location)
    (hname : name ≠ "..") :
    tree.reachLocation (location ++ [name]) = .error .notFound ↔
      FitsPath (location ++ [name]) ∧
        (tree.reachLocation location = .error .notFound ∨
          tree.reachLocation location = .ok .directory ∧ byteLength name ≤ nameLimit ∧
            tree.get? (location ++ [name]) = none) := by
  constructor
  · intro h
    have hfits := fits_of_reachLocation (by rw [h]; simp)
    rw [reachLocation_append_singleton hlocation hname hfits] at h
    refine ⟨hfits, ?_⟩
    split at h
    · next fault hreach => exact Or.inl (by rw [hreach, Except.error.inj h])
    · simp at h
    · next hreach =>
        split at h
        · simp at h
        · next hshort =>
            split at h
            · next hentry => exact Or.inr ⟨hreach, Nat.le_of_not_lt hshort, hentry⟩
            · simp at h
  · rintro ⟨hfits, hreach | ⟨hreach, hshort, hentry⟩⟩
    · rw [reachLocation_append_singleton hlocation hname hfits, hreach]
    · rw [reachLocation_append_singleton hlocation hname hfits, hreach]
      simp only [Nat.not_lt.2 hshort, if_false, hentry]

/-- Nothing is found in a directory exactly where it has no entry. -/
theorem notFound_below_directory_iff (hlocation : ".." ∉ location) (hname : name ≠ "..") :
    tree.reachLocation (location ++ [name]) = .error .notFound ∧
        tree.reachLocation location = .ok .directory ↔
      FitsPath (location ++ [name]) ∧ FitNames (location ++ [name]) ∧
        tree.IsDirectoryPath location ∧ tree.get? (location ++ [name]) = none := by
  rw [reachLocation_append_singleton_eq_notFound_iff hlocation hname,
    fitNames_append_singleton_iff]
  constructor
  · rintro ⟨⟨hfits, hmissing | ⟨-, hshort, hnone⟩⟩, hreach⟩
    · rw [hreach] at hmissing
      exact absurd hmissing (by simp)
    · obtain ⟨-, hnames, hpath⟩ := (reachLocation_eq_directory_iff hlocation).1 hreach
      exact ⟨hfits, ⟨hnames, hshort⟩, hpath, hnone⟩
  · rintro ⟨hfits, ⟨hnames, hshort⟩, hpath, hnone⟩
    have hreach := (reachLocation_eq_directory_iff hlocation).2 ⟨hfits.above, hnames, hpath⟩
    exact ⟨⟨hfits, Or.inr ⟨hreach, hshort, hnone⟩⟩, hreach⟩

end Tree

end TextureCatalog.Files
