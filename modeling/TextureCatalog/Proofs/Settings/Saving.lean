import TextureCatalog.Proofs.Files.Writing
import TextureCatalog.Proofs.Text.Utf8
import TextureCatalog.Proofs.Toml.Sections
import TextureCatalog.Settings.Storage

/-!
# Saved settings are loaded again

Settings are saved as two sections of a TOML text, whose reading gives them back, and to a location
that leads to the same file when it is loaded and when it is saved again.
-/

namespace TextureCatalog.Settings

variable {settings : Settings}

/-! ## The text -/

/-- Settings whose numbers are short enough to be written. -/
structure IsWritable (settings : Settings) : Prop where
  minResolution : Text.isWritable settings.minResolution = true
  maxResolution : Text.isWritable settings.maxResolution = true

theorem Key.isBare_name (key : Key) : Toml.IsBare key.name := by
  cases key <;> decide

theorem isBare_sectionName (key : Key) : Toml.IsBare key.sectionName := by
  cases key <;> decide

theorem sections_readable (h : settings.IsWritable) :
    ∀ table ∈ settings.sections, table.IsReadable := by
  have hkeys := Key.isBare_name
  unfold sections
  rintro table htable
  rcases List.mem_cons.1 htable with rfl | hfilters
  · constructor
    · exact isBare_sectionName .coloredOutput
    · simp [hkeys]
    · simp [Toml.Scalar.IsReadable]
    · simp
  rw [List.mem_singleton] at hfilters
  subst hfilters
  constructor
  · exact isBare_sectionName .format
  · cases settings.format.isEmpty <;> simp [hkeys]
  · cases settings.format.isEmpty <;>
      simp [Toml.Scalar.IsReadable, h.minResolution, h.maxResolution]
  · cases settings.format.isEmpty <;> simp [Key.name]

theorem sections_nodup (settings : Settings) :
    (settings.sections.map Toml.Section.name).Nodup := by
  simp [sections]

/-- What the sections hold under a key. -/
def stored (settings : Settings) : Key → Option Document
  | .coloredOutput => some (.boolean settings.coloredOutput)
  | .minResolution => some (.integer settings.minResolution)
  | .maxResolution => some (.integer settings.maxResolution)
  | .colorSpace => some (.text settings.colorSpace.name)
  | .format => if settings.format.isEmpty then none else some (.text settings.format)

theorem valueIn_sections (settings : Settings) (key : Key) :
    valueIn (Document.Members.get? (settings.sections.map Toml.Section.toMember) key.sectionName)
      key = .ok (settings.stored key) := by
  unfold sections stored
  cases settings.format.isEmpty <;> cases key <;> rfl

/-- An empty format is left out, and is the default. -/
theorem readWith_stored_format (settings : Settings) :
    readWith .format "" text? (settings.stored .format) = .ok settings.format := by
  unfold stored
  by_cases hempty : settings.format.isEmpty = true
  · have hformat : settings.format = "" := by simpa using hempty
    rw [if_pos hempty, hformat]
    rfl
  · rw [if_neg hempty]
    rfl

theorem readWith_stored_colorSpace (settings : Settings) :
    readWith .colorSpace .all colorSpace? (settings.stored .colorSpace) =
      .ok settings.colorSpace := by
  simp only [readWith, stored, colorSpace?, ColorSpace.ofName?_name]

/-- The members of the sections are read as the settings. -/
theorem ofDocument_sections (settings : Settings) (source : Files.Path) :
    ofDocument (settings.sections.map Toml.Section.toMember) source =
      .ok { settings with source := some source } := by
  have hcolored := valueIn_sections settings .coloredOutput
  have hmin := valueIn_sections settings .minResolution
  have hmax := valueIn_sections settings .maxResolution
  have hcolorSpace := valueIn_sections settings .colorSpace
  have hformat := valueIn_sections settings .format
  simp only [Key.sectionName] at hcolored hmin hmax hcolorSpace hformat
  simp only [ofDocument, hcolored, hmin, hmax, hcolorSpace, hformat, bind, Except.bind,
    readWith_stored_colorSpace, readWith_stored_format]
  rfl

theorem dropReturns_of_not_mem {text : List Char} (h : '\r' ∉ text) :
    Text.dropReturns text = text := by
  induction text with
  | nil => rfl
  | cons c text ih =>
      have hc : c ≠ '\r' := fun hsame => h (hsame ▸ List.mem_cons_self)
      rw [Text.dropReturns, ih fun hmem => h (List.mem_cons_of_mem _ hmem)]
      exact fun rest heq => absurd heq hc

/-- The bytes of a settings file are read as the settings. -/
theorem ofBytes_encode_toToml (h : settings.IsWritable) (source : Files.Path) :
    ofBytes (Text.Utf8.encode settings.toToml) source =
      .ok { settings with source := some source } := by
  have hreadable := sections_readable h
  have hreturns : Text.dropReturns settings.toToml = settings.toToml :=
    dropReturns_of_not_mem (Toml.return_not_mem_writeSections hreadable)
  have hread : Toml.read settings.toToml = .ok (settings.sections.map Toml.Section.toMember) :=
    Toml.read_write hreadable settings.sections_nodup
  simp only [ofBytes, Text.Utf8.decode_encode, hreturns, hread, ofDocument_sections]

/-- Warnings about writable settings are shown. -/
theorem withWarnings_of_isWritable (h : settings.IsWritable) :
    settings.withWarnings = .ok (settings, settings.warnings) := by
  have hnumbers : (settings.warnings.all fun warning =>
      warning.numbers.all Text.isWritable) = true := by
    rw [List.all_eq_true]
    intro warning hwarning
    rw [warnings, List.mem_append] at hwarning
    rcases hwarning with hmin | hmax
    · split at hmin
      · rw [List.mem_singleton.1 hmin]
        simp [Warning.numbers, h.minResolution]
      · exact absurd hmin List.not_mem_nil
    · split at hmax
      · rw [List.mem_singleton.1 hmax]
        simp [Warning.numbers, h.minResolution, h.maxResolution]
      · exact absurd hmax List.not_mem_nil
  exact if_pos hnumbers

/-! ## The location -/

variable {surroundings : Files.Surroundings} {path : Option Files.Path} {location : Files.Location}

/-- Settings files lie at proper locations. -/
theorem isProper_of_locate (hworking : Files.IsProper surroundings.workingDirectory)
    (h : locate surroundings path = .ok location) : Files.IsProper location := by
  unfold locate at h
  split at h
  · simp at h
  · split at h
    · simp at h
    · next hnul =>
        rw [← Except.ok.inj h]
        apply Files.isProper_resolve hworking
        simpa using hnul

/-- The path of the location leads to the location. -/
theorem locate_ofLocation (h : Files.IsProper location) (surroundings : Files.Surroundings) :
    locate surroundings (some (.ofLocation location)) = .ok location := by
  have hexpanded : expanded surroundings (some (.ofLocation location)) =
      .ok (.ofLocation location) := rfl
  have hnul : ((Files.Path.ofLocation location).names.any fun name => '\x00' ∈ name.toList) =
      false := by
    rw [List.any_eq_false]
    intro name hname
    simpa using (h name hname).2
  simp only [locate, hexpanded, hnul, h.resolve_ofLocation]
  rfl

/-! ## Saving and loading -/

variable {tree saved : Files.Tree}

theorem save_eq_ok_iff (hlocate : locate surroundings (path.or settings.source) = .ok location) :
    settings.save tree surroundings path = .ok (saved, location) ↔
      tree.install location (Text.Utf8.encode settings.toToml) = .ok saved := by
  simp only [save, hlocate]
  cases tree.install location (Text.Utf8.encode settings.toToml) with
  | error fault => simp
  | ok changed => simp

/-- Settings are saved to exactly the locations to which a file can be written. -/
theorem exists_save_iff (hlocate : locate surroundings (path.or settings.source) = .ok location)
    (hproper : Files.IsProper location) :
    (∃ saved, settings.save tree surroundings path = .ok (saved, location)) ↔
      tree.Writable location := by
  simp only [save_eq_ok_iff hlocate]
  exact ⟨fun ⟨_, h⟩ => (Files.Tree.written_of_install hproper.not_mem h).1,
    fun h => h.exists_install hproper.not_mem _⟩

theorem written_of_save (hlocate : locate surroundings (path.or settings.source) = .ok location)
    (hproper : Files.IsProper location)
    (h : settings.save tree surroundings path = .ok (saved, location)) :
    tree.Writable location ∧
      tree.Written saved location (Text.Utf8.encode settings.toToml) :=
  Files.Tree.written_of_install hproper.not_mem ((save_eq_ok_iff hlocate).1 h)

/-- What a file gives is loaded from it, with the warnings about it. -/
theorem load_of_ofBytes {content : List UInt8}
    (hlocate : locate surroundings path = .ok location)
    (hreach : tree.reachLocation location = .ok (.file content))
    (h : ofBytes content (.ofLocation location) = .ok settings) :
    load tree surroundings path = settings.withWarnings := by
  simp only [load, hlocate, hreach, h]

/-- Settings are loaded from the file that holds their text. -/
theorem load_of_reachLocation (h : settings.IsWritable)
    (hlocate : locate surroundings path = .ok location)
    (hreach : tree.reachLocation location =
      .ok (.file (Text.Utf8.encode settings.toToml))) :
    load tree surroundings path =
      .ok ({ settings with source := some (.ofLocation location) }, settings.warnings) := by
  have hloaded : IsWritable { settings with source := some (.ofLocation location) } :=
    ⟨h.minResolution, h.maxResolution⟩
  rw [load_of_ofBytes hlocate hreach (ofBytes_encode_toToml h _)]
  exact withWarnings_of_isWritable hloaded

/-- Settings can be saved to a path exactly if a file can be written there.  They are then loaded
from that path as they were, but for the path itself, with the same warnings and the same filter;
and what has been loaded is saved, to the path or to where it came from, as the same bytes. -/
theorem load_of_save (hsettings : settings.IsWritable)
    (hworking : Files.IsProper surroundings.workingDirectory) {path : Files.Path}
    (hlocate : locate surroundings (some path) = .ok location) :
    ((∃ saved, settings.save tree surroundings (some path) = .ok (saved, location)) ↔
        tree.Writable location) ∧
      ∀ saved, settings.save tree surroundings (some path) = .ok (saved, location) →
        let loaded : Settings := { settings with source := some (.ofLocation location) }
        saved.get? location = some (.file (Text.Utf8.encode settings.toToml)) ∧
          load saved surroundings (some path) = .ok (loaded, settings.warnings) ∧
          loaded.filter = settings.filter ∧
          ∀ again, again = some path ∨ again = none →
            ∃ resaved, loaded.save saved surroundings again = .ok (resaved, location) ∧
              resaved.get? location = saved.get? location := by
  have hproper := isProper_of_locate hworking hlocate
  refine ⟨exists_save_iff hlocate hproper, fun saved hsave => ?_⟩
  obtain ⟨hwritable, hwritten⟩ := written_of_save hlocate hproper hsave
  intro loaded
  have hreach := hwritten.reachLocation_eq hwritable hproper.not_mem
  refine ⟨hwritten.content, load_of_reachLocation hsettings hlocate hreach, rfl, ?_⟩
  intro again hagain
  have hlocateAgain : locate surroundings (again.or loaded.source) = .ok location := by
    rcases hagain with rfl | rfl
    · exact hlocate
    · exact locate_ofLocation hproper surroundings
  obtain ⟨resaved, hresave⟩ :=
    (exists_save_iff hlocateAgain hproper).2 (hwritten.writable hwritable)
  have hrewritten := (written_of_save hlocateAgain hproper hresave).2
  exact ⟨resaved, hresave, hrewritten.content.trans hwritten.content.symm⟩

/-- A format with marks, a backslash, line ends, a tab, a control character and a letter beyond
ASCII is saved to new directories and loaded again. -/
theorem load_of_save_escaped :
    let settings : Settings :=
      { minResolution := -5, format := "\"dxt\\5\"\r\n\t\x01\x7fé" }
    let surroundings : Files.Surroundings := { workingDirectory := ["work"], home := none }
    let path : Files.Path := .ofText "conf/settings.toml"
    let location : Files.Location := ["work", "conf", "settings.toml"]
    ∃ saved, settings.save {} surroundings (some path) = .ok (saved, location) ∧
      load saved surroundings (some path) =
        .ok ({ settings with source := some (.ofLocation location) }, [.negativeMinimum (-5)]) := by
  intro settings surroundings path location
  have hsettings : settings.IsWritable := ⟨by decide, by decide⟩
  have hworking : Files.IsProper surroundings.workingDirectory := by
    simp [surroundings, Files.IsProper]
  have hlocate : locate surroundings (some path) = .ok location := by rfl
  have hmissing : ∀ place, place ≠ [] → Files.Tree.get? {} place = none := by
    intro place hplace
    simp [Files.Tree.get?, hplace]
  have habove : Files.Tree.CanMake {} location.dropLast := by
    intro place hplace
    by_cases hroot : place = []
    · rw [hroot]
      exact Or.inl rfl
    · exact Or.inr fun below hbelow _ => hmissing below (hbelow.ne_nil hroot)
  have hwritable : Files.Tree.Writable {} location :=
    ⟨by decide, by unfold Files.FitsPath; decide, by unfold Files.FitNames; decide, habove,
      by decide⟩
  obtain ⟨saved, hsave⟩ := (load_of_save hsettings hworking hlocate).1.2 hwritable
  exact ⟨saved, hsave, ((load_of_save hsettings hworking hlocate).2 saved hsave).2.1⟩

end TextureCatalog.Settings
