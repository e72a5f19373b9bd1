import TextureCatalog.Proofs.Settings.Outcomes
import TextureCatalog.Proofs.Settings.Saving
import TextureCatalog.Settings.Template

/-!
# The file to begin with says the defaults

The text that a user is given to edit is read as the settings that apply without it, so nothing
changes before it is edited.
-/

namespace TextureCatalog.Settings

variable {settings : Settings} {other source : Files.Path} {content : List UInt8}

/-! ## The same settings from another place -/

theorem ofDocument_of_other {members : Document.Members}
    (h : ofDocument members other = .ok settings) (source : Files.Path) :
    ofDocument members source = .ok { settings with source := some source } := by
  rw [ofDocument_eq] at h ⊢
  split at h
  · cases h
  · rw [← Except.ok.inj h]
    rfl

/-- A content gives settings through a text and a document. -/
theorem ofBytes_eq_ok_iff :
    ofBytes content source = .ok settings ↔
      ∃ text members, Text.Utf8.decode content = .ok text ∧
        Toml.read (Text.dropReturns text) = .ok members ∧
        ofDocument members source = .ok settings := by
  constructor
  · intro h
    simp only [ofBytes] at h
    split at h
    · cases h
    · next text hdecode =>
        split at h
        · cases h
        · cases h
        · next members hread =>
            split at h
            · cases h
            · next found hmembers =>
                exact ⟨text, members, hdecode, hread, hmembers.trans (congrArg _ (Except.ok.inj h))⟩
  · rintro ⟨text, members, hdecode, hread, hmembers⟩
    simp only [ofBytes, hdecode, hread, hmembers]

/-- A content gives the same settings wherever it is found, but for the place itself. -/
theorem ofBytes_of_other (h : ofBytes content other = .ok settings) (source : Files.Path) :
    ofBytes content source = .ok { settings with source := some source } := by
  obtain ⟨text, members, hdecode, hread, hmembers⟩ := ofBytes_eq_ok_iff.1 h
  exact ofBytes_eq_ok_iff.2 ⟨text, members, hdecode, hread, ofDocument_of_other hmembers source⟩

/-! ## The text to begin with -/

theorem ofBytes_encode_template (source : Files.Path) :
    ofBytes (Text.Utf8.encode template) source = .ok { source := some source } := by
  have hsomewhere : ofBytes (Text.Utf8.encode template) {} = .ok { source := some {} } := by
    decide +kernel
  exact ofBytes_of_other hsomewhere source

variable {surroundings : Files.Surroundings} {path : Option Files.Path}
  {location : Files.Location} {tree : Files.Tree}

/-- A file with that text is loaded as the default settings, without a warning. -/
theorem load_of_template (hlocate : locate surroundings path = .ok location)
    (hreach : tree.reachLocation location = .ok (.file (Text.Utf8.encode template))) :
    load tree surroundings path = .ok ({ source := some (.ofLocation location) }, []) := by
  rw [load_of_ofBytes hlocate hreach (ofBytes_encode_template _)]
  rfl

end TextureCatalog.Settings
