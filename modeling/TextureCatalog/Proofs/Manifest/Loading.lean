import TextureCatalog.Proofs.Json.Writing
import TextureCatalog.Proofs.Manifest.Messages

/-!
# What loading a manifest gives

The content of a file is a manifest or it has a fault.  All faults but one are found by the decoder,
by the reader or by a check, and their messages can be shown.  The exception is an integer with
more digits than are ever read, which the reader does not get past.
-/

namespace TextureCatalog.Manifest

open Document (Members)

variable {content : List UInt8}

/-! ## Contents -/

/-- The content of a file is text, and JSON up to an integer with more digits than are ever read. -/
def HoldsLongNumeral (content : List UInt8) : Prop :=
  ∃ text, Text.Utf8.decode content = .ok text ∧ Json.MeetsLongNumeral (Text.unifyNewlines text)

/-- The ways in which the content of a file is no manifest although the reader gets past it. -/
inductive Flawed (content : List UInt8) : ContentFault → Prop
  | undecodable {fault : Text.Utf8.Fault} :
      Text.Utf8.decode content = .error fault → Flawed content (.undecodable fault)
  | malformed {text : List Char} {problem : Json.Problem} {remaining : Nat} :
      Text.Utf8.decode content = .ok text →
      Json.read (Text.unifyNewlines text) = .error (.malformed problem remaining) →
      Flawed content (.malformed (.of (Text.unifyNewlines text) problem remaining))
  | invalid {text : List Char} {document : Document} {violation : Violation} :
      Text.Utf8.decode content = .ok text → Json.Means (Text.unifyNewlines text) document →
      materialOfDocument document = .error violation → Flawed content (.invalid violation)

/-- The content of a file is JSON, and a manifest of a material. -/
def Holds (content : List UInt8) (material : Material) : Prop :=
  ∃ text document, Text.Utf8.decode content = .ok text ∧
    Json.Means (Text.unifyNewlines text) document ∧ materialOfDocument document = .ok material

/-- What becomes of the content of a file. -/
theorem materialOfBytes_cases (content : List UInt8) :
    (∃ material, Holds content material ∧ materialOfBytes content = .ok material) ∨
    (∃ fault, Flawed content fault ∧ materialOfBytes content = .error fault) ∨
    (HoldsLongNumeral content ∧ materialOfBytes content = .error .numeralTooLong) := by
  rw [materialOfBytes]
  cases hdecode : Text.Utf8.decode content with
  | error fault => exact .inr (.inl ⟨_, .undecodable hdecode, rfl⟩)
  | ok text =>
      obtain ⟨problem, remaining, hread⟩ | ⟨document, hmeans, hread⟩ | ⟨hlong, hread⟩ :=
        Json.read_cases (Text.unifyNewlines text)
      · simp only [hread]
        exact .inr (.inl ⟨_, .malformed hdecode hread, rfl⟩)
      · simp only [hread]
        cases hmaterial : materialOfDocument document with
        | error violation => exact .inr (.inl ⟨_, .invalid hdecode hmeans hmaterial, rfl⟩)
        | ok material => exact .inl ⟨material, ⟨text, document, hdecode, hmeans, hmaterial⟩, rfl⟩
      · refine .inr (.inr ⟨⟨text, hdecode, hlong⟩, ?_⟩)
        simp only [hread]

theorem Flawed.ne_numeralTooLong {fault : ContentFault} (h : Flawed content fault) :
    fault ≠ .numeralTooLong := by
  cases h <;> simp

theorem materialOfBytes_eq_numeralTooLong_iff :
    materialOfBytes content = .error .numeralTooLong ↔ HoldsLongNumeral content := by
  constructor
  · intro h
    obtain ⟨_, _, heq⟩ | ⟨fault, hflawed, heq⟩ | ⟨hlong, _⟩ := materialOfBytes_cases content
    · exact absurd (h.symm.trans heq) (by simp)
    · exact absurd (Except.error.inj (heq.symm.trans h)) hflawed.ne_numeralTooLong
    · exact hlong
  · rintro ⟨text, hdecode, hlong⟩
    have hread := Json.read_eq_numeralTooLong_iff.2 hlong
    simp only [materialOfBytes, hdecode, hread]

theorem holds_of_materialOfBytes {material : Material}
    (h : materialOfBytes content = .ok material) : Holds content material := by
  obtain ⟨other, hholds, heq⟩ | ⟨_, _, heq⟩ | ⟨_, heq⟩ := materialOfBytes_cases content
  · obtain rfl := Except.ok.inj (h.symm.trans heq)
    exact hholds
  · exact absurd (h.symm.trans heq) (by simp)
  · exact absurd (h.symm.trans heq) (by simp)

/-- The message about a flaw is plain if the path of the file is. -/
theorem Flawed.isPlain_message {fault : ContentFault} (h : Flawed content fault) {path : Files.Path}
    (hpath : IsPlain path.toText) : IsPlain (Fault.content path fault).message := by
  have hinvalid : IsPlain "Invalid manifest " := isPlain_literal (by decide +kernel)
  have hcolon : IsPlain ": " := isPlain_literal (by decide)
  cases h with
  | @undecodable fault _ =>
      exact ((hinvalid.append hpath).append hcolon).append fault.isPlain_message
  | malformed _ _ =>
      exact ((hinvalid.append hpath).append hcolon).append (Json.Placed.isPlain_message _)
  | invalid _ _ hviolation => exact isPlain_message_of_materialOfDocument hviolation

/-! ## Files -/

/-- A path leads to a file with some content. -/
structure LeadsToFile (tree : Files.Tree) (surroundings : Files.Surroundings)
    (path target : Files.Path) (content : List UInt8) : Prop where
  expanded : path.expandHome surroundings = .ok target
  noNul : '\x00' ∉ target.toText.toList
  reached : tree.reach target surroundings.workingDirectory = .ok (.file content)

variable {tree : Files.Tree} {surroundings : Files.Surroundings} {path target : Files.Path}

theorem LeadsToFile.load_eq (h : LeadsToFile tree surroundings path target content) :
    load tree surroundings path = (materialOfBytes content).mapError (.content target) := by
  simp only [load, h.expanded, h.reached, if_neg h.noNul]
  cases materialOfBytes content <;> rfl

/-- A path leads to one file only. -/
theorem LeadsToFile.content_eq {other : Files.Path} {otherContent : List UInt8}
    (h : LeadsToFile tree surroundings path target content)
    (hother : LeadsToFile tree surroundings path other otherContent) : otherContent = content := by
  obtain rfl := Except.ok.inj (h.expanded.symm.trans hother.expanded)
  have hfile := Except.ok.inj (h.reached.symm.trans hother.reached)
  cases hfile
  rfl

/-- A material is loaded, and the strings of its file are texts: no surrogate in them is without its
partner. -/
structure LoadsTexts (tree : Files.Tree) (surroundings : Files.Surroundings) (path : Files.Path)
    (material : Material) : Prop where
  load_eq : load tree surroundings path = .ok material
  paired : ∀ target content text, LeadsToFile tree surroundings path target content →
    Text.Utf8.decode content = .ok text → Json.PairsSurrogates (Text.unifyNewlines text)

/-- A material is loaded from a file that holds it. -/
theorem exists_leadsToFile_of_load {material : Material}
    (h : load tree surroundings path = .ok material) :
    ∃ target content, LeadsToFile tree surroundings path target content ∧
      Holds content material := by
  unfold load at h
  split at h <;> try cases h
  next target hexpanded =>
  split_ifs at h with hnul
  split at h <;> try cases h
  next content hreached =>
  split at h <;> cases h
  next hmaterial =>
  exact ⟨target, content, ⟨hexpanded, hnul, hreached⟩, holds_of_materialOfBytes hmaterial⟩

/-! ## Loaded textures -/

/-- The numbers of a texture have numerals, and its compression label is one of the labels. -/
structure IsSound (texture : Texture) : Prop where
  width : Text.isWritable texture.width = true
  height : Text.isWritable texture.height = true
  quality : Text.isWritable texture.importInfo.crunchQuality = true
  label : texture.importInfo.compressionLabel = "" ∨
    ∃ setting : Compression, texture.importInfo.compressionLabel = setting.label

theorem legible_of_get? {members : Members} (h : Json.Legible (.table members)) {key : String}
    {document : Document} (hget : members.get? key = some document) : Json.Legible document := by
  cases h with
  | table hmembers =>
      rw [Members.get?, Option.map_eq_some_iff] at hget
      obtain ⟨member, hfind, rfl⟩ := hget
      exact hmembers member (List.mem_reverse.1 (List.mem_of_find?_eq_some hfind))

theorem isWritable_integerOf {members : Members} (h : Json.Legible (.table members))
    {default : Int} (hdefault : Text.isWritable default = true) (key : String) :
    Text.isWritable (integerOf default (members.get? key)) = true := by
  rw [integerOf.eq_def]
  split
  · next value hget =>
      cases legible_of_get? h hget with
      | integer hvalue => exact hvalue
  · exact hdefault

theorem isWritable_zero : Text.isWritable 0 = true := by decide +kernel

theorem isWritable_fifty : Text.isWritable 50 = true := by decide +kernel

/-- What is derived from names has no influence on quality and compression. -/
theorem derive_eq_or (name assetPath : String) (importer : Option Importer) :
    ImportInfo.derive name assetPath importer = {} ∨
      ((ImportInfo.derive name assetPath importer).crunchQuality =
          (ImportInfo.ofImporter importer).crunchQuality ∧
        (ImportInfo.derive name assetPath importer).compressionLabel =
          (ImportInfo.ofImporter importer).compressionLabel) := by
  simp only [ImportInfo.derive]
  split_ifs
  · exact .inl rfl
  · exact .inr ⟨rfl, rfl⟩
  · exact .inr ⟨rfl, rfl⟩

theorem ofImporter_of_legible {members : Members} (h : Json.Legible (.table members)) :
    Text.isWritable (ImportInfo.ofImporter (importerOf? (members.get? "importer"))).crunchQuality =
        true ∧
      ((ImportInfo.ofImporter (importerOf? (members.get? "importer"))).compressionLabel = "" ∨
        ∃ setting : Compression,
          (ImportInfo.ofImporter (importerOf? (members.get? "importer"))).compressionLabel =
            setting.label) := by
  rw [importerOf?.eq_def]
  split
  · next importer hget =>
      refine ⟨isWritable_integerOf (legible_of_get? h hget) isWritable_fifty _, ?_⟩
      simp only [ImportInfo.ofImporter]
      cases (importerOf importer).compression with
      | none => exact .inl rfl
      | some setting => exact .inr ⟨setting, rfl⟩
  · exact ⟨isWritable_zero, .inl rfl⟩

theorem isSound_textureOf {slot members : Members} (h : Json.Legible (.table members)) :
    IsSound (textureOf slot members) := by
  obtain ⟨hquality, hlabel⟩ := ofImporter_of_legible h
  have hwidth := isWritable_integerOf h isWritable_zero "width"
  have hheight := isWritable_integerOf h isWritable_zero "height"
  obtain hnone | ⟨hsame, hsameLabel⟩ := derive_eq_or (textOf "" (members.get? "name"))
    (textOf "" (members.get? "path")) (importerOf? (members.get? "importer"))
  · refine ⟨hwidth, hheight, ?_, .inl ?_⟩ <;> rw [textureOf, hnone]
    exact isWritable_zero
  · exact ⟨hwidth, hheight, hsame ▸ hquality, hsameLabel ▸ hlabel⟩

theorem exists_of_mem_textures {document : Document} {texture : Texture}
    (h : texture ∈ (materialOf document).textures) :
    ∃ members slot inner, document = .table members ∧ .table slot ∈ slotsOf members ∧
      Members.get? slot "texture" = some (.table inner) ∧
      texture = textureOf slot inner := by
  cases document with
  | table members =>
      obtain ⟨slot, hslot, htexture⟩ := List.mem_filterMap.1 h
      unfold textureOfSlot? at htexture
      split at htexture <;> try cases htexture
      next slot =>
      split at htexture <;> cases htexture
      next texture hget => exact ⟨members, slot, texture, rfl, hslot, hget, rfl⟩
  | _ => simp [materialOf] at h

/-- The textures of a material that was loaded are sound. -/
theorem isSound_of_load {material : Material} (h : load tree surroundings path = .ok material) :
    ∀ texture ∈ material.textures, IsSound texture := by
  intro texture htexture
  obtain ⟨_, _, -, text, document, -, ⟨_, _, _, -, -, hspells, -⟩, hmaterial⟩ :=
    exists_leadsToFile_of_load h
  have hlegible : Json.Legible document := hspells.isLegible
  rw [materialOfDocument_eq_outcome, outcome] at hmaterial
  split at hmaterial <;> cases hmaterial
  obtain ⟨members, slot, inner, rfl, hslot, hget, rfl⟩ := exists_of_mem_textures htexture
  refine isSound_textureOf (legible_of_get? ?_ hget)
  rw [slotsOf] at hslot
  split at hslot
  · next slots hslots =>
      cases legible_of_get? hlegible hslots with
      | list hitems => exact hitems _ hslot
  · cases hslot

end TextureCatalog.Manifest
