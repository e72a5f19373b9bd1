import TextureCatalog.Manifest.Schema
import TextureCatalog.Proofs.Document.Pruning

/-!
# Members that a manifest can do without

Members with unknown keys, members that are null and texts that are empty can be left out of a
manifest wherever its schema lets them be absent.  Any number of them can be, on all its levels, and
what is read stays the same, down to the violation that is reported.
-/

namespace TextureCatalog.Manifest

open Document (Members)

/-! ## Pruned manifests -/

/-- The tables that a manifest consists of. -/
inductive Part
  | manifest
  | slot
  | texture
  | importer
  deriving DecidableEq, Repr

/-- The keys that are known in a table. -/
def Part.keys : Part → List String
  | .manifest => ["material", "path", "textures"]
  | .slot => ["property", "display_name", "texture"]
  | .texture => ["name", "path", "width", "height", "format", "id", "importer"]
  | .importer => ["texture_type", "srgb", "crunched", "compression_quality", "compression"]

/-- The keys under which null stands for nothing. -/
def nullKeys : List String :=
  ["path", "display_name", "texture", "format", "id", "importer", "compression"]

/-- The keys under which the empty text stands for nothing. -/
def emptyKeys : List String := ["path", "display_name", "format", "id"]

/-- Whether a value stands for nothing under a key. -/
def isNothing (key : String) : Document → Bool
  | .null => nullKeys.contains key
  | .text text => text.isEmpty && emptyKeys.contains key
  | _ => false

/-- Whether a table can do without a member. -/
def Part.spares (part : Part) (key : String) (value : Document) : Bool :=
  !part.keys.contains key || isNothing key value

/-- The members of a table that are left if those are taken out that are chosen and can be
spared. -/
def Part.remaining (part : Part) (chosen : FieldPath → String → Bool) (field : FieldPath)
    (inside : String → Document → Document) (members : Members) : Members :=
  members.prune (fun key value => chosen field key && part.spares key value) inside

def pruneTable (part : Part) (chosen : FieldPath → String → Bool) (field : FieldPath)
    (inside : String → Document → Document) : Document → Document
  | .table members => .table (part.remaining chosen field inside members)
  | other => other

/-- The change of the value under one key. -/
def insideOf (key : String) (change : Document → Document) (other : String) : Document → Document :=
  if other = key then change else id

section

variable (chosen : FieldPath → String → Bool) (field : FieldPath)

def pruneImporter : Document → Document :=
  pruneTable .importer chosen field fun _ => id

def pruneTexture : Document → Document :=
  pruneTable .texture chosen field
    (insideOf "importer" (pruneImporter chosen (field ++ [.member "importer"])))

def pruneSlot : Document → Document :=
  pruneTable .slot chosen field
    (insideOf "texture" (pruneTexture chosen (field ++ [.member "texture"])))

/-- The slots are pruned one by one, from the one with a given index on. -/
def pruneSlots (index : Nat) : List Document → List Document
  | [] => []
  | slot :: slots =>
    pruneSlot chosen [.member "textures", .item index] slot :: pruneSlots (index + 1) slots

def pruneList : Document → Document
  | .list slots => .list (pruneSlots chosen 0 slots)
  | other => other

/-- Leaves out all members of a manifest that are chosen, each by the place of its table and by its
key, and that can be spared. -/
def prune : Document → Document :=
  pruneTable .manifest chosen [] (insideOf "textures" (pruneList chosen))

end

/-! ## Looking up what remains -/

theorem eq_of_spares {part : Part} {key : String} {value : Document} (hkey : key ∈ part.keys)
    (h : part.spares key value = true) :
    value = .null ∧ key ∈ nullKeys ∨ value = .text "" ∧ key ∈ emptyKeys := by
  rw [Part.spares, List.contains_iff_mem.2 hkey, Bool.not_true, Bool.false_or] at h
  cases value with
  | null => exact .inl ⟨rfl, List.contains_iff_mem.1 h⟩
  | text text =>
      rw [isNothing, Bool.and_eq_true, String.isEmpty_iff, List.contains_iff_mem] at h
      exact .inr ⟨h.1 ▸ rfl, h.2⟩
  | _ => cases h

/-- A known key under which every value stands for something. -/
def Part.Requires (part : Part) (key : String) : Prop :=
  key ∈ part.keys ∧ key ∉ nullKeys ∧ key ∉ emptyKeys

instance (part : Part) (key : String) : Decidable (part.Requires key) :=
  inferInstanceAs (Decidable (_ ∧ _ ∧ _))

section

variable {part : Part} {key : String} (chosen : FieldPath → String → Bool) (place field : FieldPath)
  (inside : String → Document → Document) (members : Members)

/-- What is looked up under a known key is still there, unless it stands for nothing. -/
theorem get?_remaining_cases (hkey : key ∈ part.keys) :
    (part.remaining chosen place inside members).get? key = (members.get? key).map (inside key) ∨
      (part.remaining chosen place inside members).get? key = none ∧
        (members.get? key = some .null ∧ key ∈ nullKeys ∨
          members.get? key = some (.text "") ∧ key ∈ emptyKeys) := by
  rw [Part.remaining, Members.get?_prune]
  cases members.get? key with
  | none => exact .inl rfl
  | some value =>
      cases hout : chosen place key && part.spares key value with
      | false => exact .inl (by simp [Option.filter, hout])
      | true =>
          refine .inr ⟨by simp [Option.filter, hout], ?_⟩
          rw [Bool.and_eq_true] at hout
          simpa only [Option.some.injEq] using eq_of_spares hkey hout.2

theorem get?_remaining (hkey : part.Requires key) :
    (part.remaining chosen place inside members).get? key =
      (members.get? key).map (inside key) := by
  rcases get?_remaining_cases chosen place inside members hkey.1 with
    h | ⟨-, ⟨-, hmem⟩ | ⟨-, hmem⟩⟩
  · exact h
  · exact absurd hmem hkey.2.1
  · exact absurd hmem hkey.2.2

/-- A value that may be null, and for which the empty text has no meaning of its own. -/
theorem get?_remaining_or_null (hkey : key ∈ part.keys) (hempty : key ∉ emptyKeys) :
    (part.remaining chosen place inside members).get? key = (members.get? key).map (inside key) ∨
      (part.remaining chosen place inside members).get? key = none ∧
        members.get? key = some .null := by
  rcases get?_remaining_cases chosen place inside members hkey with
    h | ⟨h, ⟨hnull, -⟩ | ⟨-, hmem⟩⟩
  · exact .inl h
  · exact .inr ⟨h, hnull⟩
  · exact absurd hmem hempty

/-! ## Reading what remains -/

theorem requiredString_remaining (hkey : part.Requires key) (hinside : inside key = id) :
    requiredString (part.remaining chosen place inside members) key field =
      requiredString members key field := by
  rw [requiredString, get?_remaining chosen place inside members hkey, hinside, Option.map_id_fun]
  rfl

theorem requiredSize_remaining (hkey : part.Requires key) (hinside : inside key = id) :
    requiredSize (part.remaining chosen place inside members) key field =
      requiredSize members key field := by
  rw [requiredSize, get?_remaining chosen place inside members hkey, hinside, Option.map_id_fun]
  rfl

/-- Null and the empty text are read as an absent text is. -/
theorem optionalString_remaining (hkey : key ∈ part.keys) (hinside : inside key = id) :
    optionalString (part.remaining chosen place inside members) key field =
      optionalString members key field := by
  rw [optionalString, optionalString]
  rcases get?_remaining_cases chosen place inside members hkey with
    h | ⟨h, ⟨hvalue, -⟩ | ⟨hvalue, -⟩⟩
  · rw [h, hinside, Option.map_id_fun, id]
  · rw [h, hvalue]
  · rw [h, hvalue]

end

section

variable (chosen : FieldPath → String → Bool) (place field : FieldPath)

theorem compression_remaining (members : Members) :
    compression (Part.importer.remaining chosen place (fun _ => id) members) field =
      compression members field := by
  have hkey : "compression" ∈ Part.importer.keys := by decide
  rw [compression, compression]
  rcases get?_remaining_or_null chosen place (fun _ => id) members hkey (by decide) with
    h | ⟨h, hnull⟩
  · rw [h, Option.map_id_fun, id]
  · rw [h, hnull]

/-- The other settings of an importer have to be valid wherever they are there, so that none of them
is left out. -/
theorem importerOfDocument_prune (document : Document) :
    importerOfDocument (pruneImporter chosen place document) field =
      importerOfDocument document field := by
  cases document with
  | table members =>
      have hsame : ∀ key, Part.importer.Requires key →
          (Part.importer.remaining chosen place (fun _ => id) members).get? key =
            Members.get? members key := by
        intro key hkey
        rw [get?_remaining chosen place (fun _ => id) members hkey, Option.map_id_fun]
        rfl
      simp only [pruneImporter, pruneTable, importerOfDocument, textureType, optionalBoolean,
        compressionQuality, compression_remaining, hsame "texture_type" (by decide),
        hsame "srgb" (by decide), hsame "crunched" (by decide),
        hsame "compression_quality" (by decide)]
  | _ => rfl

/-- The members of a texture that remain, with those of its importer. -/
def remainingTexture (members : Members) : Members :=
  Part.texture.remaining chosen place
    (insideOf "importer" (pruneImporter chosen (place ++ [.member "importer"]))) members

theorem optionalImporter_remaining (members : Members) :
    optionalImporter (remainingTexture chosen place members) field =
      optionalImporter members field := by
  have hkey : "importer" ∈ Part.texture.keys := by decide
  rw [optionalImporter, optionalImporter, remainingTexture]
  rcases get?_remaining_or_null chosen place
      (insideOf "importer" (pruneImporter chosen (place ++ [.member "importer"]))) members hkey
      (by decide) with h | ⟨h, hnull⟩
  · rw [h]
    cases members.get? "importer" with
    | none => rfl
    | some value =>
        cases value with
        | table inner =>
            exact congrArg (Except.map some) (importerOfDocument_prune chosen _ _ (.table inner))
        | _ => rfl
  · rw [h, hnull]

/-- The members of a texture are read one after the other, and each reading finds what it found
before. -/
theorem textureOfMembers_remaining (propertyName displayName : String) (members : Members) :
    textureOfMembers propertyName displayName (remainingTexture chosen place members) field =
      textureOfMembers propertyName displayName members field := by
  rw [textureOfMembers, optionalImporter_remaining, remainingTexture,
    requiredString_remaining chosen place field _ members (by decide) rfl,
    optionalString_remaining chosen place field _ members (by decide) rfl,
    requiredSize_remaining chosen place field _ members (by decide) rfl,
    requiredSize_remaining chosen place field _ members (by decide) rfl,
    optionalString_remaining chosen place field _ members (by decide) rfl,
    optionalString_remaining chosen place field _ members (by decide) rfl]
  rfl

theorem slotOfDocument_prune (slot : Document) :
    slotOfDocument (pruneSlot chosen place slot) field = slotOfDocument slot field := by
  cases slot with
  | table members =>
      have hkey : "texture" ∈ Part.slot.keys := by decide
      rw [pruneSlot, pruneTable, slotOfDocument, slotOfDocument,
        requiredString_remaining chosen place field _ members (by decide) rfl,
        optionalString_remaining chosen place field _ members (by decide) rfl]
      rcases get?_remaining_or_null chosen place
          (insideOf "texture" (pruneTexture chosen (place ++ [.member "texture"]))) members hkey
          (by decide) with h | ⟨h, hnull⟩
      · rw [h]
        cases Members.get? members "texture" with
        | none => rfl
        | some value =>
            cases value with
            | table inner =>
                -- The texture is read behind the texts of the slot, so this holds for all of them.
                have hinner := fun propertyName displayName => textureOfMembers_remaining chosen
                  (place ++ [.member "texture"]) (field ++ [.member "texture"]) propertyName
                  displayName inner
                simp only [← hinner]
                rfl
            | _ => rfl
      · rw [h, hnull]
  | _ => rfl

theorem texturesOfSlots_prune (index : Nat) (slots : List Document) :
    texturesOfSlots index (pruneSlots chosen index slots) = texturesOfSlots index slots := by
  induction slots generalizing index with
  | nil => rfl
  | cons slot slots ih =>
      rw [pruneSlots, texturesOfSlots, texturesOfSlots, slotOfDocument_prune, ih]

end

/-- Leaving out any members that can be spared, on whatever levels of a manifest, changes neither
the material that is read nor the violation that is reported. -/
theorem materialOfDocument_prune (chosen : FieldPath → String → Bool) (document : Document) :
    materialOfDocument (prune chosen document) = materialOfDocument document := by
  cases document with
  | table members =>
      rw [prune, pruneTable, materialOfDocument, materialOfDocument,
        requiredString_remaining chosen [] [] _ members (by decide) rfl,
        optionalString_remaining chosen [] [] _ members (by decide) rfl,
        get?_remaining chosen [] _ members (by decide)]
      cases Members.get? members "textures" with
      | none => rfl
      | some value =>
          cases value with
          | list slots =>
              simp only [← texturesOfSlots_prune chosen 0 slots]
              rfl
          | _ => rfl
  | _ => rfl

/-- What is left of a manifest if nothing is kept that can be spared: a null name stays, because it
is a violation. -/
example :
    let importer : Document := .table [("compression", .null), ("srgb", .null)]
    let texture : Document := .table
      [("name", .null), ("path", .text ""), ("importer", importer), ("author", .text "Moss")]
    let slot : Document := .table [("property", .text ""), ("texture", texture)]
    prune (fun _ _ => true) (.table [("path", .null), ("textures", .list [slot, .null])]) =
      .table [("textures", .list
        [.table [("property", .text ""), ("texture", .table
          [("name", .null), ("importer", .table [("srgb", .null)])])], .null])] :=
  rfl

end TextureCatalog.Manifest
