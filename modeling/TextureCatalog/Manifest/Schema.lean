import TextureCatalog.Document
import TextureCatalog.Manifest.Violation
import TextureCatalog.Texture.Record

/-!
# The manifest schema

A manifest describes one material: its name, its path, and a list of slots, each of which may hold a
texture.  Reading a document as a manifest gives the material or the first violation, in the order
in which the fields are checked.  Members with other keys are ignored, and members that are null
count as absent, except where a value is required.
-/

namespace TextureCatalog.Manifest

def requiredString (members : Document.Members) (key : String) (field : FieldPath) :
    Except Violation String :=
  match members.get? key with
  | some (.text value) => .ok value
  | _ => .error ⟨field ++ [.member key], .string⟩

/-- The reading of a field that may be absent, which counts as the empty string. -/
def optionalString (members : Document.Members) (key : String) (field : FieldPath) :
    Except Violation String :=
  match members.get? key with
  | none | some .null => .ok ""
  | some (.text value) => .ok value
  | some _ => .error ⟨field ++ [.member key], .stringOrNull⟩

def requiredSize (members : Document.Members) (key : String) (field : FieldPath) :
    Except Violation Int :=
  match members.get? key with
  | some (.integer value) =>
    if 0 ≤ value then .ok value else .error ⟨field ++ [.member key], .nonNegativeInteger⟩
  | _ => .error ⟨field ++ [.member key], .nonNegativeInteger⟩

def optionalBoolean (members : Document.Members) (key : String) (default : Bool)
    (field : FieldPath) : Except Violation Bool :=
  match members.get? key with
  | none => .ok default
  | some (.boolean value) => .ok value
  | some _ => .error ⟨field ++ [.member key], .boolean⟩

def textureType (members : Document.Members) (default : String) (field : FieldPath) :
    Except Violation String :=
  match members.get? "texture_type" with
  | none => .ok default
  | some (.text value) => .ok value
  | some _ => .error ⟨field ++ [.member "texture_type"], .string⟩

def compressionQuality (members : Document.Members) (default : Int) (field : FieldPath) :
    Except Violation Int :=
  match members.get? "compression_quality" with
  | none => .ok default
  | some (.integer value) =>
    if 0 ≤ value ∧ value ≤ 100 then .ok value
    else .error ⟨field ++ [.member "compression_quality"], .percentage⟩
  | some _ => .error ⟨field ++ [.member "compression_quality"], .percentage⟩

def compression (members : Document.Members) (field : FieldPath) :
    Except Violation (Option Compression) :=
  match members.get? "compression" with
  | none | some .null => .ok none
  | some (.text name) =>
    match Compression.ofName? name with
    | some compression => .ok (some compression)
    | none => .error ⟨field ++ [.member "compression"], .compressionName⟩
  | some _ => .error ⟨field ++ [.member "compression"], .compressionName⟩

def importerOfDocument (document : Document) (field : FieldPath) : Except Violation Importer :=
  match document with
  | .table members => do
    let defaults : Importer := {}
    let type ← textureType members defaults.textureType field
    let srgb ← optionalBoolean members "srgb" defaults.srgb field
    let crunched ← optionalBoolean members "crunched" defaults.crunched field
    let quality ← compressionQuality members defaults.compressionQuality field
    let compression ← compression members field
    return ⟨type, srgb, crunched, quality, compression⟩
  | _ => .error ⟨field, .object⟩

def optionalImporter (members : Document.Members) (field : FieldPath) :
    Except Violation (Option Importer) :=
  match members.get? "importer" with
  | none | some .null => .ok none
  | some document => (importerOfDocument document (field ++ [.member "importer"])).map some

def firstNonEmpty (text other : String) : String :=
  if text.isEmpty then other else text

/-- The reading of the texture in a slot whose property and display name are known.  A texture
without an id is known by its path, or else by its name. -/
def textureOfMembers (propertyName displayName : String) (members : Document.Members)
    (field : FieldPath) : Except Violation Texture := do
  let name ← requiredString members "name" field
  let assetPath ← optionalString members "path" field
  let width ← requiredSize members "width" field
  let height ← requiredSize members "height" field
  let pixelFormat ← optionalString members "format" field
  let id ← optionalString members "id" field
  let importer ← optionalImporter members field
  return {
    id := firstNonEmpty id (firstNonEmpty assetPath name)
    displayName, propertyName, name, assetPath, width, height, pixelFormat
    importInfo := ImportInfo.derive name assetPath importer }

/-- The reading of a slot: its texture, or nothing if it is empty.  The display name defaults to the
property. -/
def slotOfDocument (document : Document) (field : FieldPath) :
    Except Violation (Option Texture) :=
  match document with
  | .table members => do
    let propertyName ← requiredString members "property" field
    let displayName ← optionalString members "display_name" field
    match Document.Members.get? members "texture" with
    | none | some .null => return none
    | some (.table textureMembers) =>
      let texture ← textureOfMembers propertyName (firstNonEmpty displayName propertyName)
        textureMembers (field ++ [.member "texture"])
      return some texture
    | some _ => throw ⟨field ++ [.member "texture"], .objectOrNull⟩
  | _ => .error ⟨field, .object⟩

/-- The reading of the slots from the one with a given index on; empty slots are counted and left
out. -/
def texturesOfSlots (index : Nat) : List Document → Except Violation (List Texture)
  | [] => .ok []
  | slot :: slots => do
    let texture ← slotOfDocument slot [.member "textures", .item index]
    let textures ← texturesOfSlots (index + 1) slots
    return texture.toList ++ textures

def materialOfDocument (document : Document) : Except Violation Material :=
  match document with
  | .table members => do
    let name ← requiredString members "material" []
    let path ← optionalString members "path" []
    match Document.Members.get? members "textures" with
    | none => return { name, path }
    | some (.list slots) => return { name, path, textures := ← texturesOfSlots 0 slots }
    | some _ => throw ⟨[.member "textures"], .list⟩
  | _ => .error ⟨[], .manifestObject⟩

end TextureCatalog.Manifest
