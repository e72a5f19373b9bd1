import TextureCatalog.Manifest.Schema

/-!
# The checks of a manifest

The checks that a manifest has to pass as a list in the order in which they are made, and what the
manifest means if it passes them.  Reading a manifest gives its meaning, or the violation of the
first check that fails.
-/

namespace TextureCatalog.Manifest

open Document (Members)

/-! ## Rules -/

/-- What the value at some place of a manifest has to be. -/
inductive Rule
  | manifestObject
  | object
  | objectOrNull
  | importerObject
  | list
  | text
  | textOrNull
  | textOrAbsent
  | boolean
  | size
  | quality
  | compressionName
  deriving DecidableEq, Repr

namespace Rule

/-- Whether a value is allowed, where `none` stands for an absent member. -/
def allows : Rule → Option Document → Bool
  | .manifestObject, some (.table _) => true
  | .object, some (.table _) => true
  | .objectOrNull, none | .objectOrNull, some .null | .objectOrNull, some (.table _) => true
  | .importerObject, none | .importerObject, some .null | .importerObject, some (.table _) => true
  | .list, none | .list, some (.list _) => true
  | .text, some (.text _) => true
  | .textOrNull, none | .textOrNull, some .null | .textOrNull, some (.text _) => true
  | .textOrAbsent, none | .textOrAbsent, some (.text _) => true
  | .boolean, none | .boolean, some (.boolean _) => true
  | .size, some (.integer value) => 0 ≤ value
  | .quality, none => true
  | .quality, some (.integer value) => decide (0 ≤ value ∧ value ≤ 100)
  | .compressionName, none | .compressionName, some .null => true
  | .compressionName, some (.text name) => Compression.all.any fun compression =>
      compression.name == name
  | _, _ => false

/-- What is reported of a value that is not allowed. -/
def requirement : Rule → Requirement
  | .manifestObject => .manifestObject
  | .object | .importerObject => .object
  | .objectOrNull => .objectOrNull
  | .list => .list
  | .text | .textOrAbsent => .string
  | .textOrNull => .stringOrNull
  | .boolean => .boolean
  | .size => .nonNegativeInteger
  | .quality => .percentage
  | .compressionName => .compressionName

end Rule

/-! ## Checks -/

/-- A check of the value at some place. -/
structure Check where
  field : FieldPath
  rule : Rule
  value : Option Document

namespace Check

def passes (check : Check) : Bool :=
  check.rule.allows check.value

def violation (check : Check) : Violation :=
  ⟨check.field, check.rule.requirement⟩

/-- The check of a member. -/
def ofMember (members : Members) (field : FieldPath) (key : String) (rule : Rule) : Check :=
  ⟨field ++ [.member key], rule, members.get? key⟩

end Check

/-- The checks inside a table; nothing else has an inside. -/
def checksInside (checks : Members → List Check) : Option Document → List Check
  | some (.table members) => checks members
  | _ => []

@[simp]
theorem checksInside_table (checks : Members → List Check) (members : Members) :
    checksInside checks (some (.table members)) = checks members := rfl

def importerChecks (field : FieldPath) (members : Members) : List Check :=
  [.ofMember members field "texture_type" .textOrAbsent,
   .ofMember members field "srgb" .boolean,
   .ofMember members field "crunched" .boolean,
   .ofMember members field "compression_quality" .quality,
   .ofMember members field "compression" .compressionName]

def textureChecks (field : FieldPath) (members : Members) : List Check :=
  [.ofMember members field "name" .text,
   .ofMember members field "path" .textOrNull,
   .ofMember members field "width" .size,
   .ofMember members field "height" .size,
   .ofMember members field "format" .textOrNull,
   .ofMember members field "id" .textOrNull,
   .ofMember members field "importer" .importerObject] ++
    checksInside (importerChecks (field ++ [.member "importer"])) (members.get? "importer")

def slotChecks (field : FieldPath) (slot : Document) : List Check :=
  ⟨field, .object, some slot⟩ :: checksInside (fun members =>
    [.ofMember members field "property" .text,
     .ofMember members field "display_name" .textOrNull,
     .ofMember members field "texture" .objectOrNull] ++
      checksInside (textureChecks (field ++ [.member "texture"])) (members.get? "texture"))
    (some slot)

/-- The slots of a manifest. -/
def slotsOf (members : Members) : List Document :=
  match members.get? "textures" with
  | some (.list slots) => slots
  | _ => []

/-- All checks of a manifest, in the order in which they are made.  Every slot is counted, whether
it holds a texture or not. -/
def checks (document : Document) : List Check :=
  ⟨[], .manifestObject, some document⟩ :: checksInside (fun members =>
    [.ofMember members [] "material" .text,
     .ofMember members [] "path" .textOrNull,
     .ofMember members [] "textures" .list] ++
      (slotsOf members).zipIdx.flatMap fun (slot, index) =>
        slotChecks [.member "textures", .item index] slot)
    (some document)

/-- The first check that fails. -/
def firstFailing? (checks : List Check) : Option Check :=
  checks.find? fun check => !check.passes

/-! ## Meanings -/

/-- The text that a value stands for; without a text it is the default. -/
def textOf (default : String) : Option Document → String
  | some (.text value) => value
  | _ => default

def booleanOf (default : Bool) : Option Document → Bool
  | some (.boolean value) => value
  | _ => default

def integerOf (default : Int) : Option Document → Int
  | some (.integer value) => value
  | _ => default

/-- The importer settings that a table stands for. -/
def importerOf (members : Members) : Importer :=
  { textureType := textOf "default" (members.get? "texture_type")
    srgb := booleanOf true (members.get? "srgb")
    crunched := booleanOf false (members.get? "crunched")
    compressionQuality := integerOf 50 (members.get? "compression_quality")
    compression := Compression.ofName? (textOf "" (members.get? "compression")) }

def importerOf? : Option Document → Option Importer
  | some (.table members) => some (importerOf members)
  | _ => none

/-- The texture that the members of a slot and of the texture in it stand for. -/
def textureOf (slot members : Members) : Texture :=
  let name := textOf "" (members.get? "name")
  let assetPath := textOf "" (members.get? "path")
  let propertyName := textOf "" (slot.get? "property")
  { id := firstNonEmpty (textOf "" (members.get? "id")) (firstNonEmpty assetPath name)
    displayName := firstNonEmpty (textOf "" (slot.get? "display_name")) propertyName
    propertyName
    name
    assetPath
    width := integerOf 0 (members.get? "width")
    height := integerOf 0 (members.get? "height")
    pixelFormat := textOf "" (members.get? "format")
    importInfo := .derive name assetPath (importerOf? (members.get? "importer")) }

/-- The texture of a slot, if the slot holds one. -/
def textureOfSlot? : Document → Option Texture
  | .table slot =>
    match Members.get? slot "texture" with
    | some (.table members) => some (textureOf slot members)
    | _ => none
  | _ => none

/-- The material that a manifest stands for. -/
def materialOf : Document → Material
  | .table members =>
    { name := textOf "" (Members.get? members "material")
      path := textOf "" (Members.get? members "path")
      textures := (slotsOf members).filterMap textureOfSlot? }
  | _ => { name := "" }

/-! ## Outcomes -/

/-- What comes of some checks of something with a meaning. -/
def outcome {α : Type} (checks : List Check) (meaning : α) : Except Violation α :=
  match firstFailing? checks with
  | some check => .error check.violation
  | none => .ok meaning

theorem firstFailing?_append (first others : List Check) :
    firstFailing? (first ++ others) = (firstFailing? first).or (firstFailing? others) :=
  List.find?_append

theorem firstFailing?_eq_none_iff {checks : List Check} :
    firstFailing? checks = none ↔ ∀ check ∈ checks, check.passes = true := by
  simp [firstFailing?]

theorem outcome_singleton {α : Type} (check : Check) (meaning : α) :
    outcome [check] meaning =
      if check.passes then .ok meaning else .error check.violation := by
  cases hpasses : check.passes <;> simp [outcome, firstFailing?, hpasses]

theorem outcome_cons_of_passes {α : Type} {check : Check} (h : check.passes = true)
    (others : List Check) (meaning : α) :
    outcome (check :: others) meaning = outcome others meaning := by
  simp [outcome, firstFailing?, h]

theorem outcome_map {α β : Type} (checks : List Check) (meaning : α) (change : α → β) :
    (outcome checks meaning).map change = outcome checks (change meaning) := by
  unfold outcome
  cases firstFailing? checks <;> rfl

theorem outcome_bind_pure {α β : Type} (checks : List Check) (value : α) (change : α → β) :
    (outcome checks value >>= fun value => pure (change value)) =
      outcome checks (change value) :=
  outcome_map checks value change

/-- A reading that goes on with what it has read makes the checks of both parts, one after the
other.  The second part is only looked at if the first one passes. -/
theorem outcome_bind {α β : Type} {first others : List Check} {value : α} {meaning : β}
    {next : α → Except Violation β}
    (h : (∀ check ∈ first, check.passes = true) → next value = outcome others meaning) :
    (outcome first value >>= next) = outcome (first ++ others) meaning := by
  unfold outcome
  rw [firstFailing?_append]
  cases hfirst : firstFailing? first with
  | some check => rfl
  | none => exact h (firstFailing?_eq_none_iff.1 hfirst)

/-- The same for a single check. -/
theorem outcome_bind_cons {α β : Type} {check : Check} {others : List Check} {value : α}
    {meaning : β} {next : α → Except Violation β}
    (h : check.passes = true → next value = outcome others meaning) :
    (outcome [check] value >>= next) = outcome (check :: others) meaning := by
  apply outcome_bind
  intro hpasses
  exact h (hpasses check (by simp))

/-! ## Readings -/

theorem any_name_eq_isSome (name : String) :
    (Compression.all.any fun compression => compression.name == name) =
      (Compression.ofName? name).isSome := by
  rw [Bool.eq_iff_iff, List.any_eq_true, Compression.ofName?, List.find?_isSome]

variable (members : Members) (key : String) (field : FieldPath)

theorem requiredString_eq_outcome :
    requiredString members key field =
      outcome [.ofMember members field key .text] (textOf "" (members.get? key)) := by
  unfold requiredString Check.ofMember
  cases members.get? key with
  | none => rfl
  | some value => cases value <;> rfl

theorem optionalString_eq_outcome :
    optionalString members key field =
      outcome [.ofMember members field key .textOrNull] (textOf "" (members.get? key)) := by
  unfold optionalString Check.ofMember
  cases members.get? key with
  | none => rfl
  | some value => cases value <;> rfl

theorem optionalBoolean_eq_outcome (default : Bool) :
    optionalBoolean members key default field =
      outcome [.ofMember members field key .boolean] (booleanOf default (members.get? key)) := by
  unfold optionalBoolean Check.ofMember
  cases members.get? key with
  | none => rfl
  | some value => cases value <;> rfl

theorem textureType_eq_outcome (default : String) :
    textureType members default field =
      outcome [.ofMember members field "texture_type" .textOrAbsent]
        (textOf default (members.get? "texture_type")) := by
  unfold textureType Check.ofMember
  cases members.get? "texture_type" with
  | none => rfl
  | some value => cases value <;> rfl

theorem requiredSize_eq_outcome :
    requiredSize members key field =
      outcome [.ofMember members field key .size] (integerOf 0 (members.get? key)) := by
  unfold requiredSize Check.ofMember
  cases members.get? key with
  | none => rfl
  | some value =>
      cases value with
      | integer value => simp [outcome_singleton, Check.passes, Rule.allows]; rfl
      | _ => rfl

theorem compressionQuality_eq_outcome (default : Int) :
    compressionQuality members default field =
      outcome [.ofMember members field "compression_quality" .quality]
        (integerOf default (members.get? "compression_quality")) := by
  unfold compressionQuality Check.ofMember
  cases members.get? "compression_quality" with
  | none => rfl
  | some value =>
      cases value with
      | integer value => simp [outcome_singleton, Check.passes, Rule.allows]; rfl
      | _ => rfl

theorem compression_eq_outcome :
    compression members field =
      outcome [.ofMember members field "compression" .compressionName]
        (Compression.ofName? (textOf "" (members.get? "compression"))) := by
  unfold compression Check.ofMember
  cases members.get? "compression" with
  | none => rfl
  | some value =>
      cases value with
      | text name =>
          simp only [outcome_singleton, Check.passes, Rule.allows, textOf, any_name_eq_isSome]
          cases Compression.ofName? name <;> rfl
      | _ => rfl

/-! ## Nested readings -/

theorem importerOfDocument_table_eq_outcome :
    importerOfDocument (.table members) field =
      outcome (importerChecks field members) (importerOf members) := by
  simp only [importerOfDocument, textureType_eq_outcome, optionalBoolean_eq_outcome,
    compressionQuality_eq_outcome, compression_eq_outcome]
  apply outcome_bind_cons; intro _
  apply outcome_bind_cons; intro _
  apply outcome_bind_cons; intro _
  apply outcome_bind_cons; intro _
  apply outcome_bind_cons; intro _
  rfl

/-- An absent importer is no fault, and nothing in it is checked. -/
theorem optionalImporter_eq_outcome :
    optionalImporter members field =
      outcome (.ofMember members field "importer" .importerObject ::
          checksInside (importerChecks (field ++ [.member "importer"])) (members.get? "importer"))
        (importerOf? (members.get? "importer")) := by
  unfold optionalImporter Check.ofMember
  cases members.get? "importer" with
  | none => rfl
  | some value =>
      cases value with
      | table inner =>
          simp only [importerOfDocument_table_eq_outcome, outcome_map, checksInside]
          rw [outcome_cons_of_passes rfl]
          rfl
      | _ => rfl

theorem textureOfMembers_eq_outcome (slot : Members) :
    textureOfMembers (textOf "" (slot.get? "property"))
        (firstNonEmpty (textOf "" (slot.get? "display_name")) (textOf "" (slot.get? "property")))
        members field =
      outcome (textureChecks field members) (textureOf slot members) := by
  simp only [textureOfMembers, requiredString_eq_outcome, optionalString_eq_outcome,
    requiredSize_eq_outcome, optionalImporter_eq_outcome]
  apply outcome_bind_cons; intro _
  apply outcome_bind_cons; intro _
  apply outcome_bind_cons; intro _
  apply outcome_bind_cons; intro _
  apply outcome_bind_cons; intro _
  apply outcome_bind_cons; intro _
  rw [outcome_bind_pure]
  rfl

theorem slotOfDocument_eq_outcome (slot : Document) :
    slotOfDocument slot field = outcome (slotChecks field slot) (textureOfSlot? slot) := by
  cases slot with
  | table slot =>
      simp only [slotOfDocument, requiredString_eq_outcome, optionalString_eq_outcome]
      have hslot : (⟨field, .object, some (.table slot)⟩ : Check).passes = true := rfl
      rw [slotChecks, outcome_cons_of_passes hslot]
      apply outcome_bind_cons; intro _
      apply outcome_bind_cons; intro _
      rw [Check.ofMember, textureOfSlot?]
      cases Members.get? slot "texture" with
      | none => rfl
      | some value =>
          cases value with
          | table members =>
              dsimp only
              rw [textureOfMembers_eq_outcome, outcome_bind_pure]
              exact (outcome_cons_of_passes rfl _ _).symm
          | _ => rfl
  | _ => rfl

theorem texturesOfSlots_eq_outcome (slots : List Document) (index : Nat) :
    texturesOfSlots index slots =
      outcome
        ((slots.zipIdx index).flatMap fun (slot, index) =>
          slotChecks [.member "textures", .item index] slot)
        (slots.filterMap textureOfSlot?) := by
  induction slots generalizing index with
  | nil => rfl
  | cons slot slots ih =>
      simp only [texturesOfSlots, slotOfDocument_eq_outcome]
      rw [List.zipIdx_cons, List.flatMap_cons]
      apply outcome_bind
      intro _
      have hfirst : (slot :: slots).filterMap textureOfSlot? =
          (textureOfSlot? slot).toList ++ slots.filterMap textureOfSlot? := by
        cases hslot : textureOfSlot? slot <;> simp [hslot]
      rw [ih, outcome_bind_pure, hfirst]

/-- Reading a manifest makes its checks in their order, and gives what it stands for. -/
theorem materialOfDocument_eq_outcome (document : Document) :
    materialOfDocument document = outcome (checks document) (materialOf document) := by
  cases document with
  | table members =>
      simp only [materialOfDocument, requiredString_eq_outcome, optionalString_eq_outcome]
      have hmanifest : (⟨[], .manifestObject, some (.table members)⟩ : Check).passes = true := rfl
      rw [checks, outcome_cons_of_passes hmanifest]
      apply outcome_bind_cons; intro _
      apply outcome_bind_cons; intro _
      rw [Check.ofMember, materialOf, slotsOf]
      cases Members.get? members "textures" with
      | none => rfl
      | some value =>
          cases value with
          | list slots =>
              dsimp only
              rw [texturesOfSlots_eq_outcome, outcome_bind_pure]
              exact (outcome_cons_of_passes rfl _ _).symm
          | _ => rfl
  | _ => rfl

end TextureCatalog.Manifest
