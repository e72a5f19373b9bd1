import TextureCatalog.Proofs.Manifest.Checks

/-!
# Conforming manifests

The schema of manifests as a property of documents.  A document is read exactly if it conforms to
the schema, and then as the material that it stands for; any other document is refused with the
first check that it fails.
-/

namespace TextureCatalog.Manifest

open Document (Members)

/-! ## The schema -/

def IsText (value : Option Document) : Prop :=
  ∃ text, value = some (.text text)

/-- Absent and null count as the same, where that is allowed. -/
def IsMissing (value : Option Document) : Prop :=
  value = none ∨ value = some .null

/-- A width or height. -/
def IsSize (value : Option Document) : Prop :=
  ∃ size : Int, value = some (.integer size) ∧ 0 ≤ size

/-- The members of importer settings; only the compression can be null. -/
structure ImporterConforms (members : Members) : Prop where
  textureType : members.get? "texture_type" = none ∨ IsText (members.get? "texture_type")
  srgb : members.get? "srgb" = none ∨ ∃ value, members.get? "srgb" = some (.boolean value)
  crunched :
    members.get? "crunched" = none ∨ ∃ value, members.get? "crunched" = some (.boolean value)
  quality : members.get? "compression_quality" = none ∨
    ∃ value : Int, members.get? "compression_quality" = some (.integer value) ∧
      0 ≤ value ∧ value ≤ 100
  compression : IsMissing (members.get? "compression") ∨
    ∃ setting : Compression, members.get? "compression" = some (.text setting.name)

/-- The members of a texture. -/
structure TextureConforms (members : Members) : Prop where
  name : IsText (members.get? "name")
  path : IsMissing (members.get? "path") ∨ IsText (members.get? "path")
  width : IsSize (members.get? "width")
  height : IsSize (members.get? "height")
  format : IsMissing (members.get? "format") ∨ IsText (members.get? "format")
  id : IsMissing (members.get? "id") ∨ IsText (members.get? "id")
  importer : IsMissing (members.get? "importer") ∨
    ∃ inner, members.get? "importer" = some (.table inner) ∧ ImporterConforms inner

/-- The members of a slot. -/
structure SlotConforms (members : Members) : Prop where
  property : IsText (members.get? "property")
  displayName : IsMissing (members.get? "display_name") ∨ IsText (members.get? "display_name")
  texture : IsMissing (members.get? "texture") ∨
    ∃ inner, members.get? "texture" = some (.table inner) ∧ TextureConforms inner

/-- The members of a manifest; without slots they can be left out, but not be null. -/
structure MembersConform (members : Members) : Prop where
  material : IsText (members.get? "material")
  path : IsMissing (members.get? "path") ∨ IsText (members.get? "path")
  textures : members.get? "textures" = none ∨
    ∃ slots, members.get? "textures" = some (.list slots) ∧
      ∀ slot ∈ slots, ∃ inner, slot = .table inner ∧ SlotConforms inner

/-- A document that is a manifest. -/
def Conforms (document : Document) : Prop :=
  ∃ members, document = .table members ∧ MembersConform members

/-! ## What the rules allow -/

namespace Rule

variable {value : Option Document}

theorem allows_text_iff : text.allows value = true ↔ IsText value := by
  cases value with
  | none => simp [allows, IsText]
  | some value => cases value <;> simp [allows, IsText]

theorem allows_textOrNull_iff :
    textOrNull.allows value = true ↔ IsMissing value ∨ IsText value := by
  cases value with
  | none => simp [allows, IsText, IsMissing]
  | some value => cases value <;> simp [allows, IsText, IsMissing]

theorem allows_textOrAbsent_iff :
    textOrAbsent.allows value = true ↔ value = none ∨ IsText value := by
  cases value with
  | none => simp [allows, IsText]
  | some value => cases value <;> simp [allows, IsText]

theorem allows_boolean_iff :
    boolean.allows value = true ↔ value = none ∨ ∃ truth, value = some (.boolean truth) := by
  cases value with
  | none => simp [allows]
  | some value => cases value <;> simp [allows]

theorem allows_size_iff : size.allows value = true ↔ IsSize value := by
  cases value with
  | none => simp [allows, IsSize]
  | some value => cases value <;> simp [allows, IsSize]

theorem allows_quality_iff :
    quality.allows value = true ↔
      value = none ∨
        ∃ number : Int, value = some (.integer number) ∧ 0 ≤ number ∧ number ≤ 100 := by
  cases value with
  | none => simp [allows]
  | some value => cases value <;> simp [allows]

theorem allows_objectOrNull_iff :
    objectOrNull.allows value = true ↔
      IsMissing value ∨ ∃ members, value = some (.table members) := by
  cases value with
  | none => simp [allows, IsMissing]
  | some value => cases value <;> simp [allows, IsMissing]

theorem allows_importerObject_iff :
    importerObject.allows value = true ↔
      IsMissing value ∨ ∃ members, value = some (.table members) := by
  cases value with
  | none => simp [allows, IsMissing]
  | some value => cases value <;> simp [allows, IsMissing]

theorem allows_list_iff :
    list.allows value = true ↔ value = none ∨ ∃ items, value = some (.list items) := by
  cases value with
  | none => simp [allows]
  | some value => cases value <;> simp [allows]

theorem mem_all (setting : Compression) : setting ∈ Compression.all := by
  cases setting <;> decide

theorem allows_compressionName_iff :
    compressionName.allows value = true ↔
      IsMissing value ∨ ∃ setting : Compression, value = some (.text setting.name) := by
  cases value with
  | none => simp [allows, IsMissing]
  | some value =>
      cases value with
      | text name =>
          simp only [allows, List.any_eq_true, beq_iff_eq, IsMissing, reduceCtorEq, or_self,
            false_or, Option.some.injEq, Document.text.injEq]
          constructor
          · rintro ⟨setting, -, hname⟩
            exact ⟨setting, hname.symm⟩
          · rintro ⟨setting, hname⟩
            exact ⟨setting, mem_all setting, hname.symm⟩
      | _ => simp [allows, IsMissing]

end Rule

/-! ## What the checks require -/

/-- All checks pass. -/
def AllPass (checks : List Check) : Prop :=
  ∀ check ∈ checks, check.passes = true

@[simp]
theorem allPass_nil : AllPass [] := fun _ hmem => absurd hmem List.not_mem_nil

@[simp]
theorem allPass_cons {check : Check} {others : List Check} :
    AllPass (check :: others) ↔ check.passes = true ∧ AllPass others :=
  List.forall_mem_cons

@[simp]
theorem allPass_append {first others : List Check} :
    AllPass (first ++ others) ↔ AllPass first ∧ AllPass others :=
  List.forall_mem_append

theorem allPass_checksInside_iff {checks : Members → List Check} {value : Option Document} :
    AllPass (checksInside checks value) ↔
      ∀ members, value = some (.table members) → AllPass (checks members) := by
  cases value with
  | none => simp [checksInside]
  | some value => cases value <;> simp [checksInside]

/-- A table that may be missing is checked on the inside if it is there. -/
theorem missing_or_table_and_allPass_iff {value : Option Document}
    {checks : Members → List Check} :
    (IsMissing value ∨ ∃ members, value = some (.table members)) ∧
        AllPass (checksInside checks value) ↔
      IsMissing value ∨ ∃ members, value = some (.table members) ∧ AllPass (checks members) := by
  rw [allPass_checksInside_iff]
  constructor
  · rintro ⟨hmissing | ⟨members, htable⟩, hinside⟩
    · exact Or.inl hmissing
    · exact Or.inr ⟨members, htable, hinside members htable⟩
  · rintro (hmissing | ⟨members, htable, hpass⟩)
    · refine ⟨Or.inl hmissing, ?_⟩
      rintro members rfl
      simp [IsMissing] at hmissing
    · refine ⟨Or.inr ⟨members, htable⟩, ?_⟩
      intro other hother
      rw [htable] at hother
      cases hother
      exact hpass

variable {members : Members} {field : FieldPath}

theorem allPass_importerChecks_iff :
    AllPass (importerChecks field members) ↔ ImporterConforms members := by
  simp only [importerChecks, allPass_cons, allPass_nil, and_true, Check.ofMember, Check.passes,
    Rule.allows_textOrAbsent_iff, Rule.allows_boolean_iff, Rule.allows_quality_iff,
    Rule.allows_compressionName_iff]
  constructor
  · rintro ⟨htype, hsrgb, hcrunched, hquality, hcompression⟩
    exact ⟨htype, hsrgb, hcrunched, hquality, hcompression⟩
  · rintro ⟨htype, hsrgb, hcrunched, hquality, hcompression⟩
    exact ⟨htype, hsrgb, hcrunched, hquality, hcompression⟩

theorem allPass_textureChecks_iff :
    AllPass (textureChecks field members) ↔ TextureConforms members := by
  simp only [textureChecks, List.cons_append, List.nil_append, allPass_cons, Check.ofMember,
    Check.passes, Rule.allows_text_iff, Rule.allows_textOrNull_iff, Rule.allows_size_iff,
    Rule.allows_importerObject_iff, missing_or_table_and_allPass_iff, allPass_importerChecks_iff]
  constructor
  · rintro ⟨hname, hpath, hwidth, hheight, hformat, hid, himporter⟩
    exact ⟨hname, hpath, hwidth, hheight, hformat, hid, himporter⟩
  · rintro ⟨hname, hpath, hwidth, hheight, hformat, hid, himporter⟩
    exact ⟨hname, hpath, hwidth, hheight, hformat, hid, himporter⟩

theorem allPass_slotChecks_iff {slot : Document} :
    AllPass (slotChecks field slot) ↔ ∃ members, slot = .table members ∧ SlotConforms members := by
  cases slot with
  | table slot =>
      simp only [slotChecks, checksInside_table, List.cons_append, List.nil_append, allPass_cons,
        Check.ofMember, Check.passes, Rule.allows_text_iff, Rule.allows_textOrNull_iff,
        Rule.allows_objectOrNull_iff, missing_or_table_and_allPass_iff, allPass_textureChecks_iff,
        Document.table.injEq]
      constructor
      · rintro ⟨-, hproperty, hdisplayName, htexture⟩
        exact ⟨slot, rfl, hproperty, hdisplayName, htexture⟩
      · rintro ⟨_, rfl, hproperty, hdisplayName, htexture⟩
        exact ⟨rfl, hproperty, hdisplayName, htexture⟩
  | _ => simp [slotChecks, Check.passes, Rule.allows]

theorem allPass_flatMap_slotChecks_iff {slots : List Document} (start : Nat) :
    AllPass ((slots.zipIdx start).flatMap fun (slot, index) =>
        slotChecks [.member "textures", .item index] slot) ↔
      ∀ slot ∈ slots, ∃ members, slot = .table members ∧ SlotConforms members := by
  induction slots generalizing start with
  | nil => simp
  | cons slot slots ih =>
      rw [List.zipIdx_cons, List.flatMap_cons, allPass_append, allPass_slotChecks_iff, ih,
        List.forall_mem_cons]

theorem absent_or_list_and_forall_slotsOf_iff {property : Document → Prop} :
    (members.get? "textures" = none ∨ ∃ slots, members.get? "textures" = some (.list slots)) ∧
        (∀ slot ∈ slotsOf members, property slot) ↔
      members.get? "textures" = none ∨
        ∃ slots, members.get? "textures" = some (.list slots) ∧ ∀ slot ∈ slots, property slot := by
  unfold slotsOf
  cases members.get? "textures" with
  | none => simp
  | some value => cases value <;> simp

/-- The schema is what the checks require. -/
theorem allPass_checks_iff {document : Document} :
    AllPass (checks document) ↔ Conforms document := by
  cases document with
  | table members =>
      simp only [checks, checksInside_table, List.cons_append, List.nil_append, allPass_cons,
        Check.ofMember, Check.passes, Rule.allows_text_iff, Rule.allows_textOrNull_iff,
        Rule.allows_list_iff, allPass_flatMap_slotChecks_iff,
        absent_or_list_and_forall_slotsOf_iff]
      constructor
      · rintro ⟨-, hmaterial, hpath, htextures⟩
        exact ⟨members, rfl, hmaterial, hpath, htextures⟩
      · rintro ⟨_, hdocument, hmaterial, hpath, htextures⟩
        cases hdocument
        exact ⟨rfl, hmaterial, hpath, htextures⟩
  | _ => simp [checks, Check.passes, Rule.allows, Conforms]

theorem firstFailing?_checks_eq_none_iff {document : Document} :
    firstFailing? (checks document) = none ↔ Conforms document := by
  rw [firstFailing?_eq_none_iff]
  exact allPass_checks_iff

/-! ## Reading -/

/-- A document is read exactly if it is a manifest.  What is read is the material that it stands
for, with the textures of those slots that hold one; otherwise the first failing check is
reported. -/
theorem materialOfDocument_decides_schema (document : Document) :
    ((∃ material, materialOfDocument document = .ok material) ↔ Conforms document) ∧
    (Conforms document → materialOfDocument document = .ok (materialOf document)) ∧
    (¬ Conforms document → ∃ check, firstFailing? (checks document) = some check ∧
      materialOfDocument document = .error ⟨check.field, check.rule.requirement⟩) := by
  rw [← firstFailing?_checks_eq_none_iff, materialOfDocument_eq_outcome, outcome]
  cases hfirst : firstFailing? (checks document) with
  | none => simp
  | some check => simp [Check.violation]

/-- The empty slot is counted, the truth value is no width, and the height is not looked at. -/
theorem materialOfDocument_boolean_width :
    let empty : Document := .table [("property", .text "_Detail"), ("texture", .null)]
    let faulty : Document := .table [("name", .text "Oak"), ("width", .boolean true)]
    let document : Document := .table
      [("material", .text "Rock"),
       ("textures", .list [empty, .table [("property", .text "_Main"), ("texture", faulty)]])]
    ¬ Conforms document ∧
      ∃ violation, materialOfDocument document = .error violation ∧
        violation.message = "Invalid manifest value for 'textures[1].texture.width': " ++
          "must be a non-negative integer" := by
  intro empty faulty document
  have hfailing : (firstFailing? (checks document)).map (·.violation) =
      some ⟨[.member "textures", .item 1, .member "texture", .member "width"],
        .nonNegativeInteger⟩ := by
    decide +kernel
  have hnot : ¬ Conforms document := by
    rw [← firstFailing?_checks_eq_none_iff]
    intro hnone
    simp [hnone] at hfailing
  obtain ⟨check, hcheck, hread⟩ := (materialOfDocument_decides_schema document).2.2 hnot
  rw [hcheck, Option.map_some, Option.some.injEq, Check.violation] at hfailing
  exact ⟨hnot, _, hread, by rw [hfailing]; decide +kernel⟩

end TextureCatalog.Manifest
