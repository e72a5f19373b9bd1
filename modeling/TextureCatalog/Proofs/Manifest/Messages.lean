import TextureCatalog.Manifest.Loading
import TextureCatalog.Proofs.Manifest.Checks
import TextureCatalog.Proofs.Terminal.Escaping
import TextureCatalog.Proofs.Text.Numeral

/-!
# Messages about manifests can be shown

Nothing in a message about the content of a manifest is taken for a tag, unless it stands in the
path of the manifest: the fields that are named in a message have the keys of the schema, and
numbers have digits only.
-/

namespace TextureCatalog

open Terminal

open Document (Members)

/-- A text without tags and joiners. -/
def IsPlain (text : String) : Prop :=
  Markup.Bland text.toList ∧ joiner ∉ text.toList

theorem isPlain_of_not_mem {text : String} (hopening : '[' ∉ text.toList)
    (hjoiner : joiner ∉ text.toList) : IsPlain text :=
  ⟨Markup.bland_of_not_mem hopening, hjoiner⟩

theorem IsPlain.append {text other : String} (h : IsPlain text) (hother : IsPlain other) :
    IsPlain (text ++ other) := by
  rw [IsPlain, String.toList_append]
  exact ⟨h.1.append hother.1, fun hmem => (List.mem_append.1 hmem).elim h.2 hother.2⟩

theorem isPlain_of_digits {digits : List Char} (h : ∀ c ∈ digits, c.isDigit = true) :
    IsPlain (String.ofList digits) := by
  rw [IsPlain, String.toList_ofList]
  exact ⟨Markup.bland_of_not_mem fun hmem => Text.ne_of_isDigit (h _ hmem) (by decide) rfl,
    fun hmem => Text.ne_of_isDigit (h _ hmem) (by decide) rfl⟩

theorem isPlain_toString (n : Nat) : IsPlain (toString n) :=
  isPlain_of_digits fun _ hc => Nat.isDigit_of_mem_toDigits (by omega) (by omega) hc

/-- A literal text, of which both conditions can be decided. -/
theorem isPlain_literal {text : String}
    (h : (text.toList.contains '[' || text.toList.contains joiner) = false) : IsPlain text := by
  obtain ⟨hopening, hjoiner⟩ := Bool.or_eq_false_iff.1 h
  exact isPlain_of_not_mem (by simpa using hopening) (by simpa using hjoiner)

/-! ## Parts of messages -/

namespace Text.Utf8

theorem Reason.isPlain_message (reason : Reason) : IsPlain reason.message := by
  cases reason <;> exact isPlain_literal (by decide +kernel)

theorem isPlain_hexPadded (byte : UInt8) : IsPlain (String.ofList (hexPadded 2 byte.toNat)) := by
  have hbytes : ∀ code < 256,
      ((hexPadded 2 code).contains '[' || (hexPadded 2 code).contains joiner) = false := by
    decide +kernel
  apply isPlain_literal
  rw [String.toList_ofList]
  exact hbytes _ byte.toNat_lt

theorem Fault.isPlain_message (fault : Fault) : IsPlain fault.message := by
  have hplace : IsPlain (if fault.span = 1 then
      s!"byte 0x{String.ofList (hexPadded 2 fault.first.toNat)} in position {fault.position}"
      else s!"bytes in position {fault.position}-{fault.position + fault.span - 1}") := by
    split_ifs
    · exact (((isPlain_literal (by decide +kernel)).append (isPlain_hexPadded _)).append
        (isPlain_literal (by decide +kernel))).append (isPlain_toString _)
    · exact (((isPlain_literal (by decide +kernel)).append (isPlain_toString _)).append
        (isPlain_literal (by decide +kernel))).append (isPlain_toString _)
  have hmessage : IsPlain "'utf-8' codec can't decode " := isPlain_literal (by decide +kernel)
  have hcolon : IsPlain ": " := isPlain_literal (by decide)
  delta Fault.message
  exact ((hmessage.append hplace).append hcolon).append fault.reason.isPlain_message

end Text.Utf8

namespace Json

theorem Problem.isPlain_message (problem : Problem) : IsPlain problem.message := by
  cases problem <;> exact isPlain_literal (by decide +kernel)

theorem Placed.isPlain_message (placed : Placed) : IsPlain placed.message := by
  have hline : IsPlain ": line " := isPlain_literal (by decide +kernel)
  have hcolumn : IsPlain " column " := isPlain_literal (by decide +kernel)
  have hchar : IsPlain " (char " := isPlain_literal (by decide +kernel)
  have hclose : IsPlain ")" := isPlain_literal (by decide +kernel)
  exact (((((((placed.problem.isPlain_message).append hline).append (isPlain_toString _)).append
    hcolumn).append (isPlain_toString _)).append hchar).append (isPlain_toString _)).append hclose

end Json

namespace Manifest

theorem Requirement.isPlain_message (requirement : Requirement) : IsPlain requirement.message := by
  cases requirement <;> exact isPlain_literal (by decide +kernel)

/-- A field path whose keys are plain. -/
def FieldPath.IsPlain (field : FieldPath) : Prop :=
  ∀ key, .member key ∈ field → TextureCatalog.IsPlain key

theorem FieldPath.IsPlain.append_member {field : FieldPath} (h : field.IsPlain) {key : String}
    (hkey : TextureCatalog.IsPlain key) : FieldPath.IsPlain (field ++ [.member key]) := by
  intro other hother
  rcases List.mem_append.1 hother with hmem | hmem
  · exact h other hmem
  · cases List.mem_singleton.1 hmem
    exact hkey

theorem startsTag_eq_false_of_isDigit {c : Char} (h : c.isDigit = true) :
    Markup.startsTag c = false := by
  obtain ⟨hlow, hhigh⟩ := Text.toNat_of_isDigit h
  have hletter : ¬ 'a' ≤ c := fun hle => by
    have hcode : 'a'.toNat ≤ c.toNat := hle
    exact absurd (Nat.le_trans hcode hhigh) (by decide)
  have hne {mark : Char} : mark.isDigit = false → c ≠ mark := Text.ne_of_isDigit h
  simp [Markup.startsTag, hletter, hne]

/-- A place in a list is no tag, because it begins with a digit. -/
theorem isPlain_item (index : Nat) :
    TextureCatalog.IsPlain ("[" ++ (Text.decimalText index ++ "]")) := by
  obtain ⟨first, digits, hnumeral, hfirst⟩ := Text.exists_decimal_eq_cons index
  have hdecimal : (Text.decimalText index).toList = first :: digits :=
    (String.toList_ofList.trans (by rfl)).trans hnumeral
  have htext : ("[" ++ (Text.decimalText index ++ "]")).toList =
      '[' :: first :: (digits ++ [']']) := by
    rw [String.toList_append, String.toList_append, hdecimal]
    rfl
  have hdigit {c : Char} (hc : c ∈ digits) : c.isDigit = true :=
    Text.isDigit_of_mem_decimal (hnumeral ▸ List.mem_cons_of_mem _ hc)
  have hrest {mark : Char} (hmark : mark.isDigit = false) (hclosing : mark ≠ ']') :
      mark ∉ digits ++ [']'] := by
    rintro hmem
    rcases List.mem_append.1 hmem with hc | hc
    · exact Text.ne_of_isDigit (hdigit hc) hmark rfl
    · exact hclosing (List.mem_singleton.1 hc)
  rw [TextureCatalog.IsPlain, htext]
  constructor
  · exact .bracket (startsTag_eq_false_of_isDigit hfirst) (Text.ne_of_isDigit hfirst (by decide))
      (Markup.bland_of_not_mem (hrest (by decide) (by decide)))
  · refine List.not_mem_cons_of_ne_of_not_mem (by decide) (List.not_mem_cons_of_ne_of_not_mem ?_ ?_)
    · exact (Text.ne_of_isDigit hfirst (by decide)).symm
    · exact hrest (by decide) (by decide)

theorem FieldPath.IsPlain.text {field : FieldPath} (h : field.IsPlain) :
    TextureCatalog.IsPlain field.text := by
  have hstart : TextureCatalog.IsPlain "" := isPlain_literal (by decide)
  rw [FieldPath.text]
  revert hstart
  -- The text before is any plain text, so that it can grow along the path.
  generalize "" = shown
  intro hshown
  induction field generalizing shown with
  | nil => exact hshown
  | cons step field ih =>
      have hfield : FieldPath.IsPlain field := fun key hkey => h key (List.mem_cons_of_mem _ hkey)
      refine ih hfield _ ?_
      cases step with
      | item index =>
          simp only [String.append_assoc]
          exact hshown.append (isPlain_item index)
      | member key =>
          have hkey : TextureCatalog.IsPlain key := h key (by simp)
          have hpoint : TextureCatalog.IsPlain "." := isPlain_literal (by decide)
          simp only
          split_ifs
          · exact hkey
          · exact (hshown.append hpoint).append hkey

theorem Violation.isPlain_message {violation : Violation} (h : violation.field.IsPlain) :
    TextureCatalog.IsPlain violation.message := by
  have hbegin : TextureCatalog.IsPlain "Invalid manifest value for '" :=
    isPlain_literal (by decide +kernel)
  have hend : TextureCatalog.IsPlain "': " := isPlain_literal (by decide +kernel)
  exact ((hbegin.append h.text).append hend).append violation.requirement.isPlain_message

/-! ## Fields of checks -/

/-- Checks whose fields have plain keys. -/
def PlainChecks (checks : List Check) : Prop :=
  ∀ check ∈ checks, check.field.IsPlain

theorem plainChecks_inside {checks : Members → List Check}
    (h : ∀ members, PlainChecks (checks members)) (value : Option Document) :
    PlainChecks (checksInside checks value) := by
  rw [checksInside.eq_def]
  split
  · exact h _
  · exact fun _ hmem => absurd hmem List.not_mem_nil

theorem plainChecks_importerChecks {field : FieldPath} (h : field.IsPlain) (members : Members) :
    PlainChecks (importerChecks field members) := by
  simp only [PlainChecks, importerChecks, Check.ofMember, List.forall_mem_cons]
  refine ⟨?_, ?_, ?_, ?_, ?_, fun _ hmem => absurd hmem List.not_mem_nil⟩ <;>
    exact h.append_member (isPlain_literal (by decide +kernel))

theorem plainChecks_textureChecks {field : FieldPath} (h : field.IsPlain) (members : Members) :
    PlainChecks (textureChecks field members) := by
  have himporter : FieldPath.IsPlain (field ++ [.member "importer"]) :=
    h.append_member (isPlain_literal (by decide))
  refine List.forall_mem_append.2 ⟨?_, plainChecks_inside (plainChecks_importerChecks himporter) _⟩
  simp only [Check.ofMember, List.forall_mem_cons]
  refine ⟨?_, ?_, ?_, ?_, ?_, ?_, himporter, fun _ hmem => absurd hmem List.not_mem_nil⟩ <;>
    exact h.append_member (isPlain_literal (by decide))

theorem plainChecks_slotChecks {field : FieldPath} (h : field.IsPlain) (slot : Document) :
    PlainChecks (slotChecks field slot) := by
  have htexture : FieldPath.IsPlain (field ++ [.member "texture"]) :=
    h.append_member (isPlain_literal (by decide))
  refine List.forall_mem_cons.2 ⟨h, plainChecks_inside (fun members => ?_) _⟩
  refine List.forall_mem_append.2 ⟨?_, plainChecks_inside (plainChecks_textureChecks htexture) _⟩
  simp only [Check.ofMember, List.forall_mem_cons]
  refine ⟨?_, ?_, ?_, fun _ hmem => absurd hmem List.not_mem_nil⟩ <;>
    exact h.append_member (isPlain_literal (by decide))

theorem plainChecks_checks (document : Document) : PlainChecks (checks document) := by
  have hroot : FieldPath.IsPlain [] := fun _ hmem => absurd hmem List.not_mem_nil
  have hmember {key : String} (hkey : TextureCatalog.IsPlain key) :
      FieldPath.IsPlain [.member key] :=
    hroot.append_member hkey
  refine List.forall_mem_cons.2 ⟨hroot, plainChecks_inside (fun members => ?_) _⟩
  refine List.forall_mem_append.2 ⟨?_, ?_⟩
  · simp only [Check.ofMember, List.nil_append, List.forall_mem_cons]
    refine ⟨?_, ?_, ?_, fun _ hmem => absurd hmem List.not_mem_nil⟩ <;>
      exact hmember (isPlain_literal (by decide))
  · intro check hcheck
    obtain ⟨⟨slot, index⟩, -, hslot⟩ := List.mem_flatMap.1 hcheck
    refine plainChecks_slotChecks (fun key hkey => ?_) slot check hslot
    have hkey : key = "textures" := by simpa using hkey
    exact hkey ▸ isPlain_literal (by decide)

/-- The message about a document that is no manifest is plain. -/
theorem isPlain_message_of_materialOfDocument {document : Document} {violation : Violation}
    (h : materialOfDocument document = .error violation) :
    TextureCatalog.IsPlain violation.message := by
  rw [materialOfDocument_eq_outcome, outcome] at h
  split at h
  · next check hcheck =>
      cases h
      exact Violation.isPlain_message
        (plainChecks_checks document check (List.mem_of_find?_eq_some hcheck))
  · cases h

end Manifest

end TextureCatalog
