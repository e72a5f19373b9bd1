import TextureCatalog.Proofs.Json.LineEnds
import TextureCatalog.Proofs.Json.Styles
import TextureCatalog.Proofs.Manifest.Loading
import TextureCatalog.Proofs.Text.Utf8

/-!
# Manifests that were written

A file that holds a document as JSON is loaded as the manifest that the document is, or is refused
for the violation that the document has.  It does not matter in which style the document was
written, nor which line ends the file has.
-/

namespace TextureCatalog.Manifest

variable {tree : Files.Tree} {surroundings : Files.Surroundings} {path target : Files.Path}
  {document : Document}

/-- The bytes of a text are the manifest that the document is which the text means. -/
theorem materialOfBytes_encode {text : List Char} (h : Json.Means text document) :
    materialOfBytes (Text.Utf8.encode text) = (materialOfDocument document).mapError .invalid := by
  have hread := h.unifyNewlines.read_eq
  simp only [materialOfBytes, Text.Utf8.decode_encode, hread]
  cases materialOfDocument document <;> rfl

theorem load_of_means {text : List Char} (h : Json.Means text document)
    (hfile : LeadsToFile tree surroundings path target (Text.Utf8.encode text)) :
    load tree surroundings path =
      (materialOfDocument document).mapError fun violation =>
        .content target (.invalid violation) := by
  rw [hfile.load_eq, materialOfBytes_encode h]
  cases materialOfDocument document <;> rfl

/-- A file to which a document was written, in any style, is loaded with the outcome that reading
the document itself as a manifest has: the same material, or the violation of the same field.  So it
is for every layout of the writer, whichever ends the lines have. -/
theorem load_of_written (h : Json.Legible document) :
    (∀ style : Json.Style,
      LeadsToFile tree surroundings path target (Text.Utf8.encode (style.write document)) →
        load tree surroundings path =
          (materialOfDocument document).mapError fun violation =>
            .content target (.invalid violation)) ∧
    ∀ (layout : Json.Layout) (lineEnd : Json.LineEnd),
      LeadsToFile tree surroundings path target
          (Text.Utf8.encode (lineEnd.apply (Json.write layout document))) →
        load tree surroundings path =
          (materialOfDocument document).mapError fun violation =>
            .content target (.invalid violation) := by
  refine ⟨fun style => load_of_means (style.means_write h), fun layout lineEnd => ?_⟩
  rw [← Json.Layout.style_write lineEnd h]
  exact load_of_means ((layout.style lineEnd).means_write h)

/-- A return and a clef are read from their escapes, between line ends of two characters; and a
width that is no number is refused as in the document. -/
theorem load_of_written_escaped_name :
    let slot (width : Document) : Document := .table
      [("property", .text "_Main"),
       ("texture", .table [("name", .text "Öl"), ("width", width), ("height", .integer 4)])]
    let document (slots : List Document) : Document :=
      .table [("material", .text "\r𝄞"), ("textures", .list slots)]
    let text (slots : List Document) : List Char :=
      Json.LineEnd.returnAndLineFeed.apply (Json.write { indent := some 2 } (document slots))
    let outcome (slots : List Document) : Except Fault Material :=
      load ⟨[(["m.json"], .file (Text.Utf8.encode (text slots)))]⟩ ⟨[], none, []⟩
        (.ofText "m.json")
    '\r' ∈ text [] ∧ '𝄞' ∉ text [] ∧ outcome [] = .ok { name := "\r𝄞" } ∧
      outcome [slot (.text "4")] = .error (.content (.ofText "m.json") (.invalid
        ⟨[.member "textures", .item 0, .member "texture", .member "width"],
          .nonNegativeInteger⟩)) := by
  intro slot document text outcome
  have hloaded (slots : List Document) (h : ∀ slot ∈ slots, Json.Legible slot) :
      outcome slots = (materialOfDocument (document slots)).mapError fun violation =>
        .content (.ofText "m.json") (.invalid violation) := by
    have hdocument : Json.Legible (document slots) :=
      .table (by simpa using ⟨.text, .list h⟩)
    exact (load_of_written hdocument).2 _ _ ⟨rfl, by decide +kernel, rfl⟩
  have hslot : Json.Legible (slot (.text "4")) := by
    have htexture : Json.Legible
        (.table [("name", .text "Öl"), ("width", .text "4"), ("height", .integer 4)]) :=
      .table (by simpa using ⟨.text, .text, .integer (by decide)⟩)
    exact .table (by simpa using ⟨.text, htexture⟩)
  refine ⟨by decide +kernel, by decide +kernel, ?_, ?_⟩
  · rw [hloaded _ (List.forall_mem_nil _)]
    rfl
  · rw [hloaded _ (List.forall_mem_singleton.2 hslot)]
    rfl

end TextureCatalog.Manifest
