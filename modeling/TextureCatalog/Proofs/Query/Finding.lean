import TextureCatalog.Proofs.Query.Composition
import TextureCatalog.Proofs.Query.Refusal
import TextureCatalog.Proofs.Text.Lowercase

/-!
# Finding a texture by what is written on it

A text without separators that is no comparison is looked for as it is, without the white space
around it.  A part of a text of the texture is found, because its lower-case form stands in that of
the text, unless it is cut off beside a capital sigma in such a way that the sigma ends a word of
only one of the two.
-/

namespace TextureCatalog

namespace Texture

variable {texture : Texture}

/-- Nothing stands in every text, so also in the first one. -/
theorem mentions_empty (texture : Texture) : texture.mentions "" = .ok true := by
  have hempty : Text.occursIn (Text.lower "".toList) (Text.lower texture.name.toList) = true :=
    Text.occursIn_iff.2 List.nil_infix
  rw [mentions, searchFields, List.anyM_cons, Query.occursInField, hempty]
  rfl

theorem eq_true_of_part {field text : String} {found : Bool}
    (hfield : some field ∈ texture.searchFields)
    (h : Text.lower text.toList <:+: Text.lower field.toList)
    (hfound : texture.mentions text = .ok found) : found = true :=
  (eq_true_iff_of_anyM hfound).2 ⟨some field, hfield, congrArg Except.ok (Text.occursIn_iff.2 h)⟩

/-- A part of a text of the texture stands in it, also after trimming, if its capital sigmas take
the same form in both. -/
theorem eq_true_of_trimmed_part {field part : String} {before after : List Char} {found : Bool}
    (hfield : some field ∈ texture.searchFields)
    (hpart : field.toList = before ++ part.toList ++ after)
    (hsigma : Text.SigmasAgree before part.toList after)
    (hfound : texture.mentions (Text.trimmed part) = .ok found) : found = true := by
  refine eq_true_of_part hfield ?_ hfound
  rw [Text.toList_trimmed, hpart]
  exact (Text.lower_trim_part part.toList).trans hsigma.lower_part

end Texture

namespace Query

/-- A text without separators that is no comparison is looked for without the white space around
it. -/
theorem test_of_isText {text : String} (hbar : '|' ∉ text.toList) (hcomma : ',' ∉ text.toList)
    (hmark : Term.isNegated (Text.trimmed text) = false)
    (htext : Comparison.IsText (Text.trimmed text)) :
    test text = .ok fun texture => texture.mentions (Text.trimmed text) := by
  rw [test_of_not_mem_bar hbar, splitTerms_of_not_mem_bar hbar, termsBetween_of_not_mem hcomma]
  cases hempty : (Text.trim text.toList).isEmpty with
  | true =>
      have htrimmed : Text.trimmed text = "" := by
        rw [Text.trimmed, List.isEmpty_iff.1 hempty, String.ofList_nil]
      apply congrArg Except.ok
      funext texture
      rw [htrimmed, texture.mentions_empty]
      rfl
  | false =>
      have hparse : Term.parse (Text.trimmed text) = .ok ⟨Text.trimmed text, false, none⟩ := by
        rw [Term.parse_eq_map, Term.body_eq_self hmark, hmark, Comparison.parse_eq_none_iff.2 htext]
        rfl
      have hterms : (if false = true then [] else [String.ofList (Text.trim text.toList)]) =
          [Text.trimmed text] := rfl
      rw [hterms, List.mapM_cons, hparse]
      apply congrArg Except.ok
      funext texture
      change [(⟨Text.trimmed text, false, none⟩ : Term)].allM (·.matchesTexture texture) = _
      rw [List.allM_cons, Term.matchesTexture]
      cases texture.mentions (Text.trimmed text) with
      | error fault => rfl
      | ok found => cases found <;> rfl

/-- Looking for a part of a text of a texture, in its own spelling, finds the texture.  It is missed
only if a capital sigma of the part has another lower-case form there than in the text, and the
search fails only if a dimension of the texture is not written. -/
theorem filter_part_of_field {texture : Texture} {field part : String} {before after : List Char}
    (hfield : some field ∈ texture.searchFields)
    (hpart : field.toList = before ++ part.toList ++ after)
    (hbar : '|' ∉ part.toList) (hcomma : ',' ∉ part.toList)
    (hmark : Term.isNegated (Text.trimmed part) = false)
    (htext : Comparison.IsText (Text.trimmed part)) :
    Query.filter [texture] part = .ok [texture] ∨
      (Query.filter [texture] part = .ok [] ∧
        ¬ Text.SigmasAgree before part.toList after) ∨
      (Query.filter [texture] part = .error .dimensionTooLong ∧ ¬ texture.HasNumerals) := by
  have htest := test_of_isText hbar hcomma hmark htext
  rw [filter_singleton_of_test htest]
  cases hmentions : texture.mentions (Text.trimmed part) with
  | error fault =>
      obtain ⟨rfl, hnumerals⟩ := Texture.fault_of_mentions hmentions
      exact .inr (.inr ⟨rfl, hnumerals⟩)
  | ok found =>
      cases found with
      | true => exact .inl rfl
      | false =>
          refine .inr (.inl ⟨rfl, fun hsigma => ?_⟩)
          exact absurd (Texture.eq_true_of_trimmed_part hfield hpart hsigma hmentions) (by decide)

/-- The part ends behind a sigma, which ends a word of the whole text as well. -/
theorem filter_part_of_field_word :
    let paving : Texture := ⟨"", "", "", "Υφή ΛΙΘΟΣ 2>=1", "", 4, 2, "", {}⟩
    (some "Υφή ΛΙΘΟΣ 2>=1" ∈ paving.searchFields ∧
        "Υφή ΛΙΘΟΣ 2>=1".toList = "Υφή Λ".toList ++ "ΙΘΟΣ ".toList ++ "2>=1".toList ∧
        '|' ∉ "ΙΘΟΣ ".toList ∧ ',' ∉ "ΙΘΟΣ ".toList ∧
        Term.isNegated (Text.trimmed "ΙΘΟΣ ") = false ∧
        Comparison.IsText (Text.trimmed "ΙΘΟΣ ")) ∧
      Query.filter [paving] "ΙΘΟΣ " = .ok [paving] := by
  intro paving
  have hfield : some "Υφή ΛΙΘΟΣ 2>=1" ∈ paving.searchFields := by decide +kernel
  have hpart : "Υφή ΛΙΘΟΣ 2>=1".toList = "Υφή Λ".toList ++ "ΙΘΟΣ ".toList ++ "2>=1".toList := by
    decide +kernel
  have hbar : '|' ∉ "ΙΘΟΣ ".toList := by decide +kernel
  have hcomma : ',' ∉ "ΙΘΟΣ ".toList := by decide +kernel
  have hmark : Term.isNegated (Text.trimmed "ΙΘΟΣ ") = false := by decide +kernel
  have htext : Comparison.IsText (Text.trimmed "ΙΘΟΣ ") :=
    Comparison.parse_eq_none_iff.1 (by decide +kernel)
  have hsigma : Text.SigmasAgree "Υφή Λ".toList "ΙΘΟΣ ".toList "2>=1".toList := by decide +kernel
  have hnumerals : paving.HasNumerals := by decide +kernel
  refine ⟨⟨hfield, hpart, hbar, hcomma, hmark, htext⟩, ?_⟩
  rcases filter_part_of_field hfield hpart hbar hcomma hmark htext with hkept | hmissed | hfails
  · exact hkept
  · exact absurd hsigma hmissed.2
  · exact absurd hnumerals hfails.2

/-- Cut off behind a sigma in the middle of a word, the part has a sigma at its end and the text has
none, so that the texture is missed. -/
theorem filter_misses_part_of_word :
    let paving : Texture := ⟨"", "", "", "ΛΙΘΟΣΤΡΩΤΟ", "", 4, 2, "", {}⟩
    some "ΛΙΘΟΣΤΡΩΤΟ" ∈ paving.searchFields ∧
      "ΛΙΘΟΣΤΡΩΤΟ".toList = [] ++ "ΛΙΘΟΣ".toList ++ "ΤΡΩΤΟ".toList ∧
      '|' ∉ "ΛΙΘΟΣ".toList ∧ ',' ∉ "ΛΙΘΟΣ".toList ∧
      Term.isNegated (Text.trimmed "ΛΙΘΟΣ") = false ∧
      Comparison.IsText (Text.trimmed "ΛΙΘΟΣ") ∧
      Query.filter [paving] "ΛΙΘΟΣ" = .ok [] := by
  intro paving
  have htext : Comparison.IsText (Text.trimmed "ΛΙΘΟΣ") :=
    Comparison.parse_eq_none_iff.1 (by decide +kernel)
  refine ⟨?_, ?_, ?_, ?_, ?_, htext, ?_⟩ <;> decide +kernel

end Query

end TextureCatalog
