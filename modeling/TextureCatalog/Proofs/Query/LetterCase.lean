import TextureCatalog.Proofs.Query.Positions
import TextureCatalog.Proofs.Query.Refusal
import TextureCatalog.Proofs.Text.AsciiCase

/-!
# Searches and the case of ASCII letters

A query is read alike in every spelling: neither separators nor marks nor comparisons have letters in
them, and what is looked for is compared in lower case.  So is the format text of a filter, and so are
the texts of textures.  Therefore a search keeps the same positions whatever is spelled in another
way.
-/

namespace TextureCatalog

open Text (asciiCapital asciiLower asciiLowered SpelledAlike IsNoLetter)

namespace Query

variable {query other : String}

namespace Comparison

/-- A comparison has no letters in it, in either case. -/
theorem asciiLower_eq_self_of_written {text digits : List Char} {operator : Operator}
    (h : Written (asciiLower text) operator digits ∨ Written text operator digits) :
    asciiLower text = text := by
  have hcapital : ∀ place, ∀ c, c = asciiCapital place ∨ c = (asciiCapital place).toLower →
      ¬ (c.isDigit = true ∨ c = '<' ∨ c = '>' ∨ c = '=') := by
    simp only [forall_eq_or_imp, forall_eq]
    decide +kernel
  refine (List.map_congr_left fun c hc => ?_).trans (List.map_id' text)
  rcases Text.toLower_eq_self_or_capital c with hsame | ⟨place, rfl⟩
  · exact hsame
  rcases h with hlowered | hwritten
  · have hlower := hlowered.mem_cases (List.mem_map_of_mem hc)
    exact absurd hlower (hcapital place _ (Or.inr rfl))
  · exact absurd (hwritten.mem_cases hc) (hcapital place _ (Or.inl rfl))

theorem shape?_asciiLower (text : List Char) : shape? (asciiLower text) = shape? text := by
  apply Option.ext
  rintro ⟨operator, digits⟩
  rw [shape?_eq_some_iff, shape?_eq_some_iff]
  constructor
  · intro h
    rwa [asciiLower_eq_self_of_written (Or.inl h)] at h
  · intro h
    rwa [asciiLower_eq_self_of_written (Or.inr h)]

theorem parse_asciiLowered (text : String) : parse (asciiLowered text) = parse text := by
  rw [parse, parse, Text.toList_asciiLowered, shape?_asciiLower]

end Comparison

namespace Term

/-- The term with its text in ASCII lower case. -/
def asciiLowered (term : Term) : Term :=
  { term with text := Text.asciiLowered term.text }

theorem isNegated_asciiLowered (term : String) :
    isNegated (Text.asciiLowered term) = isNegated term := by
  rw [isNegated, isNegated, Text.toList_asciiLowered]
  cases term.toList with
  | nil => rfl
  | cons c rest =>
      have hletter : IsNoLetter '!' := by decide +kernel
      have hmark : c.toLower = '!' ↔ c = '!' := hletter.toLower_eq_iff c
      simp [asciiLower, hmark]

theorem body_asciiLowered (term : String) :
    body (Text.asciiLowered term) = Text.asciiLowered (body term) := by
  rw [body, body, isNegated_asciiLowered]
  cases isNegated term with
  | false => rfl
  | true => simp [Text.asciiLowered, asciiLower]

theorem parse_asciiLowered (term : String) :
    Term.parse (Text.asciiLowered term) = (Term.parse term).map asciiLowered := by
  rw [parse_eq_map, parse_eq_map, body_asciiLowered, isNegated_asciiLowered,
    Comparison.parse_asciiLowered]
  cases Comparison.parse (body term) <;> rfl

theorem matchesTexture_asciiLowered (term : Term) (texture : Texture) :
    term.asciiLowered.matchesTexture texture = term.matchesTexture texture := by
  have hfield : occursInField (Text.asciiLowered term.text) = occursInField term.text := by
    funext field
    cases field with
    | none => rfl
    | some field =>
        rw [occursInField, occursInField, Text.toList_asciiLowered, Text.lower_asciiLower]
  simp only [matchesTexture, asciiLowered, Texture.mentions, hfield]

end Term

/-! ## Queries -/

theorem mem_bar_asciiLowered_iff : '|' ∈ (asciiLowered query).toList ↔ '|' ∈ query.toList := by
  rw [Text.toList_asciiLowered]
  exact Text.mem_asciiLower_iff (by decide +kernel)

theorem separatorOf_asciiLowered (query : String) :
    separatorOf (asciiLowered query) = separatorOf query := by
  simp only [separatorOf, mem_bar_asciiLowered_iff]

theorem termsBetween_asciiLower {separator : Char} (h : IsNoLetter separator) (text : List Char) :
    termsBetween separator (asciiLower text) = (termsBetween separator text).map asciiLowered := by
  have htrim : Text.trim ∘ asciiLower = asciiLower ∘ Text.trim := by
    funext piece
    exact Text.trim_asciiLower piece
  have hempty : (fun piece : List Char => !piece.isEmpty) ∘ asciiLower =
      fun piece => !piece.isEmpty := by
    funext piece
    cases piece <;> rfl
  have htext : String.ofList ∘ asciiLower = asciiLowered ∘ String.ofList := by
    funext piece
    simp [asciiLowered]
  rw [termsBetween, termsBetween, Text.cutAt_asciiLower h, List.map_map, htrim, ← List.map_map,
    List.filter_map, hempty, List.map_map, htext, List.map_map]

theorem splitTerms_asciiLowered (query : String) :
    splitTerms (asciiLowered query) =
      ((splitTerms query).1, (splitTerms query).2.map asciiLowered) := by
  have hseparator : IsNoLetter (separatorOf query) := by
    unfold separatorOf
    split <;> decide +kernel
  apply Prod.ext
  · have hmode : ∀ query, (splitTerms query).1 = Mode.ofText query.toList := fun _ => rfl
    simp only [hmode, Mode.ofText, mem_bar_asciiLowered_iff]
  · rw [splitTerms_snd, splitTerms_snd, separatorOf_asciiLowered, Text.toList_asciiLowered,
      termsBetween_asciiLower hseparator]

theorem test_asciiLowered (query : String) : test (asciiLowered query) = test query := by
  rw [test_eq_map_mapM, test_eq_map_mapM, splitTerms_asciiLowered,
    Term.mapM_parse_map fun term _ => Term.parse_asciiLowered term]
  cases (splitTerms query).2.mapM Term.parse with
  | error fault => rfl
  | ok terms =>
      apply congrArg Except.ok
      funext texture
      simp only [matchesTexture, List.isEmpty_map, allM_map, anyM_map,
        Term.matchesTexture_asciiLowered]

theorem test_eq_of_spelledAlike (h : SpelledAlike query other) : test query = test other := by
  rw [← test_asciiLowered query, h, test_asciiLowered]

end Query

/-! ## Textures -/

/-- Two textures that differ in nothing a search reads but the case of ASCII letters. -/
structure Texture.SpelledAlike (texture other : Texture) : Prop where
  name : Text.SpelledAlike texture.name other.name
  assetPath : Text.SpelledAlike texture.assetPath other.assetPath
  displayName : Text.SpelledAlike texture.displayName other.displayName
  propertyName : Text.SpelledAlike texture.propertyName other.propertyName
  pixelFormat : Text.SpelledAlike texture.pixelFormat other.pixelFormat
  compressionLabel :
    Text.SpelledAlike texture.importInfo.compressionLabel other.importInfo.compressionLabel
  width_eq : texture.width = other.width
  height_eq : texture.height = other.height
  isCrunched_eq : texture.importInfo.isCrunched = other.importInfo.isCrunched
  isNormalMap_eq : texture.importInfo.isNormalMap = other.importInfo.isNormalMap
  isLinear_eq : texture.importInfo.isLinear = other.importInfo.isLinear

namespace Texture.SpelledAlike

variable {texture other : Texture}

theorem maxDimension_eq (h : texture.SpelledAlike other) :
    texture.maxDimension = other.maxDimension := by
  rw [maxDimension, maxDimension, h.width_eq, h.height_eq]

theorem mentions_eq (h : texture.SpelledAlike other) (text : String) :
    texture.mentions text = other.mentions text := by
  have hfield {field otherField : String} (h : Text.SpelledAlike field otherField) :
      Query.occursInField text (some field) = Query.occursInField text (some otherField) := by
    rw [Query.occursInField, Query.occursInField, h.lower_eq]
  simp only [mentions, searchFields, sizeLabel, List.anyM_cons, hfield h.name, hfield h.assetPath,
    hfield h.displayName, hfield h.propertyName, hfield h.pixelFormat, hfield h.compressionLabel,
    h.width_eq, h.height_eq, h.isCrunched_eq, h.isNormalMap_eq, h.isLinear_eq]

theorem matchesTerm_eq (h : texture.SpelledAlike other) (term : Query.Term) :
    term.matchesTexture texture = term.matchesTexture other := by
  simp only [Query.Term.matchesTexture, h.maxDimension_eq, h.mentions_eq]

theorem matchesQuery_eq (h : texture.SpelledAlike other) (query : Query) :
    query.matchesTexture texture = query.matchesTexture other := by
  simp only [Query.matchesTexture, h.matchesTerm_eq]

theorem test_eq (h : texture.SpelledAlike other) {query : String}
    {keeps : Texture → Except Query.Fault Bool} (hkeeps : Query.test query = .ok keeps) :
    keeps texture = keeps other := by
  rw [Query.test_eq_map_parse] at hkeeps
  cases hparse : Query.parse query with
  | error fault => simp [hparse, Except.map] at hkeeps
  | ok parsed =>
      rw [hparse] at hkeeps
      obtain rfl := Except.ok.inj hkeeps
      cases parsed with
      | none => rfl
      | some query => exact h.matchesQuery_eq query

theorem resolutionPasses_eq (h : texture.SpelledAlike other) (filter : Filter) :
    filter.resolutionPasses texture = filter.resolutionPasses other := by
  rw [Filter.resolutionPasses, Filter.resolutionPasses, h.maxDimension_eq]

theorem contains_eq (h : texture.SpelledAlike other) (colorSpace : ColorSpace) :
    colorSpace.contains texture.importInfo = colorSpace.contains other.importInfo := by
  unfold ColorSpace.contains
  rw [h.isLinear_eq, h.isNormalMap_eq]

theorem formatPasses_eq (h : texture.SpelledAlike other) {filter : Filter} {format : String}
    (hformat : Text.SpelledAlike filter.format format) :
    filter.formatPasses texture = Filter.formatPasses { filter with format } other := by
  rw [Filter.formatPasses, Filter.formatPasses, hformat.isBlankText_eq, hformat.lower_eq,
    h.pixelFormat.lower_eq]

/-- A filter lets both textures pass or neither, also if its format text is spelled in another
way. -/
theorem passes_eq (h : texture.SpelledAlike other) {filter : Filter} {format : String}
    (hformat : Text.SpelledAlike filter.format format) :
    filter.passes texture = Filter.passes { filter with format } other := by
  rw [Filter.passes, Filter.passes, h.resolutionPasses_eq, h.contains_eq, h.isCrunched_eq,
    h.formatPasses_eq hformat]
  rfl

end Texture.SpelledAlike

/-! ## Searching -/

/-- Spelling the query, the format text of the filter and the texts of the textures in another way,
as far as the case of ASCII letters goes, changes neither which positions a search keeps nor whether
it is refused. -/
theorem search_ignores_ascii_case {textures others : List Texture} {query otherQuery : String}
    {filter : Filter} {format : String}
    (htextures : List.Forall₂ Texture.SpelledAlike textures others)
    (hquery : SpelledAlike query otherQuery) (hformat : SpelledAlike filter.format format) :
    searchPositions others otherQuery { filter with format } =
        searchPositions textures query filter ∧
      search textures query filter = ((searchPositions textures query filter).map fun positions =>
        positions.filterMap (textures[·]?)) ∧
      search others otherQuery { filter with format } =
        (searchPositions textures query filter).map fun positions =>
          positions.filterMap (others[·]?) := by
  have hkept : Query.keptPositions others otherQuery = Query.keptPositions textures query := by
    cases hkeeps : Query.test query with
    | error fault =>
        rw [Query.keptPositions, Query.keptPositions, ← Query.test_eq_of_spelledAlike hquery,
          hkeeps]
        rfl
    | ok keeps =>
        rw [Query.keptPositions_of_test_eq hkeeps, Query.keptPositions_of_test_eq
          ((Query.test_eq_of_spelledAlike hquery).symm.trans hkeeps)]
        exact (filterM_zipIdx_congr (htextures.imp fun _ _ halike => halike.test_eq hkeeps) 0).symm
  have hpasses : ∀ position, textures[position]?.any filter.passes =
      others[position]?.any (Filter.passes { filter with format }) :=
    any_getElem?_congr (htextures.imp fun _ _ halike => halike.passes_eq hformat)
  have hpositions : searchPositions others otherQuery { filter with format } =
      searchPositions textures query filter := by
    simp only [searchPositions, hkept, hpasses]
  refine ⟨hpositions, search_eq_map_searchPositions textures query filter, ?_⟩
  rw [search_eq_map_searchPositions, hpositions]

/-- Beside letters of either case, the first capital sigma does not end a word and the last one
does. -/
theorem search_ignores_ascii_case_tiles :
    let stone : Texture := ⟨"", "Roof", "_Main", "ΣtoneΣ", "Assets/A.png", 512, 512, "BC7 sRGB", {}⟩
    let other : Texture := ⟨"", "rOOF", "_maIN", "ΣTONEΣ", "assets/a.PNG", 512, 512, "bc7 SrgB", {}⟩
    let moss : Texture := ⟨"", "", "", "tonEΣ", "", 256, 256, "BC7", {}⟩
    let filter : Filter := { byFormat := true, format := "Bc7" }
    (List.Forall₂ Texture.SpelledAlike [stone, moss] [other, moss] ∧
        SpelledAlike "ΣTOneΣ, rooF" "ΣtoNEΣ, ROOf" ∧ SpelledAlike filter.format "bC7") ∧
      searchPositions [stone, moss] "ΣTOneΣ, rooF" filter = .ok [0] ∧
      searchPositions [other, moss] "ΣtoNEΣ, ROOf" { filter with format := "bC7" } = .ok [0] := by
  intro stone other moss filter
  have hstone : stone.SpelledAlike other := by constructor <;> decide +kernel
  have hmoss : moss.SpelledAlike moss := by constructor <;> decide +kernel
  have htextures : List.Forall₂ Texture.SpelledAlike [stone, moss] [other, moss] :=
    .cons hstone (.cons hmoss .nil)
  have hquery : SpelledAlike "ΣTOneΣ, rooF" "ΣtoNEΣ, ROOf" := by decide +kernel
  have hformat : SpelledAlike filter.format "bC7" := by decide +kernel
  have hkept : searchPositions [stone, moss] "ΣTOneΣ, rooF" filter = .ok [0] := by decide +kernel
  refine ⟨⟨htextures, hquery, hformat⟩, hkept, ?_⟩
  rw [(search_ignores_ascii_case htextures hquery hformat).1]
  exact hkept

end TextureCatalog
