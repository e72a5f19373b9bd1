import TextureCatalog.Proofs.Program.Invocation
import TextureCatalog.Proofs.Program.ManifestFaults
import TextureCatalog.Proofs.Program.Printing
import TextureCatalog.Proofs.Program.TableOutput
import TextureCatalog.Proofs.Query.Positions
import TextureCatalog.Proofs.Query.Refusal

/-!
# What a search prints

The search command prints the textures that the search in the library keeps, up to its limit, in the
format that is asked for, and nothing else.
-/

namespace TextureCatalog.Program

variable {environment : Environment} {entry : Entry} {texts : List String} {context : Context}
  {request : SearchRequest} {material : Material} {kept textures : List Texture}
  {screen : Terminal.Screen} {before after : RunState}

/-! ## Formats -/

theorem completes_forM {α : Type} {action : α → Action Unit} {line : α → List Char}
    (h : ∀ item before, Completes (action item) screen before ()
      { before with output := before.output ++ line item }) (items : List α) (before : RunState) :
    Completes (items.forM action) screen before ()
      { before with output := before.output ++ items.flatMap line } := by
  induction items generalizing before with
  | nil =>
      rw [List.flatMap_nil, List.append_nil]
      exact completes_pure ()
  | cons item items ih =>
      rw [List.flatMap_cons, ← List.append_assoc]
      exact (h item before).bind (ih _)

theorem completes_showTextures_json (h : request.format = .json) (before : RunState) :
    Completes (showTextures context request material textures) screen before ()
      { before with output := before.output ++ plainLine (jsonText textures) } := by
  rw [showTextures, h]
  exact completes_write _

theorem completes_showTextures_paths (h : request.format = .paths) (before : RunState) :
    Completes (showTextures context request material textures) screen before ()
      { before with
        output := before.output ++
          textures.flatMap fun texture => plainLine (pathText texture).toList } := by
  rw [showTextures, h]
  exact completes_forM (fun texture _ => completes_write _) textures before

/-! ## Responses -/

theorem completes_noteDetail (h : context.verbose = false) (message : String) :
    Completes (context.noteDetail message) screen before () before := by
  rw [Context.noteDetail, h]
  exact completes_pure ()

/-- Without details, only the textures are shown. -/
theorem completes_respond (hverbose : context.verbose = false)
    (hsearch : search material.textures request.queryText
      (context.settings.filterWith request.overrides) = .ok kept) (hkept : kept ≠ [])
    (hshow : Completes (showTextures context request material (limited request.limit kept)) screen
      before () after) :
    Completes (respond context request (.ok material)) screen before success after := by
  have hempty : ¬ kept.isEmpty = true := by simpa using hkept
  have hmatches : Completes (showMatches context request material kept) screen before () after := by
    rw [showMatches, if_neg hempty]
    dsimp only
    split_ifs
    · exact (completes_noteDetail hverbose _).bind hshow
    · exact hshow
  refine (completes_noteDetail hverbose _).bind ?_
  rw [hsearch]
  exact hmatches.bind (completes_pure success)

/-- A run whose search shows textures ends with success and what they print. -/
theorem run_of_completes_showTextures (hinvokes : Invokes environment entry texts context request)
    (hproceeds : Proceeds environment.screen context request) (hverbose : context.verbose = false)
    (hdebug : context.debug = false)
    (hload : Manifest.load environment.tree environment.surroundings request.manifest =
      .ok material)
    (hsearch : search material.textures request.queryText
      (context.settings.filterWith request.overrides) = .ok kept) (hkept : kept ≠ [])
    {output : List Char}
    (hshow : Completes (showTextures context request material (limited request.limit kept))
      environment.screen { tree := environment.tree } ()
      { tree := environment.tree, output := output, diagnostics := [] }) :
    run entry environment texts = ⟨success, none, ⟨environment.tree, output, []⟩⟩ := by
  obtain ⟨text, hnothing, hrun⟩ := hproceeds.exists_run { tree := environment.tree }
  rw [hnothing hdebug, hinvokes.surroundings_eq, hload] at hrun
  exact hinvokes.run_of_completes (hrun.trans (completes_respond hverbose hsearch hkept hshow))

/-! ## Searches -/

theorem mem_of_mem_limited {limit : Option Int} {texture : Texture}
    (h : texture ∈ limited limit kept) : texture ∈ kept := by
  rw [limited.eq_def] at h
  split at h
  · exact List.mem_of_mem_take h
  · exact h

theorem mem_of_mem_search {filter : Filter} {query : String} {texture : Texture}
    (h : search textures query filter = .ok kept) (hmem : texture ∈ kept) : texture ∈ textures := by
  rw [search_eq_map_searchPositions] at h
  cases hpositions : searchPositions textures query filter with
  | error fault =>
      rw [hpositions] at h
      cases h
  | ok positions =>
      rw [hpositions] at h
      obtain rfl := Except.ok.inj h
      obtain ⟨position, -, hposition⟩ := List.mem_filterMap.1 hmem
      exact List.mem_of_getElem? hposition

/-- The search command does what the search in the library does, if the strings of the manifest are
texts. -/
theorem search_command_shows_kept_textures
    (hinvokes : Invokes environment entry texts context request)
    (hverbose : context.verbose = false) (hdebug : context.debug = false)
    (hlimit : ∀ count, request.limit = some count → 0 ≤ count)
    (hload : Manifest.LoadsTexts environment.tree environment.surroundings request.manifest
      material)
    (hquery : Query.Readable request.queryText) :
    ∃ kept, search material.textures request.queryText
        (context.settings.filterWith request.overrides) = .ok kept ∧
      (kept ≠ [] →
        (HasWritableBounds context request →
          (request.format = .json → ∃ output objects,
            run entry environment texts = ⟨success, none, ⟨environment.tree, output, []⟩⟩ ∧
            Json.read output = .ok (.list objects) ∧
            List.Forall₂ IsObjectOf objects (limited request.limit kept)) ∧
          (request.format = .paths → ∃ output,
            run entry environment texts = ⟨success, none, ⟨environment.tree, output, []⟩⟩ ∧
            ((∀ texture ∈ limited request.limit kept,
                Json.escapeChar ∉ (pathText texture).toList) →
              output = (limited request.limit kept).flatMap fun texture =>
                (pathText texture).toList ++ ['\n'])) ∧
          (request.format = .table →
            TablePrints environment.screen context request material (limited request.limit kept) →
            ∃ output,
              run entry environment texts = ⟨success, none, ⟨environment.tree, output, []⟩⟩)) ∧
        (¬ HasWritableBounds context request →
          run entry environment texts =
            ⟨refusal, some .numeralTooLong, ⟨environment.tree, [], []⟩⟩)) := by
  have hsettles : ∀ texture ∈ material.textures, Query.Settles request.queryText texture := by
    intro texture hmem
    have hsound := Manifest.isSound_of_load hload.load_eq texture hmem
    exact Query.settles_of_hasNumerals hquery ⟨hsound.width, hsound.height⟩
  obtain ⟨kept, hsearch⟩ := (exists_search_eq_ok_iff material.textures request.queryText
    (context.settings.filterWith request.overrides)).2 ⟨hquery, hsettles⟩
  refine ⟨kept, hsearch, fun hkept => ⟨fun hbounds => ?_, fun hbounds => ?_⟩⟩
  · have hproceeds : Proceeds environment.screen context request :=
      ⟨hlimit, hbounds, fun htrue => absurd (hdebug.symm.trans htrue) (by decide)⟩
    have hsound : ∀ texture ∈ limited request.limit kept, Manifest.IsSound texture :=
      fun texture hmem => Manifest.isSound_of_load hload.load_eq texture
        (mem_of_mem_search hsearch (mem_of_mem_limited hmem))
    have hrun {output : List Char} (hshow : Completes
        (showTextures context request material (limited request.limit kept)) environment.screen
        { tree := environment.tree } () { tree := environment.tree, output := output }) :=
      run_of_completes_showTextures hinvokes hproceeds hverbose hdebug hload.load_eq hsearch hkept
        hshow
    refine ⟨fun hformat => ?_, fun hformat => ?_, fun hformat hprints => ?_⟩
    · obtain ⟨objects, hread, hobjects⟩ := exists_read_jsonText hsound
      exact ⟨_, objects, hrun (completes_showTextures_json hformat _), hread, hobjects⟩
    · exact ⟨_, hrun (completes_showTextures_paths hformat _), flatMap_plainLine_of_not_mem⟩
    · obtain ⟨output, hshow⟩ := hprints.exists_showTextures hsound hformat _
      exact ⟨_, hrun hshow⟩
  · exact hinvokes.run_of_fails (runSearch_of_not_hasWritableBounds hlimit hbounds _)

/-- The content of a manifest with one texture. -/
def manifestOf (material texture : String) : List UInt8 :=
  Text.Utf8.encode <| Json.write {} <| .table
    [("material", .text material),
     ("textures", .list [.table
       [("property", .text "_P"),
        ("texture", .table
          [("name", .text texture), ("width", .integer 4), ("height", .integer 2)])]])]

/-- The texture of the manifest. -/
def textureNamed (name : String) : Texture :=
  { id := name, displayName := "_P", propertyName := "_P", name, assetPath := ""
    width := 4, height := 2, pixelFormat := "" }

/-- Arguments that ask for the textures with a text as JSON. -/
def jsonArguments (query : String) : CommandLine.Arguments :=
  { settings := searchCommand.options.filterMap fun option =>
      if option.name == "--output-format" then some (option, .value "json") else none
    operands := ["m.json", query] }

/-- A texture is found by its name and shown as JSON. -/
theorem search_command_shows_grain :
    let environment := alone (manifestOf "Oak" "Grain")
    ∃ output objects, run .search environment ["m.json", "-f", "json", "grain"] =
        ⟨success, none, ⟨environment.tree, output, []⟩⟩ ∧
      Json.read output = .ok (.list objects) ∧
      List.Forall₂ IsObjectOf objects [textureNamed "Grain"] := by
  intro environment
  have hread : searchCommand.read ["m.json", "-f", "json", "grain"] =
      .ok (.run (jsonArguments "grain")) := by decide +kernel
  have hload : Manifest.LoadsTexts environment.tree environment.surroundings
      (SearchRequest.ofArguments (jsonArguments "grain")).manifest
      { name := "Oak", textures := [textureNamed "Grain"] } := by
    refine ⟨by decide +kernel, fun target content text hfile hdecode => ?_⟩
    obtain rfl := (leadsToFile_alone (manifestOf "Oak" "Grain")).content_eq hfile
    obtain rfl := Except.ok.inj ((Text.Utf8.decode_encode _).symm.trans hdecode)
    exact Json.pairsSurrogates_of_not_mem (by decide +kernel)
  have hkept : search [textureNamed "Grain"]
      (SearchRequest.ofArguments (jsonArguments "grain")).queryText
      (Settings.filterWith {} (SearchRequest.ofArguments (jsonArguments "grain")).overrides) =
        .ok [textureNamed "Grain"] := by decide +kernel
  have hquery : Query.Readable (SearchRequest.ofArguments (jsonArguments "grain")).queryText :=
    ((exists_search_eq_ok_iff _ _ _).1 ⟨_, hkept⟩).1
  have hlimit : (SearchRequest.ofArguments (jsonArguments "grain")).limit = none := by
    decide +kernel
  have hformat : (SearchRequest.ofArguments (jsonArguments "grain")).format = .json := by
    decide +kernel
  have hbounds : HasWritableBounds { surroundings := environment.surroundings }
      (SearchRequest.ofArguments (jsonArguments "grain")) := by
    unfold HasWritableBounds
    decide +kernel
  have hinvokes : Invokes environment .search ["m.json", "-f", "json", "grain"]
      { surroundings := environment.surroundings } _ := .alone hread
  obtain ⟨kept, hsearch, hshows⟩ := search_command_shows_kept_textures hinvokes rfl rfl
    (fun count hcount => by rw [hlimit] at hcount; cases hcount) hload hquery
  obtain rfl := Except.ok.inj (hsearch.symm.trans hkept)
  obtain ⟨output, objects, hrun, hobjects, hdescribed⟩ :=
    ((hshows (List.cons_ne_nil _ _)).1 hbounds).1 hformat
  rw [hlimit] at hdescribed
  exact ⟨output, objects, hrun, hobjects, hdescribed⟩

/-- The name of the material leaves a bracket open that the query closes, and the title is taken for
a tag. -/
theorem search_command_fails_for_open_bracket :
    let environment := alone (manifestOf "[/a" "x]")
    Manifest.load environment.tree environment.surroundings (.ofText "m.json") =
        .ok { name := "[/a", textures := [textureNamed "x]"] } ∧
      search [textureNamed "x]"] "x]" (Settings.filterWith {} {}) = .ok [textureNamed "x]"] ∧
      (run .search environment ["m.json", "x]"]).exitCode = refusal ∧
      (run .search environment ["m.json", "x]"]).failure =
        some (.markup (.unmatchedTag "/a: 1 of 1 textures matching 'x")) := by
  decide +kernel

end TextureCatalog.Program
