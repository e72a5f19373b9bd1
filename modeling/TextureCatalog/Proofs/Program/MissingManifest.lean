import TextureCatalog.Proofs.Files.Missing
import TextureCatalog.Proofs.Program.Invocation
import TextureCatalog.Proofs.Terminal.Faithful

/-!
# Searches in manifests that do not exist

A search that finds nothing at the path of the manifest reports the path and ends with an exit code
of its own.  The path is put into the message as it is, without being escaped, so the report can be
relied on exactly if the path shows as it is.
-/

namespace TextureCatalog.Program

open CommandLine Terminal

open Terminal.Markup (labelled ShowsAsItIs)

/-! ## One operand -/

variable {text : String}

theorem isOptionText_eq_false (h : text.toList.head? ≠ some '-') : isOptionText text = false := by
  have hstart : text.startsWith "-" = false := by
    rw [String.startsWith_string_eq_false_iff]
    rintro ⟨rest, hrest⟩
    exact h (by rw [← hrest]; rfl)
  rw [isOptionText, hstart]
  rfl

/-- A text that is no option is the path of the manifest. -/
theorem read_operand (hdash : text.toList.head? ≠ some '-') (hnul : '\x00' ∉ text.toList) :
    searchCommand.read [text] = .ok (.run { operands := [text] }) := by
  have hdashes : text ≠ "--" := by
    rintro rfl
    exact hdash rfl
  have harguments : readArguments searchCommand.allOptions (!searchCommand.hasSubcommands) [text] =
      .ok { operands := [text] } := by
    rw [readArguments, if_neg hdashes, isOptionText_eq_false hdash]
    rfl
  have hoperands : checkOperands searchCommand.operands [text] = .ok () := by
    have hpath : checkPath text = .ok () := if_neg hnul
    simp only [searchCommand, checkOperands, if_true, hpath]
  have hplain : (!searchCommand.hasSubcommands) = true := rfl
  rw [Command.read, harguments]
  simp only [Arguments.options, List.foldl_nil, List.find?_nil, hplain, if_true, hoperands]
  rfl

/-- A search with nothing but the path of the manifest. -/
theorem invokes_operand (hdash : text.toList.head? ≠ some '-') (hnul : '\x00' ∉ text.toList)
    (environment : Environment) :
    Invokes environment .search [text] { surroundings := environment.surroundings }
      (.ofArguments { operands := [text] }) :=
  .alone (read_operand hdash hnul)

theorem proceeds_operand (screen : Screen) (surroundings : Files.Surroundings) (text : String) :
    Proceeds screen { surroundings } (.ofArguments { operands := [text] }) := by
  refine ⟨fun _ hlimit => ?_, ?_, fun hdebug => ?_⟩
  · cases hlimit
  · have hzero : Text.isWritable 0 = true := by decide +kernel
    have hdefault : Text.isWritable 8192 = true := by decide +kernel
    exact ⟨hzero, hdefault⟩
  · cases hdebug

/-! ## The message -/

/-- A path at which nothing stands gives a fault that says so. -/
theorem load_of_namesNothing {tree : Files.Tree} {surroundings : Files.Surroundings}
    (h : Files.NamesNothing tree surroundings text) :
    Manifest.load tree surroundings (.ofText text) = .error (.notFound (.ofText text)) := by
  simp only [Manifest.load, h.home]
  split_ifs
  · rfl
  · rcases h.reach_cases with hreach | hreach <;> rw [hreach]

/-- The beginning of the message about a path at which nothing stands. -/
def missingLead : List Char := " Manifest not found: ".toList

theorem canVanish_label : ∀ c ∈ "Error:".toList, Markup.canVanish c = false :=
  Markup.forall_eq_false_of_any (by decide)

theorem canVanish_missingLead : ∀ c ∈ missingLead, Markup.canVanish c = false :=
  Markup.forall_eq_false_of_any (by decide)

theorem toList_missing (path : Files.Path) :
    (s!"[error]Error:[/error] {(Manifest.Fault.notFound path).message}").toList =
      labelled 0 "error".toList "Error:".toList (missingLead ++ path.toText.toList) := by
  have hmessage : (toString (Manifest.Fault.notFound path).message).toList =
      "Manifest not found: ".toList ++ path.toText.toList := String.toList_append
  rw [String.toList_append, hmessage]
  rfl

/-- The text of the report about a path at which nothing stands. -/
def missingReport (path : Files.Path) : List Char :=
  "Error:".toList ++ (missingLead ++ path.toText.toList)

section Messages

variable {screen : Screen} {width : Nat} {markup : String} {visible text : List Char}

theorem laidOut_of_shown (h : screen.messageWidth? = some width)
    (hshown : Markup.shown markup.toList = .ok visible) (before : RunState) :
    (laidOut markup).run screen before = (cutText (printed width visible)).run screen before := by
  have hread : Completes (read : Action Screen) screen before screen before := rfl
  rw [laidOut, (completes_shown hshown).run_bind, hread.run_bind, h]

theorem completes_report (h : screen.messageWidth? = some width)
    (hshown : Markup.shown markup.toList = .ok visible) (hprinted : printed width visible = some text)
    (before : RunState) :
    Completes (report markup) screen before ()
      { before with diagnostics := before.diagnostics ++ text } := by
  have hlaidOut : Completes (laidOut markup) screen before text before := by
    rw [Completes, laidOut_of_shown h hshown, hprinted]
    rfl
  exact hlaidOut.bind (completes_writeDiagnostic text)

/-- A message is printed, or it ends the run. -/
theorem report_cases (h : screen.messageWidth? = some width) (markup : String)
    (before : RunState) :
    (∃ visible text, Markup.shown markup.toList = .ok visible ∧ printed width visible = some text) ∨
      ∃ failure, Fails (report markup) screen before failure before := by
  cases hshown : Markup.shown markup.toList with
  | error fault =>
      have hfails : Fails (shown markup) screen before (.markup fault) before := by
        rw [shown, hshown]
        exact fails_throw _
      exact .inr ⟨_, (hfails.bind _).bind _⟩
  | ok visible =>
      cases hprinted : printed width visible with
      | none =>
          have hfails : Fails (laidOut markup) screen before .uncuttable before := by
            rw [Fails, laidOut_of_shown h hshown, hprinted]
            rfl
          exact .inr ⟨_, hfails.bind _⟩
      | some text => exact .inl ⟨visible, text, rfl, hprinted⟩

end Messages

/-! ## The report -/

variable {environment : Environment} {entry : Entry} {texts : List String} {context : Context}
  {request : SearchRequest}

/-- A run ends with the exit code for a wrong use and without a failure, and reports that there is no
manifest at a shown path. -/
structure ReportsMissing (outcome : Outcome) (path : String) : Prop where
  exitCode : outcome.exitCode = misuse
  failure : outcome.failure = none
  said : ("Manifest not found: " ++ path).toList <:+: outcome.state.diagnostics

/-- What a search does at a path at which nothing stands, apart from messages about its inner
workings. -/
theorem run_of_namesNothing (hproceeds : Proceeds environment.screen context request)
    (hsurroundings : context.surroundings = environment.surroundings)
    (hmanifest : request.manifest = .ofText text)
    (h : Files.NamesNothing environment.tree environment.surroundings text) :
    ∃ inside, (context.debug = false → inside = []) ∧
      (runSearch context request).run environment.screen { tree := environment.tree } =
        (do
          reportError (Manifest.Fault.notFound (.ofText text)).message
          return misuse : Action Nat).run environment.screen
            { tree := environment.tree, output := [], diagnostics := inside } := by
  obtain ⟨inside, hnothing, hrun⟩ := hproceeds.exists_run { tree := environment.tree }
  refine ⟨inside, hnothing, hrun.trans ?_⟩
  rw [hsurroundings, hmanifest, load_of_namesNothing h]
  rfl

theorem missingReport_short
    (h : Files.NamesNothing environment.tree environment.surroundings text) :
    2 * (missingReport (.ofText text)).length ≤ Screen.messageWidth := by
  have hbytes := Files.byteLength_toText_ofText_le text
  have hlength := Files.length_le_byteLength (Files.Path.ofText text).toText
  have hshort : Files.byteLength text ≤ 4095 := h.short
  have hwidth : Screen.messageWidth = 10000 := rfl
  have hlead : missingLead.length = 21 := by decide
  have hword : "Error:".toList.length = 6 := by decide
  change 2 * ("Error:".toList ++ (missingLead ++ (Files.Path.ofText text).toText.toList)).length ≤ _
  rw [List.length_append, List.length_append, hlead, hword, hwidth]
  omega

/-- A path that shows as it is is reported as it is. -/
theorem exists_run_of_showsAsItIs (hinvokes : Invokes environment entry texts context request)
    (hproceeds : Proceeds environment.screen context request)
    (hmanifest : request.manifest = .ofText text)
    (h : Files.NamesNothing environment.tree environment.surroundings text)
    (hscreen : environment.screen.messageWidth? = some Screen.messageWidth)
    (hshows : ShowsAsItIs (Files.Path.ofText text).toText.toList) :
    ∃ inside, run entry environment texts =
      ⟨misuse, none, ⟨environment.tree, [], inside ++ (missingReport (.ofText text) ++ ['\n'])⟩⟩ := by
  obtain ⟨inside, -, hrun⟩ := run_of_namesNothing hproceeds hinvokes.surroundings_eq hmanifest h
  obtain ⟨hshown, hprinted⟩ := hshows.printed_labelled Markup.isLabel_error canVanish_label
    canVanish_missingLead (by decide) (missingReport_short h)
  rw [← toList_missing] at hshown
  have hreport := completes_report hscreen hshown hprinted
    { tree := environment.tree, output := [], diagnostics := inside }
  exact ⟨inside, hinvokes.run_of_completes (hrun.trans (hreport.bind (completes_pure misuse)))⟩

/-- A path that is reported as it is shows as it is, unless other messages are printed. -/
theorem showsAsItIs_of_reportsMissing (hinvokes : Invokes environment entry texts context request)
    (hproceeds : Proceeds environment.screen context request)
    (hmanifest : request.manifest = .ofText text)
    (h : Files.NamesNothing environment.tree environment.surroundings text)
    (hscreen : environment.screen.messageWidth? = some Screen.messageWidth)
    (hdebug : context.debug = false)
    (hreports : ReportsMissing (run entry environment texts) (Files.Path.ofText text).toText) :
    ShowsAsItIs (Files.Path.ofText text).toText.toList := by
  obtain ⟨inside, hnothing, hrun⟩ :=
    run_of_namesNothing hproceeds hinvokes.surroundings_eq hmanifest h
  obtain rfl := hnothing hdebug
  let start : RunState := { tree := environment.tree, output := [], diagnostics := [] }
  obtain ⟨visible, shownText, hshown, hprinted⟩ | ⟨failure, hfails⟩ := report_cases hscreen
    s!"[error]Error:[/error] {(Manifest.Fault.notFound (.ofText text)).message}" start
  · have hreport := completes_report hscreen hshown hprinted start
    have houtcome := hinvokes.run_of_completes
      (hrun.trans (hreport.bind (completes_pure misuse)))
    have hsaid := hreports.said
    rw [houtcome, String.toList_append] at hsaid
    rw [toList_missing] at hshown
    have hpath : (Files.Path.ofText text).toText.toList <:+: shownText :=
      (List.suffix_append _ _).isInfix.trans hsaid
    exact Markup.showsAsItIs_of_printed Markup.isLabel_error canVanish_label canVanish_missingLead
      (by decide) (missingReport_short h) hshown hprinted hpath
  · have houtcome := hinvokes.run_of_fails (hrun.trans (hfails.bind _))
    have hfailure := hreports.failure
    rw [houtcome] at hfailure
    exact absurd hfailure (by simp)

theorem reportsMissing_of_run_eq {inside : List Char}
    (h : run entry environment texts = ⟨misuse, none,
      ⟨environment.tree, [], inside ++ (missingReport (.ofText text) ++ ['\n'])⟩⟩) :
    ReportsMissing (run entry environment texts) (Files.Path.ofText text).toText := by
  have hsuffix : ("Manifest not found: " ++ (Files.Path.ofText text).toText).toList <:+
      missingReport (.ofText text) := ⟨"Error: ".toList, by rw [String.toList_append]; rfl⟩
  have hsaid : missingReport (.ofText text) <:+: inside ++ (missingReport (.ofText text) ++ ['\n']) :=
    ⟨inside, ['\n'], List.append_assoc ..⟩
  rw [h]
  exact ⟨rfl, rfl, hsuffix.isInfix.trans hsaid⟩

/-- A run reports a path that shows as it is, and unless messages about its inner workings are asked
for, it reports no other. -/
theorem reports_of_invokes (hinvokes : Invokes environment entry texts context request)
    (hproceeds : Proceeds environment.screen context request)
    (hmanifest : request.manifest = .ofText text)
    (h : Files.NamesNothing environment.tree environment.surroundings text)
    (hscreen : environment.screen.messageWidth? = some Screen.messageWidth) :
    let path := (Files.Path.ofText text).toText
    (ShowsAsItIs path.toList → ReportsMissing (run entry environment texts) path ∧
        (run entry environment texts).state.output = [] ∧
        (run entry environment texts).state.tree = environment.tree) ∧
      (context.debug = false → ReportsMissing (run entry environment texts) path →
        ShowsAsItIs path.toList) := by
  refine ⟨fun hshows => ?_, fun hdebug hreports => ?_⟩
  · obtain ⟨inside, hrun⟩ := exists_run_of_showsAsItIs hinvokes hproceeds hmanifest h hscreen hshows
    exact ⟨reportsMissing_of_run_eq hrun, by rw [hrun], by rw [hrun]⟩
  · exact showsAsItIs_of_reportsMissing hinvokes hproceeds hmanifest h hscreen hdebug hreports

/-- A search in a manifest that does not exist reports the path if the path shows as it is, and then
it changes and prints nothing else.  Unless messages about its inner workings are asked for, it
reports no other paths: what is reported as it is, shows as it is. -/
theorem missing_manifest_is_reported_iff
    (h : Files.NamesNothing environment.tree environment.surroundings text)
    (hdash : text.toList.head? ≠ some '-') (hnul : '\x00' ∉ text.toList)
    (hscreen : environment.screen.messageWidth? = some Screen.messageWidth) :
    let path := (Files.Path.ofText text).toText
    (ReportsMissing (run .search environment [text]) path ↔ ShowsAsItIs path.toList) ∧
      ∀ entry texts context request, Invokes environment entry texts context request →
        Proceeds environment.screen context request → request.manifest = .ofText text →
          (ShowsAsItIs path.toList → ReportsMissing (run entry environment texts) path ∧
            (run entry environment texts).state.output = [] ∧
            (run entry environment texts).state.tree = environment.tree) ∧
          (context.debug = false → ReportsMissing (run entry environment texts) path →
            ShowsAsItIs path.toList) := by
  intro path
  obtain ⟨hreported, hshown⟩ := reports_of_invokes (invokes_operand hdash hnul environment)
    (proceeds_operand environment.screen environment.surroundings text) rfl h hscreen
  refine ⟨⟨hshown rfl, fun hshows => (hreported hshows).1⟩, ?_⟩
  intro entry texts context request hinvokes hproceeds hmanifest
  exact reports_of_invokes hinvokes hproceeds hmanifest h hscreen

/-- The environment of a program that finds no file. -/
def bare : Environment :=
  { surroundings := { workingDirectory := [], home := none }, tree := ⟨[]⟩ }

theorem namesNothing_bare
    (hshort : Files.byteLength text ≤ Files.pathLimit)
    (hnames : ∀ name ∈ (Files.Path.ofText text).names, Files.byteLength name ≤ Files.nameLimit)
    (hhome : (Files.Path.ofText text).expandHome bare.surroundings = .ok (.ofText text))
    (habsent : (bare.tree.reach (.ofText text) bare.surroundings.workingDirectory).toOption = none) :
    Files.NamesNothing bare.tree bare.surroundings text := by
  refine ⟨hshort, hnames, hhome, fun entry hentry => ?_⟩
  rw [hentry] at habsent
  exact absurd habsent (by simp [Except.toOption])

/-- A plain name is reported. -/
theorem missing_manifest_is_reported_plain :
    Files.NamesNothing bare.tree bare.surroundings "m.json" ∧
      bare.screen.messageWidth? = some Screen.messageWidth ∧
      ReportsMissing (run .search bare ["m.json"]) "m.json" := by
  have hnothing : Files.NamesNothing bare.tree bare.surroundings "m.json" :=
    namesNothing_bare (by decide +kernel) (by decide +kernel) (by decide +kernel)
      (by decide +kernel)
  have hscreen : bare.screen.messageWidth? = some Screen.messageWidth := by decide +kernel
  have hpath : (Files.Path.ofText "m.json").toText = "m.json" := by decide +kernel
  have hshows : ShowsAsItIs (Files.Path.ofText "m.json").toText.toList :=
    Markup.showsAsItIs_of_not_mem (by decide +kernel)
      (Markup.forall_eq_false_of_any (by decide +kernel)) (by decide +kernel)
  obtain ⟨hreported, -⟩ := missing_manifest_is_reported_iff hnothing (by decide) (by decide) hscreen
  rw [hpath] at hreported hshows
  exact ⟨hnothing, hscreen, hreported.2 hshows⟩

/-- A name in which a tag is closed that was not open ends the run, and a name with an open tag is
reported without the tag.  The run ends also for the name of an unknown user behind a single dot,
which is dropped before home directories are looked for. -/
theorem missing_manifest_is_not_reported :
    Files.NamesNothing bare.tree bare.surroundings "[/x].json" ∧
      (run .search bare ["[/x].json"]).failure = some (.markup (.unmatchedTag "/x")) ∧
      Files.NamesNothing bare.tree bare.surroundings "[red]x.json" ∧
      (run .search bare ["[red]x.json"]).state.diagnostics =
        "Error: Manifest not found: x.json\n".toList ∧
      (bare.tree.reach (.ofText "./~x") bare.surroundings.workingDirectory).toOption = none ∧
      (run .search bare ["./~x"]).failure = some .unknownUser := by
  have hclosing : Files.NamesNothing bare.tree bare.surroundings "[/x].json" :=
    namesNothing_bare (by decide +kernel) (by decide +kernel) (by decide +kernel)
      (by decide +kernel)
  have hopening : Files.NamesNothing bare.tree bare.surroundings "[red]x.json" :=
    namesNothing_bare (by decide +kernel) (by decide +kernel) (by decide +kernel)
      (by decide +kernel)
  exact ⟨hclosing, by decide +kernel, hopening, by decide +kernel, by decide +kernel,
    by decide +kernel⟩

end TextureCatalog.Program
