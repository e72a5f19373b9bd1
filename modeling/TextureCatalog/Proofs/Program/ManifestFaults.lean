import TextureCatalog.Proofs.Manifest.Loading
import TextureCatalog.Proofs.Program.Invocation
import TextureCatalog.Proofs.Text.Newline
import TextureCatalog.Proofs.Text.Utf8

/-!
# Searches in files that are no manifests

Whatever the content of the file is, loading it gives a material or a fault of the content.  A
search reports the fault and ends with an exit code of its own, unless an integer has more digits
than are ever read: this failure is not reported.
-/

namespace TextureCatalog

open Manifest

namespace Manifest

variable {content : List UInt8} {fault : ContentFault}

theorem Flawed.materialOfBytes_eq (h : Flawed content fault) :
    materialOfBytes content = .error fault := by
  cases h with
  | undecodable hdecode => simp only [materialOfBytes, hdecode]
  | malformed hdecode hread => simp only [materialOfBytes, hdecode, hread]
  | invalid hdecode hmeans hviolation =>
      simp only [materialOfBytes, hdecode, hmeans.read_eq, hviolation]

variable {tree : Files.Tree} {surroundings : Files.Surroundings} {path target : Files.Path}

/-- Loading a file gives the material that it holds or a fault of its content. -/
theorem LeadsToFile.load_cases (h : LeadsToFile tree surroundings path target content) :
    (∃ material, Holds content material ∧ load tree surroundings path = .ok material) ∨
    (∃ fault, Flawed content fault ∧ load tree surroundings path = .error (.content target fault)) ∨
    (HoldsLongNumeral content ∧
      load tree surroundings path = .error (.content target .numeralTooLong)) := by
  rw [h.load_eq]
  obtain ⟨material, hholds, heq⟩ | ⟨fault, hflawed, heq⟩ | ⟨hlong, heq⟩ :=
    materialOfBytes_cases content <;> rw [heq]
  · exact .inl ⟨material, hholds, rfl⟩
  · exact .inr (.inl ⟨fault, hflawed, rfl⟩)
  · exact .inr (.inr ⟨hlong, rfl⟩)

end Manifest

namespace Program

variable {environment : Environment} {entry : Entry} {texts : List String} {context : Context}
  {request : SearchRequest} {screen : Terminal.Screen} {content : List UInt8}
  {target : Files.Path} {fault : ContentFault}

theorem isPlain_manifestHint : IsPlain manifestHint := isPlain_literal (by decide +kernel)

/-- The message about a flaw and the hint are printed. -/
theorem exists_reportManifestFault (h : Flawed content fault) (htarget : IsPlain target.toText)
    (hscreen : screen.messageWidth?.isSome = true) (before : RunState) :
    ∃ text, Completes (reportManifestFault (.content target fault)) screen before ()
      { before with diagnostics := before.diagnostics ++ text } := by
  have hplain := h.isPlain_message htarget
  obtain ⟨message, hmessage⟩ := exists_reportError hplain.1 hplain.2 hscreen before
  obtain ⟨hint, hhint⟩ := exists_reportHint isPlain_manifestHint.1 isPlain_manifestHint.2 hscreen
    { before with diagnostics := before.diagnostics ++ message }
  have hboth (text : String) (htext : Completes (reportError text) screen before ()
      { before with diagnostics := before.diagnostics ++ message }) :
      Completes (do reportError text; reportHint manifestHint) screen before ()
        { before with diagnostics := before.diagnostics ++ message ++ hint } := htext.bind hhint
  refine ⟨message ++ hint, ?_⟩
  rw [← List.append_assoc]
  cases h <;> exact hboth _ hmessage

/-- A search in a file with a flaw reports it and changes nothing. -/
theorem run_of_flawed (hinvokes : Invokes environment entry texts context request)
    (hproceeds : Proceeds environment.screen context request)
    (hfile : LeadsToFile environment.tree environment.surroundings request.manifest target content)
    (h : Flawed content fault) (htarget : IsPlain target.toText)
    (hscreen : environment.screen.messageWidth?.isSome = true) :
    ∃ diagnostics,
      run entry environment texts = ⟨misuse, none, ⟨environment.tree, [], diagnostics⟩⟩ := by
  obtain ⟨inside, -, hrun⟩ := hproceeds.exists_run { tree := environment.tree }
  obtain ⟨text, htext⟩ := exists_reportManifestFault h htarget hscreen
    { tree := environment.tree, output := [], diagnostics := inside }
  refine ⟨inside ++ text, hinvokes.run_of_completes (hrun.trans ?_)⟩
  rw [hinvokes.surroundings_eq, hfile.load_eq, h.materialOfBytes_eq]
  exact htext.bind (completes_pure misuse)

/-- A search in a file with a number that has too many digits fails without a report. -/
theorem run_of_holdsLongNumeral (hinvokes : Invokes environment entry texts context request)
    (hproceeds : Proceeds environment.screen context request)
    (hfile : LeadsToFile environment.tree environment.surroundings request.manifest target content)
    (h : HoldsLongNumeral content) :
    ∃ diagnostics, (context.debug = false → diagnostics = []) ∧
      run entry environment texts =
        ⟨refusal, some .numeralTooLong, ⟨environment.tree, [], diagnostics⟩⟩ := by
  obtain ⟨inside, hnothing, hrun⟩ := hproceeds.exists_run { tree := environment.tree }
  refine ⟨inside, hnothing, hinvokes.run_of_fails (hrun.trans ?_)⟩
  rw [hinvokes.surroundings_eq, hfile.load_eq, materialOfBytes_eq_numeralTooLong_iff.2 h]
  exact (fails_throw Failure.numeralTooLong).bind _

/-- Loading a file gives the material that its content stands for or the fault of the content, and a
search reports the fault.  The only content that escapes is one with a number that has more digits
than are ever read: loading finds no other fault in it, and the search fails. -/
theorem content_faults_are_reported_unless_overlong
    (hfile : LeadsToFile environment.tree environment.surroundings request.manifest target
      content) :
    (¬ HoldsLongNumeral content →
      (∃ material, Holds content material ∧
        load environment.tree environment.surroundings request.manifest = .ok material) ∨
      ∃ fault, Flawed content fault ∧
        load environment.tree environment.surroundings request.manifest =
          .error (.content target fault)) ∧
    (HoldsLongNumeral content →
      load environment.tree environment.surroundings request.manifest =
        .error (.content target .numeralTooLong)) ∧
    ∀ entry texts context, Invokes environment entry texts context request →
      Proceeds environment.screen context request →
      (IsPlain target.toText → environment.screen.messageWidth?.isSome = true →
        ∀ fault, Flawed content fault → ∃ diagnostics,
          run entry environment texts = ⟨misuse, none, ⟨environment.tree, [], diagnostics⟩⟩) ∧
      (HoldsLongNumeral content → ∃ diagnostics, run entry environment texts =
        ⟨refusal, some .numeralTooLong, ⟨environment.tree, [], diagnostics⟩⟩) := by
  refine ⟨fun hshort => ?_, fun hlong => ?_, fun entry texts context hinvokes hproceeds => ⟨?_, ?_⟩⟩
  · obtain hholds | hflawed | ⟨hlong, -⟩ := hfile.load_cases
    · exact .inl hholds
    · exact .inr hflawed
    · exact absurd hlong hshort
  · rw [hfile.load_eq, materialOfBytes_eq_numeralTooLong_iff.2 hlong]
    rfl
  · intro htarget hscreen fault hflawed
    exact run_of_flawed hinvokes hproceeds hfile hflawed htarget hscreen
  · intro hlong
    obtain ⟨diagnostics, -, hrun⟩ := run_of_holdsLongNumeral hinvokes hproceeds hfile hlong
    exact ⟨diagnostics, hrun⟩

/-! ## A file alone -/

theorem leadsToFile_alone (content : List UInt8) :
    LeadsToFile (alone content).tree (alone content).surroundings (.ofText "m.json")
      (.ofText "m.json") content := by
  refine ⟨?_, ?_, ?_⟩
  · rfl
  · decide +kernel
  · rfl

/-- A search of which only the file is said. -/
theorem invokes_alone (content : List UInt8) :
    Invokes (alone content) .search ["m.json"] { surroundings := (alone content).surroundings }
      (.ofArguments { operands := ["m.json"] }) := by
  have hread : CommandLine.Command.read searchCommand ["m.json"] =
      .ok (.run { operands := ["m.json"] }) := by decide +kernel
  exact .alone hread

theorem proceeds_alone (content : List UInt8) :
    Proceeds (alone content).screen { surroundings := (alone content).surroundings }
      (.ofArguments { operands := ["m.json"] }) := by
  have hbounds : Text.isWritable (Settings.filterWith {}
        (SearchRequest.ofArguments { operands := ["m.json"] }).overrides).minResolution = true ∧
      Text.isWritable (Settings.filterWith {}
        (SearchRequest.ofArguments { operands := ["m.json"] }).overrides).maxResolution = true := by
    decide +kernel
  refine ⟨fun _ hlimit => ?_, hbounds, fun hdebug => ?_⟩
  · cases hlimit
  · cases hdebug

/-- The object without members is reported. -/
theorem search_reports_object_without_members :
    let content := Text.Utf8.encode "\x7b\x7d".toList
    ∃ diagnostics, run .search (alone content) ["m.json"] =
      ⟨misuse, none, ⟨(alone content).tree, [], diagnostics⟩⟩ := by
  intro content
  have hflawed : Flawed content (.invalid ⟨[.member "material"], .string⟩) := by
    have hmeans : Json.Means "\x7b\x7d".toList (.table []) := Json.read_eq_ok_iff.1 (by rfl)
    exact .invalid (Text.Utf8.decode_encode _) hmeans rfl
  have hplain : IsPlain (Files.Path.ofText "m.json").toText := isPlain_literal (by decide +kernel)
  have hfile : LeadsToFile (alone content).tree (alone content).surroundings
      (SearchRequest.ofArguments { operands := ["m.json"] }).manifest (.ofText "m.json") content :=
    leadsToFile_alone content
  obtain ⟨-, -, hreports⟩ := content_faults_are_reported_unless_overlong hfile
  obtain ⟨hreported, -⟩ := hreports _ _ _ (invokes_alone content) (proceeds_alone content)
  exact hreported hplain (by decide) _ hflawed

/-- One digit more than are ever read. -/
def longNumeral : List Char :=
  List.replicate (Text.numeralLimit + 1) '1'

theorem holdsLongNumeral_longNumeral : HoldsLongNumeral (Text.Utf8.encode longNumeral) := by
  have hdigit : ∀ c ∈ longNumeral, c = '1' := fun c hc => List.eq_of_mem_replicate hc
  have hlength : Text.numeralLimit < longNumeral.length := by
    rw [longNumeral, List.length_replicate]
    exact Nat.lt_succ_self _
  have hnumeral : Json.IsNumeral longNumeral := by
    refine .inr ⟨⟨List.replicate_succ_ne_nil, fun c hc => ?_⟩, ?_⟩
    · rw [hdigit c hc]
      decide
    · rw [longNumeral, List.replicate_succ]
      simp
  have hreturn : '\r' ∉ longNumeral := fun hmem => absurd (hdigit _ hmem) (by decide)
  have hends : ¬ Json.Continues [] := by rintro ⟨⟩
  refine ⟨longNumeral, Text.Utf8.decode_encode _, [], longNumeral, ?_, ?_, ?_⟩
  · simp [Json.IsSpaces]
  · have hoverlong : Json.Overlong (Json.signText false ++ (longNumeral ++ [])) .value :=
      .numeral hnumeral hlength hends
    simpa [Json.signText] using hoverlong
  · rw [Text.unifyNewlines_of_not_mem hreturn]
    rfl

/-- One digit more than are ever read is too many, and is not reported. -/
theorem search_fails_for_long_number_in_manifest :
    let content := Text.Utf8.encode longNumeral
    load (alone content).tree (alone content).surroundings (.ofText "m.json") =
        .error (.content (.ofText "m.json") .numeralTooLong) ∧
      run .search (alone content) ["m.json"] =
        ⟨refusal, some .numeralTooLong, ⟨(alone content).tree, [], []⟩⟩ := by
  intro content
  have hlong : HoldsLongNumeral content := holdsLongNumeral_longNumeral
  constructor
  · rw [(leadsToFile_alone content).load_eq, materialOfBytes_eq_numeralTooLong_iff.2 hlong]
    rfl
  · obtain ⟨diagnostics, hnothing, hrun⟩ := run_of_holdsLongNumeral (invokes_alone content)
      (proceeds_alone content) (leadsToFile_alone content) hlong
    rw [hrun, hnothing rfl]

end Program

end TextureCatalog
