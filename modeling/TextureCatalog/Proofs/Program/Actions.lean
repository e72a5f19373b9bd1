import TextureCatalog.Program.Action
import TextureCatalog.Proofs.Terminal.Labels

/-!
# Actions that complete and actions that fail

What an action gives and which state it leaves, if no failure ends it; and the failure that ends it
otherwise.
-/

namespace TextureCatalog.Program

open Terminal

variable {α β : Type} {screen : Screen} {before between after : RunState}

/-- An action that begins in a state gives a value and leaves another state. -/
def Completes (action : Action α) (screen : Screen) (before : RunState) (value : α)
    (after : RunState) : Prop :=
  action.run screen before = .ok value after

theorem completes_pure (value : α) : Completes (pure value) screen before value before := rfl

/-- What comes after an action that completes is run from the state which that leaves. -/
theorem Completes.run_bind {action : Action α} {value : α}
    (h : Completes action screen before value between) (next : α → Action β) :
    (action >>= next).run screen before = (next value).run screen between := by
  have hrun : EStateM.bind (action.run screen) (fun value => (next value).run screen) before =
      (next value).run screen between := by
    rw [EStateM.bind, show action.run screen before = .ok value between from h]
  exact hrun

theorem Completes.bind {action : Action α} {next : α → Action β} {value : α} {result : β}
    (h : Completes action screen before value between)
    (hnext : Completes (next value) screen between result after) :
    Completes (action >>= next) screen before result after :=
  (h.run_bind next).trans hnext

theorem completes_get : Completes get screen before before before := rfl

theorem completes_set (state : RunState) :
    Completes (set state : Action PUnit) screen before ⟨⟩ state := rfl

theorem completes_write (text : List Char) :
    Completes (write text) screen before ()
      { before with output := before.output ++ text } := rfl

theorem completes_writeDiagnostic (text : List Char) :
    Completes (writeDiagnostic text) screen before ()
      { before with diagnostics := before.diagnostics ++ text } := rfl

theorem completes_shown {markup : String} {run : List Char}
    (h : Markup.shown markup.toList = .ok run) :
    Completes (shown markup) screen before run before := by
  rw [shown, h]
  rfl

theorem completes_cutText {layout : Option (List Char)} {text : List Char}
    (h : layout = some text) : Completes (cutText layout) screen before text before := by
  rw [h]
  rfl

/-! ## Failures -/

/-- An action that begins in a state ends with a failure and leaves another state. -/
def Fails (action : Action α) (screen : Screen) (before : RunState) (failure : Failure)
    (after : RunState) : Prop :=
  action.run screen before = .error failure after

variable {failure : Failure}

theorem fails_throw (failure : Failure) :
    Fails (throw failure : Action α) screen before failure before := rfl

theorem Fails.bind {action : Action α} (h : Fails action screen before failure after)
    (next : α → Action β) : Fails (action >>= next) screen before failure after := by
  have hrun : EStateM.bind (action.run screen) (fun value => (next value).run screen) before =
      .error failure after := by
    rw [EStateM.bind, show action.run screen before = .error failure after from h]
  exact hrun

/-! ## Messages -/

/-- The markup of a message shows a text that the screen has room for. -/
def Displayable (screen : Screen) (markup : String) : Prop :=
  (∃ run, Markup.shown markup.toList = .ok run ∧ Joins run) ∧ screen.messageWidth?.isSome = true

theorem Displayable.exists_laidOut {markup : String} (h : Displayable screen markup)
    (before : RunState) : ∃ text, Completes (laidOut markup) screen before text before := by
  obtain ⟨⟨run, hrun, hjoins⟩, hwidth⟩ := h
  obtain ⟨width, hwidth⟩ := Option.isSome_iff_exists.1 hwidth
  obtain ⟨text, htext⟩ := exists_printed width hjoins
  refine ⟨text, (completes_shown hrun).bind ?_⟩
  have hread : Completes (read : Action Screen) screen before screen before := rfl
  refine hread.bind ?_
  rw [hwidth]
  exact completes_cutText htext

theorem Displayable.exists_inform {markup : String} (h : Displayable screen markup)
    (before : RunState) : ∃ text, Completes (inform markup) screen before ()
      { before with output := before.output ++ text } := by
  obtain ⟨text, htext⟩ := h.exists_laidOut before
  exact ⟨text, htext.bind (completes_write text)⟩

theorem Displayable.exists_report {markup : String} (h : Displayable screen markup)
    (before : RunState) : ∃ text, Completes (report markup) screen before ()
      { before with diagnostics := before.diagnostics ++ text } := by
  obtain ⟨text, htext⟩ := h.exists_laidOut before
  exact ⟨text, htext.bind (completes_writeDiagnostic text)⟩

/-- A screen shows a label and a bland message behind it. -/
theorem displayable_labelled {name word content message : List Char} {markup : String}
    {indent : Nat} (h : Markup.IsLabel name)
    (hmarkup : markup.toList = Markup.labelled indent name word message)
    (hword : Markup.Passes word ('[' :: ('/' :: name ++ ']' :: message)) content)
    (hcontent : Joins content) (hmessage : Markup.Bland message) (hjoins : Joins message)
    (hscreen : screen.messageWidth?.isSome = true) : Displayable screen markup := by
  obtain ⟨run, hrun, hrunJoins⟩ := Markup.exists_shown_labelled h hword hmessage indent
  refine ⟨⟨run, ?_, hrunJoins hcontent hjoins⟩, hscreen⟩
  rw [hmarkup]
  exact hrun

variable {message : String}

/-- A message behind a label without tags is reported. -/
theorem exists_report_labelled {name word : List Char} {markup : String} {indent : Nat}
    (h : Markup.IsLabel name)
    (hmarkup : markup.toList = Markup.labelled indent name word (' ' :: message.toList))
    (hbackslash : '\\' ∉ word) (hopening : '[' ∉ word) (hjoiner : joiner ∉ word)
    (hmessage : Markup.Bland message.toList) (hjoins : joiner ∉ message.toList)
    (hscreen : screen.messageWidth?.isSome = true) (before : RunState) :
    ∃ text, Completes (report markup) screen before ()
      { before with diagnostics := before.diagnostics ++ text } := by
  have hspace : Markup.Bland [' '] := Markup.bland_of_not_mem (by decide)
  have hbehind : joiner ∉ ' ' :: message.toList :=
    List.not_mem_cons_of_ne_of_not_mem (by decide) hjoins
  have hdisplayable : Displayable screen markup :=
    displayable_labelled h hmarkup (Markup.passes_of_plain hbackslash hopening _)
      (joins_of_not_mem hjoiner) (hspace.append hmessage) (joins_of_not_mem hbehind) hscreen
  exact hdisplayable.exists_report before

theorem exists_reportError (hmessage : Markup.Bland message.toList)
    (hjoins : joiner ∉ message.toList) (hscreen : screen.messageWidth?.isSome = true)
    (before : RunState) : ∃ text, Completes (reportError message) screen before ()
      { before with diagnostics := before.diagnostics ++ text } := by
  have hmarkup : (s!"[error]Error:[/error] {message}").toList =
      Markup.labelled 0 "error".toList "Error:".toList (' ' :: message.toList) := by
    rw [String.toList_append]
    rfl
  exact exists_report_labelled Markup.isLabel_error hmarkup (by decide) (by decide) (by decide)
    hmessage hjoins hscreen before

theorem exists_reportHint (hmessage : Markup.Bland message.toList)
    (hjoins : joiner ∉ message.toList) (hscreen : screen.messageWidth?.isSome = true)
    (before : RunState) : ∃ text, Completes (reportHint message) screen before ()
      { before with diagnostics := before.diagnostics ++ text } := by
  have hmarkup : (s!"  [info]Hint:[/info] {message}").toList =
      Markup.labelled 2 "info".toList "Hint:".toList (' ' :: message.toList) := by
    rw [String.toList_append]
    rfl
  exact exists_report_labelled Markup.isLabel_info hmarkup (by decide) (by decide) (by decide)
    hmessage hjoins hscreen before

end TextureCatalog.Program
