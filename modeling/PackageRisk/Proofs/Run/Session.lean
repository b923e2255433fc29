import Mathlib.Tactic.SplitIfs
import PackageRisk.Proofs.Assessment.Response
import PackageRisk.Proofs.Fallible
import PackageRisk.Run

/-!
# Sessions step by step

What each step of a session does to the trace, and what a session that ends with an exit code has
gone through: the configuration and the settings it found, and the report it read. These depend on
the surroundings and the command line alone, and together with what presenting the sheet leads to
they give the exit code and the trace.
-/

namespace PackageRisk

open Fallible

namespace Session

variable {α β : Type} {before after : Trace}

/-! ### Single steps -/

/-- Two steps run one after the other, the second from where the first has come. -/
theorem run_bind (step : Session α) (next : α → Session β) (before : Trace) :
    (step >>= next).run before =
      (ExceptT.bindCont next (step.run before).1).run (step.run before).2 := rfl

/-- Two steps end with a result exactly when the first does and the second does from there. -/
theorem run_bind_eq_ok_iff {step : Session α} {next : α → Session β} {b : β} :
    (step >>= next).run before = (.ok b, after) ↔
      ∃ a between, step.run before = (.ok a, between) ∧ (next a).run between = (.ok b, after) := by
  rw [run_bind]
  obtain ⟨result, between⟩ := step.run before
  cases result with
  | ok a =>
    constructor
    · exact fun h ↦ ⟨a, between, rfl, h⟩
    · rintro ⟨_, _, hstep, h⟩
      cases hstep
      exact h
  | error failure =>
    constructor
    · intro h
      cases h
    · rintro ⟨_, _, hstep, -⟩
      cases hstep

private theorem run_return_eq_ok_iff {a b : α} :
    (pure a : Session α).run before = (.ok b, after) ↔ a = b ∧ before = after := by
  constructor
  · intro h
    cases h
    exact ⟨rfl, rfl⟩
  · rintro ⟨rfl, rfl⟩
    rfl

private theorem run_get_eq_ok_iff {trace : Trace} :
    (get : Session Trace).run before = (.ok trace, after) ↔ before = trace ∧ before = after := by
  constructor
  · intro h
    cases h
    exact ⟨rfl, rfl⟩
  · rintro ⟨rfl, rfl⟩
    rfl

private theorem run_tell_eq_ok_iff {messages : List String} {u : Unit} :
    (tell messages).run before = (.ok u, after) ↔
      after = { before with messages := before.messages ++ messages } := by
  constructor
  · intro h
    cases h
    rfl
  · rintro rfl
    rfl

private theorem run_attempt_eq_ok_iff {result : Except Failure α} {a : α} :
    (attempt result).run before = (.ok a, after) ↔ result = .ok a ∧ before = after := by
  cases result with
  | ok a =>
    rw [attempt, run_return_eq_ok_iff, Except.ok.injEq]
  | error failure =>
    constructor
    · intro h
      cases h
    · rintro ⟨h, -⟩
      cases h

/-- A step with a result leads to a trace. -/
theorem exists_run_eq_ok {step : Session α} {a : α}
    (h : (step.run before).1.toOption = some a) : ∃ after, step.run before = (.ok a, after) := by
  rcases hrun : step.run before with ⟨result, after⟩
  rw [hrun] at h
  cases result with
  | ok b =>
    cases h
    exact ⟨after, rfl⟩
  | error failure => cases h

/-! ### What a session reads -/

/-- The configuration that a command line finds. -/
def configOf (files : FileSystem) (line : CommandLine) : Except Failure Config :=
  match line.config with
  | some path => Config.load files path
  | none => (Config.discover files ".").map (·.getD {})

/-- The report that a command line asks for, with its source. -/
def reportOf (files : FileSystem) (fetch : String → Service.Reply) (line : CommandLine)
    (apiUrl : String) (order : RawReport.EntryOrder) :
    Except Failure (String × Except Failure Report) :=
  match line.report, line.package, line.packageVersion with
  | some path, _, _ => .ok (path, ReportFile.load files path order)
  | none, some name, some version => do
    let package ← (Package.ofTexts name version).mapError .package
    let url := Service.reportUrl apiUrl package
    return (url, Service.readReply url package (fetch url) order)
  | none, _, _ =>
    .error (.context "Either a report file or --package with --package-version is required" [])

private theorem run_configure_eq_ok_iff {line : CommandLine} {config : Config} :
    (configure line).run before = (.ok config, after) ↔
      configOf before.files line = .ok config ∧
        after = { before with messages := before.messages ++ config.warnings } := by
  unfold configure configOf
  cases line.config with
  | none =>
    simp only [run_bind_eq_ok_iff, run_get_eq_ok_iff, run_attempt_eq_ok_iff, run_tell_eq_ok_iff,
      run_return_eq_ok_iff, map_eq_ok_iff]
    constructor
    · rintro ⟨_, _, ⟨rfl, rfl⟩, found?, _, ⟨hfound, rfl⟩, _, _, rfl, rfl, rfl⟩
      exact ⟨⟨found?, hfound, rfl⟩, rfl⟩
    · rintro ⟨⟨found?, hfound, rfl⟩, rfl⟩
      exact ⟨_, _, ⟨rfl, rfl⟩, found?, _, ⟨hfound, rfl⟩, (), _, rfl, rfl, rfl⟩
  | some path =>
    simp only [run_bind_eq_ok_iff, run_get_eq_ok_iff, run_attempt_eq_ok_iff, run_tell_eq_ok_iff,
      run_return_eq_ok_iff, map_eq_ok_iff]
    constructor
    · rintro ⟨_, _, ⟨rfl, rfl⟩, _, _, ⟨⟨loaded, hloaded, rfl⟩, rfl⟩, _, _, rfl, rfl, rfl⟩
      exact ⟨hloaded, rfl⟩
    · rintro ⟨hloaded, rfl⟩
      exact ⟨_, _, ⟨rfl, rfl⟩, _, _, ⟨⟨config, hloaded, rfl⟩, rfl⟩, (), _, rfl, rfl, rfl⟩

/-- Loading gives a report when the source has one, and leaves the trace as it was. -/
theorem run_load_eq_ok_iff {fetch : String → Service.Reply} {line : CommandLine} {apiUrl : String}
    {order : RawReport.EntryOrder} {result : String × Except Failure Report} :
    (load fetch line apiUrl order).run before = (.ok result, after) ↔
      reportOf before.files fetch line apiUrl order = .ok result ∧ before = after := by
  unfold load reportOf
  cases line.report with
  | some path =>
    simp only [run_bind_eq_ok_iff, run_get_eq_ok_iff, run_return_eq_ok_iff, Except.ok.injEq]
    constructor
    · rintro ⟨_, _, ⟨rfl, rfl⟩, h⟩
      exact h
    · exact fun h ↦ ⟨_, _, ⟨rfl, rfl⟩, h⟩
  | none =>
    cases line.package with
    | none => exact iff_of_false (fun h ↦ by cases h) (fun h ↦ by cases h.1)
    | some name =>
      cases line.packageVersion with
      | none => exact iff_of_false (fun h ↦ by cases h) (fun h ↦ by cases h.1)
      | some version =>
        simp only [run_bind_eq_ok_iff, run_attempt_eq_ok_iff, run_return_eq_ok_iff, bind_eq_ok_iff]
        constructor
        · rintro ⟨package, _, ⟨hpackage, rfl⟩, rfl, rfl⟩
          exact ⟨⟨package, hpackage, rfl⟩, rfl⟩
        · rintro ⟨⟨package, hpackage, hresult⟩, rfl⟩
          exact ⟨package, _, ⟨hpackage, rfl⟩, Except.ok.inj hresult, rfl⟩

/-! ### Presenting a sheet -/

/-- The files after a text is presented. -/
def filesAfter (files : FileSystem) (output : Option String) (text : String) :
    Except Failure FileSystem :=
  match output with
  | none => .ok files
  | some path => OutputFile.present files path text

/-- What is added to the output when a text is presented. -/
def printed (output : Option String) (text : String) : String :=
  match output with
  | none => endLine text
  | some _ => ""

/-- What is told when a text has been presented. -/
def completion (output : Option String) : List String :=
  output.toList.map ("✅ Output complete: " ++ ·)

/-- Presenting succeeds when the output is written, and adds what is printed and told. -/
theorem run_present_eq_ok_iff {output : Option String} {text : String} {u : Unit} :
    (present output text).run before = (.ok u, after) ↔
      ∃ files, filesAfter before.files output text = .ok files ∧
        after = ⟨before.output ++ printed output text, before.messages ++ completion output,
          files⟩ := by
  unfold present filesAfter
  cases output with
  | none =>
    constructor
    · intro h
      cases h
      exact ⟨_, rfl, by simp [printed, completion]⟩
    · rintro ⟨files, hfiles, rfl⟩
      cases hfiles
      simp [completion]
      rfl
  | some path =>
    simp only [run_bind_eq_ok_iff, run_get_eq_ok_iff, run_attempt_eq_ok_iff, run_tell_eq_ok_iff]
    constructor
    · rintro ⟨_, _, ⟨rfl, rfl⟩, files, _, ⟨hfiles, rfl⟩, _, _, hmodify, rfl⟩
      cases hmodify
      refine ⟨files, hfiles, ?_⟩
      simp [printed, completion]
    · rintro ⟨files, hfiles, rfl⟩
      refine ⟨_, _, ⟨rfl, rfl⟩, files, _, ⟨hfiles, rfl⟩, (), _, rfl, ?_⟩
      simp [printed, completion]

/-- A text that cannot be written to a file leaves the trace as it was. -/
theorem run_present_of_error {path text : String} {failure : Failure}
    (h : OutputFile.present before.files path text = .error failure) :
    (present (some path) text).run before = (.error failure, before) := by
  unfold present
  dsimp only
  rw [run_bind]
  change (attempt (OutputFile.present before.files path text) >>= _).run before = _
  rw [run_bind, h]
  rfl

private theorem exists_write_ok {files written : FileSystem} {path : String} {content : ByteArray}
    (h : files.write path content = .ok written) (other : ByteArray) :
    ∃ otherWritten, files.write path other = .ok otherWritten := by
  unfold FileSystem.write at h ⊢
  cases hfault : FileSystem.pathFault? path with
  | some fault =>
    rw [hfault] at h
    cases h
  | none =>
    rw [hfault] at h
    obtain ⟨location, hlocation, h⟩ := bind_eq_ok_iff.mp h
    simp only [bind_eq_ok_iff]
    split_ifs at h with hslash
    split at h
    · cases h
    · next hentry =>
      refine ⟨files.set location (some (.file other)), location, hlocation, ?_⟩
      rw [if_neg hslash]
      split
      · next hdirectory => exact (hentry hdirectory).elim
      · rfl

/-- Whether a text can be presented does not depend on the text. -/
theorem exists_filesAfter_ok {files presented : FileSystem} {output : Option String} {text : String}
    (h : filesAfter files output text = .ok presented) (other : String) :
    ∃ otherPresented, filesAfter files output other = .ok otherPresented := by
  cases output with
  | none => exact ⟨files, rfl⟩
  | some path =>
    obtain ⟨_, hparent, htail⟩ := bind_eq_ok_iff.mp (mapError_eq_ok_iff.mp h)
    obtain ⟨_, htarget, hwrite⟩ := bind_eq_ok_iff.mp htail
    obtain ⟨written, hwritten⟩ := exists_write_ok (mapError_eq_ok_iff.mp hwrite) other.toUTF8
    refine ⟨written, mapError_eq_ok_iff.mpr ?_⟩
    exact bind_eq_ok_iff.mpr ⟨_, hparent, bind_eq_ok_iff.mpr ⟨_, htarget,
      mapError_eq_ok_iff.mpr hwritten⟩⟩

/-! ### Whole sessions -/

/-- What a session has read when it comes to present the sheet. -/
structure Course (around : Surroundings) (line : CommandLine) where
  config : Config
  settings : Settings
  source : String
  report : Report
  configured : configOf around.files line = .ok config
  resolved : Settings.resolve line config = .ok settings
  loaded : reportOf around.files around.fetch line settings.apiUrl around.order =
    .ok (source, .ok report)

namespace Course

variable {around : Surroundings} {line : CommandLine}

/-- The surroundings and the command line allow one course only. -/
instance : Subsingleton (Course around line) where
  allEq course other := by
    obtain ⟨config, settings, source, report, hconfig, hsettings, hloaded⟩ := course
    obtain ⟨_, _, _, _, hconfigOther, hsettingsOther, hloadedOther⟩ := other
    obtain rfl := Except.ok.inj (hconfig.symm.trans hconfigOther)
    obtain rfl := Except.ok.inj (hsettings.symm.trans hsettingsOther)
    obtain ⟨rfl, hreport⟩ := Prod.mk.inj (Except.ok.inj (hloaded.symm.trans hloadedOther))
    obtain rfl := Except.ok.inj hreport
    rfl

/-- The assessment of the report that was read. -/
def assessment (course : Course around line) : Assessment :=
  .ofReport course.settings.request course.report

/-- The sheet of this assessment. -/
def sheet (course : Course around line) : ScoreSheet :=
  .ofAssessment around.imprint course.assessment

/-- The text that is presented. -/
def text (course : Course around line) : String := course.settings.format.render course.sheet

/-- What is told before the sheet is rendered. -/
def told (course : Course around line) : List String :=
  course.config.warnings ++
    (Assessment.reportEvents course.settings.request course.report course.assessment).map
      Event.message ++
    [course.settings.format.progressMessage]

end Course

/-- Of a loaded report all is told but the waiting. -/
theorem filter_isTold_run (source : String) (report : Report) (request : Request) :
    (Assessment.run source (.ok report : Except Failure Report) request).2.filter isTold =
      Assessment.reportEvents request report (.ofReport request report) := by
  have hrollUp : ∀ event ∈ Assessment.rollUpEvents request report, isTold event = true := by
    unfold Assessment.rollUpEvents
    dsimp only
    split_ifs <;> simp [isTold]
  change (Assessment.reportEvents request report _).filter isTold = _
  rw [List.filter_eq_self]
  simp only [Assessment.reportEvents, List.forall_mem_cons, List.forall_mem_append]
  exact ⟨rfl, hrollUp, rfl, by simp⟩

/-- A session ends with an exit code exactly when it has a course whose text can be presented. The
course and what presenting leads to are then all that the exit code and the trace depend on. -/
theorem run_perform_eq_ok_iff {around : Surroundings} {line : CommandLine} {code : ExitCode}
    {trace : Trace} :
    (perform around line).run ⟨"", [], around.files⟩ = (.ok code, trace) ↔
      ∃ (course : Course around line) (files : FileSystem),
        filesAfter around.files line.output course.text = .ok files ∧
        code = exitCodeOf course.assessment ∧
        trace = ⟨printed line.output course.text,
          course.told ++ completion line.output ++ verdict course.assessment around.colors,
          files⟩ := by
  unfold perform
  simp only [run_bind_eq_ok_iff, run_configure_eq_ok_iff, run_attempt_eq_ok_iff,
    mapError_eq_ok_iff, run_load_eq_ok_iff]
  constructor
  · rintro ⟨config, _, ⟨hconfig, rfl⟩, settings, _, ⟨hsettings, rfl⟩, ⟨source, loaded⟩, _,
      ⟨hloaded, rfl⟩, h⟩
    -- The steps after the loading show only now that the source and the report are told apart.
    simp only [run_tell_eq_ok_iff, run_present_eq_ok_iff, run_return_eq_ok_iff,
      Assessment.fst_run_eq_ok_iff] at h
    obtain ⟨_, _, rfl, _, _, ⟨⟨report, rfl, rfl⟩, rfl⟩, _, _, rfl, _, _, ⟨files, hfiles, rfl⟩, _, _,
      rfl, rfl, rfl⟩ := h
    refine ⟨⟨config, settings, source, report, hconfig, hsettings, hloaded⟩, files, hfiles, rfl, ?_⟩
    simp [Course.told, Course.text, Course.sheet, Course.assessment, filter_isTold_run]
  · rintro ⟨course, files, hfiles, rfl, rfl⟩
    refine ⟨_, _, ⟨course.configured, rfl⟩, _, _, ⟨course.resolved, rfl⟩, (course.source, _), _,
      ⟨course.loaded, rfl⟩, ?_⟩
    simp only [run_tell_eq_ok_iff, run_present_eq_ok_iff, run_return_eq_ok_iff,
      Assessment.fst_run_eq_ok_iff]
    refine ⟨(), _, rfl, _, _, ⟨⟨_, rfl, rfl⟩, rfl⟩, (), _, rfl, (), _, ⟨files, hfiles, rfl⟩, (), _,
      rfl, rfl, ?_⟩
    simp [Course.told, Course.text, Course.sheet, Course.assessment, filter_isTold_run]

end Session

end PackageRisk
