import PackageRisk.Proofs.CommandLine.Spelling
import PackageRisk.Proofs.Run.Session

/-!
# The source of a session's report

A session fails for want of a source only if its command line selects none. An accepted command line
selects one, so that this failure is never told: arguments without source, or with two, are refused
before the session begins.
-/

namespace PackageRisk

open Fallible

namespace Session

/-- The failure of a session whose command line names no source of the report. -/
def noSource : Failure :=
  .context "Either a report file or --package with --package-version is required" []

/-! ### How steps fail -/

section Steps

variable {α β : Type} {p : Failure → Prop} {before : Trace}

/-- Whatever failure a step ends with has a property. -/
def FailsIn (p : Failure → Prop) (step : Session α) (before : Trace) : Prop :=
  FaultsIn p (step.run before).1

private theorem FailsIn.bind {step : Session α} {next : α → Session β}
    (hstep : FailsIn p step before)
    (hnext : ∀ a between, step.run before = (.ok a, between) → FailsIn p (next a) between) :
    FailsIn p (step >>= next) before := by
  unfold FailsIn at hstep ⊢
  rw [run_bind]
  rcases hrun : step.run before with ⟨result, between⟩
  rw [hrun] at hstep
  cases result with
  | ok a => exact hnext a between hrun
  | error failure => exact .error (hstep failure rfl)

private theorem failsIn_attempt {result : Except Failure α} (h : FaultsIn p result)
    (before : Trace) : FailsIn p (attempt result) before := by
  cases result with
  | ok a => exact .ok a
  | error failure => exact .error (h failure rfl)

private theorem failsIn_get (before : Trace) : FailsIn p (get : Session Trace) before := .ok before

private theorem failsIn_modify (change : Trace → Trace) (before : Trace) :
    FailsIn p (modify change : Session Unit) before := .ok ()

private theorem failsIn_tell (messages : List String) (before : Trace) :
    FailsIn p (tell messages) before :=
  .ok ()

private theorem failsIn_return (a : α) (before : Trace) :
    FailsIn p (pure a : Session α) before := .ok a

end Steps

/-! ### Other failures -/

/-- A failure with a message of its own is another one. -/
theorem context_ne_noSource {message : String} {causes : List String}
    (h : message.toList.head? ≠ some 'E') : Failure.context message causes ≠ noSource := by
  intro heq
  injection heq with hmessage
  subst hmessage
  exact h rfl

private theorem settingFault_ne_noSource (fault : SettingFault) : fault.failure ≠ noSource := by
  refine context_ne_noSource ?_
  unfold SettingFault.message
  split <;> simp

private theorem reportFault_ne_noSource (fault : ReportFault) : fault.failure ≠ noSource := by
  cases fault <;> exact nofun

private theorem faultsIn_config_load (files : FileSystem) (path : String) :
    FaultsIn (· ≠ noSource) (Config.load files path) := by
  unfold Config.load
  split
  · exact .error (context_ne_noSource (by simp))
  · split
    · exact .error (context_ne_noSource (by simp))
    · split
      · exact .error (context_ne_noSource (by simp))
      · exact .ok _

private theorem faultsIn_discover (files : FileSystem) (directory : String) :
    FaultsIn (· ≠ noSource) (Config.discover files directory) := by
  unfold Config.discover
  dsimp only
  split
  · exact (faultsIn_config_load files _).map
  · exact .ok none

private theorem faultsIn_parse (document source : String) (order : RawReport.EntryOrder) :
    FaultsIn (· ≠ noSource) (Report.parse document source order) :=
  .mapError reportFault_ne_noSource

private theorem faultsIn_reportFile_load (files : FileSystem) (path : String)
    (order : RawReport.EntryOrder) :
    FaultsIn (· ≠ noSource) (ReportFile.load files path order) := by
  unfold ReportFile.load ReportFile.readText
  refine .bind ?_ fun text _ ↦ faultsIn_parse text path order
  split
  · exact .error nofun
  · exact (FaultsIn.mapError fun _ ↦ nofun).bind fun _ _ ↦ .mapError fun _ ↦ nofun

private theorem faultsIn_readReply (url : String) (package : Package) (reply : Service.Reply)
    (order : RawReport.EntryOrder) :
    FaultsIn (· ≠ noSource) (Service.readReply url package reply order) := by
  unfold Service.readReply
  split
  · exact .error (context_ne_noSource (by simp))
  · split_ifs
    · exact faultsIn_parse _ url order
    · exact .error nofun
    · exact .error nofun
    · exact .error nofun

/-! ### Loading a report -/

variable {fetch : String → Service.Reply} {line : CommandLine} {apiUrl : String}
  {order : RawReport.EntryOrder}

/-- Loading fails for want of a source only if the command line names neither a file nor a package
with its version. -/
theorem fst_run_load_eq_noSource_iff {before : Trace} :
    ((load fetch line apiUrl order).run before).1 = .error noSource ↔
      line.report = none ∧ (line.package = none ∨ line.packageVersion = none) := by
  unfold load
  cases line.report with
  | some path => exact iff_of_false (fun h ↦ by cases h) nofun
  | none =>
    cases line.package with
    | none => exact iff_of_true rfl ⟨rfl, .inl rfl⟩
    | some name =>
      cases line.packageVersion with
      | none => exact iff_of_true rfl ⟨rfl, .inr rfl⟩
      | some version =>
        -- All that can go wrong is that the package is refused.
        refine iff_of_false (fun h ↦ ?_) nofun
        have hrefused : FaultsIn (· ≠ noSource)
            ((Package.ofTexts name version).mapError Failure.package) := .mapError fun _ ↦ nofun
        exact (failsIn_attempt hrefused before).bind (fun _ between _ ↦ failsIn_return _ between)
          noSource h rfl

private theorem failsIn_load (hsource : line.SelectsSource) (before : Trace) :
    FailsIn (· ≠ noSource) (load fetch line apiUrl order) before := by
  rintro failure hfailure rfl
  obtain ⟨hreport, hmissing⟩ := fst_run_load_eq_noSource_iff.mp hfailure
  rcases hsource with ⟨hsome, -⟩ | ⟨-, hpackage, hversion⟩
  · rw [hreport] at hsome
    cases hsome
  · rcases hmissing with hmissing | hmissing
    · rw [hmissing] at hpackage
      cases hpackage
    · rw [hmissing] at hversion
      cases hversion

/-- The report that a session loads does not fail for want of a source. -/
theorem faultsIn_loaded {files : FileSystem} {source : String} {loaded : Except Failure Report}
    (h : reportOf files fetch line apiUrl order = .ok (source, loaded)) :
    FaultsIn (· ≠ noSource) loaded := by
  unfold reportOf at h
  split at h
  · cases h
    exact faultsIn_reportFile_load files _ order
  · obtain ⟨package, -, h⟩ := bind_eq_ok_iff.mp h
    cases h
    exact faultsIn_readReply _ package _ order
  · cases h

/-! ### Whole sessions -/

variable {around : Surroundings}

/-- An assessment fails as the loading of its report does. -/
theorem faultsIn_assessment {p : Failure → Prop} {loaded : Except Failure Report}
    (h : FaultsIn p loaded) (source : String) (request : Request) :
    FaultsIn p (Assessment.run source loaded request).1 := by
  cases loaded with
  | ok report => exact .ok _
  | error failure => exact .error (h failure rfl)

private theorem failsIn_configure (line : CommandLine) (before : Trace) :
    FailsIn (· ≠ noSource) (configure line) before := by
  unfold configure
  refine (failsIn_get before).bind fun found between _ ↦ ?_
  cases line.config with
  | none =>
    refine (failsIn_attempt (faultsIn_discover found.files ".") between).bind fun _ between _ ↦ ?_
    exact (failsIn_tell _ between).bind fun _ between _ ↦ failsIn_return _ between
  | some path =>
    refine (failsIn_attempt (faultsIn_config_load found.files path).map between).bind
      fun _ between _ ↦ ?_
    exact (failsIn_tell _ between).bind fun _ between _ ↦ failsIn_return _ between

private theorem failsIn_present (path : Option String) (text : String) (before : Trace) :
    FailsIn (· ≠ noSource) (present path text) before := by
  unfold present
  cases path with
  | none => exact failsIn_modify _ before
  | some path =>
    refine (failsIn_get before).bind fun found between _ ↦ ?_
    refine (failsIn_attempt (.mapError fun _ ↦ nofun) between).bind fun _ between _ ↦ ?_
    exact (failsIn_modify _ between).bind fun _ between _ ↦ failsIn_tell _ between

private theorem failsIn_perform (hsource : line.SelectsSource) (before : Trace) :
    FailsIn (· ≠ noSource) (perform around line) before := by
  unfold perform
  refine (failsIn_configure line before).bind fun config between _ ↦ ?_
  refine (failsIn_attempt (.mapError settingFault_ne_noSource) between).bind
    fun settings between _ ↦ ?_
  refine (failsIn_load hsource between).bind fun ⟨source, loaded⟩ between hload ↦ ?_
  have hloaded := faultsIn_loaded (run_load_eq_ok_iff.mp hload).1
  refine (failsIn_tell _ between).bind fun _ between _ ↦ ?_
  refine (failsIn_attempt (faultsIn_assessment hloaded source _) between).bind
    fun assessment between _ ↦ ?_
  refine (failsIn_tell _ between).bind fun _ between _ ↦ ?_
  refine (failsIn_present _ _ between).bind fun _ between _ ↦ ?_
  exact (failsIn_tell _ between).bind fun _ between _ ↦ failsIn_return _ between

end Session

/-- Arguments that can be read and select no source end the program before a session begins. -/
theorem Outcome.exists_ofArguments_eq_refused {arguments : List String} {line : CommandLine}
    (around : Surroundings) (hline : CommandLine.ofOptions arguments = .ok line)
    (hsource : ¬ line.SelectsSource) :
    ∃ message, Outcome.ofArguments around arguments =
      ⟨.invalidArguments, ⟨"", [message], around.files⟩⟩ := by
  obtain ⟨fault, hfault⟩ := CommandLine.exists_ofArguments_eq_fault hline hsource
  refine ⟨Program.faultMessage fault, ?_⟩
  rw [Outcome.ofArguments, hfault]
  rfl

/-- Every accepted command line names a file and no package, or no file and a package with its
version. Loading a report fails for want of a source exactly if neither is named, so the session of
an accepted command line never does. Whether options are accepted depends neither on their order nor
on their spelling, and arguments that are read and select no source are refused as invalid ones,
with nothing written. -/
theorem source_selected :
    (∀ arguments line, CommandLine.ofArguments arguments = .ok line →
      ((line.report.isSome ∧ line.package = none) ∨
        (line.report = none ∧ line.package.isSome ∧ line.packageVersion.isSome)) ∧
      ∀ around trace, ((Session.perform around line).run trace).1 ≠ .error Session.noSource) ∧
    (∀ fetch line apiUrl order trace, ((Session.load fetch line apiUrl order).run trace).1 =
        .error Session.noSource ↔
      line.report = none ∧ (line.package = none ∨ line.packageVersion = none)) ∧
    (∀ givens groups, List.Forall₂ CommandLine.Spells givens groups →
      ((∃ line, CommandLine.ofArguments groups.flatten = .ok line) ↔
        CommandLine.AreAcceptable givens) ∧
      ∀ others otherGroups, List.Forall₂ CommandLine.Spells others otherGroups →
        givens.Perm others → ∀ line, CommandLine.ofArguments groups.flatten = .ok line ↔
          CommandLine.ofArguments otherGroups.flatten = .ok line) ∧
    (∀ arguments line, CommandLine.ofOptions arguments = .ok line → ¬ line.SelectsSource →
      ∀ around, ∃ message, Outcome.ofArguments around arguments =
        ⟨.invalidArguments, ⟨"", [message], around.files⟩⟩) := by
  refine ⟨fun arguments line hline ↦ ?_, fun _ _ _ _ _ ↦ Session.fst_run_load_eq_noSource_iff,
    fun givens groups h ↦ ?_, fun arguments line hline hsource around ↦ ?_⟩
  · have hsource := (CommandLine.ofArguments_eq_ok_iff.mp hline).2
    exact ⟨hsource, fun around trace h ↦ Session.failsIn_perform hsource trace _ h rfl⟩
  · exact ⟨CommandLine.exists_ofArguments_spelled_iff h, fun others otherGroups hother hperm line ↦
      CommandLine.ofArguments_spelled_perm h hother hperm line⟩
  · exact Outcome.exists_ofArguments_eq_refused around hline hsource

/-- A package with its version is a source, in either order and however it is spelled; a package
alone is none. -/
theorem source_selected_package :
    CommandLine.AreAcceptable [.setting .package "a", .setting .packageVersion "1.0.0"] ∧
    CommandLine.ofArguments ["--package-version=1.0.0", "-pa"] =
      .ok { package := "a", packageVersion := "1.0.0" } ∧
    (∀ around trace,
      ((Session.perform around { package := "a", packageVersion := "1.0.0" }).run trace).1 ≠
        .error Session.noSource) ∧
    ∀ around, ∃ message, Outcome.ofArguments around ["--package", "a"] =
      ⟨.invalidArguments, ⟨"", [message], around.files⟩⟩ := by
  obtain ⟨haccepted, -, hspelled, hrefused⟩ := source_selected
  have hread : CommandLine.ofArguments ["-p=a", "--package-version", "1.0.0"] =
      .ok { package := "a", packageVersion := "1.0.0" } := by
    rfl
  have hletter : CommandLine.Switch.ofLetter? 'p' = some (.setting .package) := rfl
  have hname : CommandLine.Switch.ofName? "package-version" = some (.setting .packageVersion) := rfl
  have hpackage := CommandLine.Spells.letterEqual "a" hletter
  have hpackageAttached := CommandLine.Spells.letter hletter (by decide : "a" ≠ "") (by decide)
  have hversion := CommandLine.Spells.named "1.0.0" hname
  have halone : CommandLine.StandsAlone "1.0.0" := .inr (by decide)
  have hversionApart := CommandLine.Spells.namedApart hname halone
  obtain ⟨hacceptable, horder⟩ := hspelled _ _ (.cons hpackage (.cons hversionApart .nil))
  have hother := horder _ _ (.cons hversion (.cons hpackageAttached .nil)) (.swap _ _ [])
  refine ⟨hacceptable.mp ⟨_, hread⟩, (hother _).mp hread, (haccepted _ _ hread).2, ?_⟩
  exact hrefused ["--package", "a"] { package := "a" } rfl (by decide)

end PackageRisk
