import PackageRisk.Assessment
import PackageRisk.Failure

/-!
# Telling while assessing

An assessment taken step by step: each step may fail, and tells of itself. Loading can fail, and so
can the roll-up, which checks the freshness like any input that is built from its facts. An input
has passed this check before, so the roll-up does not fail, and what is told is settled by the
report and the request.
-/

namespace PackageRisk

/-- Steps that may fail, with the events that they tell. What was told before a failure stays
told. -/
abbrev Telling := ExceptT Failure (StateM (List Event))

namespace Telling

variable {α β : Type}

/-- Tells an event. -/
def tell (event : Event) : Telling Unit := modify (· ++ [event])

/-- Goes on with a result, or stops with a failure. -/
def attempt : Except Failure α → Telling α
  | .ok a => pure a
  | .error failure => throw failure

/-- Whatever has been told before, the steps end with a result and tell some events more. -/
def Does (steps : Telling α) (result : Except Failure α) (events : List Event) : Prop :=
  ∀ told, steps.run told = (result, told ++ events)

private theorem does_pure (a : α) : Does (pure a) (.ok a) [] := by
  intro told
  rw [List.append_nil]
  rfl

private theorem does_tell (event : Event) : Does (tell event) (.ok ()) [event] := by
  intro told
  rfl

private theorem does_attempt_error (failure : Failure) :
    Does (attempt (.error failure) : Telling α) (.error failure) [] := by
  intro told
  rw [List.append_nil]
  rfl

/-- A result that is there is gone on with. -/
theorem attempt_ok_bind (a : α) (next : α → Telling β) : attempt (.ok a) >>= next = next a :=
  pure_bind a next

/-- The next step goes on with what the first step has told. -/
theorem run_bind (step : Telling α) (next : α → Telling β) (told : List Event) :
    (step >>= next).run told =
      match step.run told with
      | (.ok a, later) => (next a).run later
      | (.error failure, later) => (.error failure, later) := by
  have hbind : (step >>= next).run told =
      (ExceptT.bindCont next (step.run told).1).run (step.run told).2 := rfl
  rw [hbind]
  obtain ⟨result, later⟩ := step.run told
  cases result <;> rfl

/-- After a step that ends with a result, the next step goes on from it. -/
theorem Does.bind {step : Telling α} {next : α → Telling β} {a : α} {result : Except Failure β}
    {events more : List Event} (hstep : Does step (.ok a) events)
    (hnext : Does (next a) result more) : Does (step >>= next) result (events ++ more) := by
  intro told
  rw [run_bind, hstep told, ← List.append_assoc]
  exact hnext (told ++ events)

/-- What is returned after a step adds nothing to what it tells. -/
theorem Does.then_return {step : Telling α} {a : α} {events : List Event}
    (hstep : Does step (.ok a) events) (b : β) :
    Does (do let _ ← step; return b) (.ok b) events := by
  have hsteps : Does (do let _ ← step; return b) (.ok b) (events ++ []) :=
    hstep.bind (does_pure b)
  rwa [List.append_nil] at hsteps

/-- After a step that fails, there is no other. -/
theorem Does.bind_error {step : Telling α} {failure : Failure} {events : List Event}
    (hstep : Does step (.error failure) events) (next : α → Telling β) :
    Does (step >>= next) (.error failure) events := by
  intro told
  rw [run_bind, hstep told]

end Telling

/-- The roll-up as an input built from its facts: a freshness that is not finite is refused. -/
def ScoreInput.aggregate (freshness : Binary64) (direct : VulnerabilityCounts)
    (reports : List Report) : Except Failure ScoreInput :=
  match aggregate? freshness direct reports with
  | some input => .ok input
  | none => .error (.invalidInput freshnessField (notFiniteMessage freshness))

/-- A freshness that has been accepted for an input is accepted for its roll-up. -/
theorem ScoreInput.aggregate_eq_ok (input : ScoreInput) (reports : List Report) :
    aggregate input.freshness input.direct reports = .ok (input.rollUp reports) := by
  rw [aggregate, aggregate?_eq_some_rollUp]

namespace Assessment

open Telling

/-- Loads the report; the wait for it ends before the result is looked at. -/
def load (source : String) (loaded : Except Failure Report) : Telling Report := do
  tell (.waiting source)
  tell .waitOver
  let report ← attempt loaded
  tell (.loaded report.package report.dependencies.length)
  return report

/-- Tells of a number of dependencies that is not the stored one. -/
def tellCount (rolledUp stored : Count) : Telling Unit :=
  if rolledUp = stored then pure () else tell (.countDiffers rolledUp stored)

/-- Chooses the input of the package, and fails where the roll-up does. -/
def chooseInput (request : Request) (report : Report) : Telling ScoreInput :=
  if request.aggregate then
    if report.dependencies.isEmpty then do
      tell .nothingToAggregate
      return report.input
    else do
      let input ← attempt
        (ScoreInput.aggregate report.input.freshness report.input.direct report.dependencies)
      tellCount input.allDependencies report.input.allDependencies
      return input
  else return report.input

/-- Scores the report with an input for its package, and tells of the grade. -/
def scoreFrom (request : Request) (report : Report) (input : ScoreInput) : Telling Assessment := do
  let package := ScoredPackage.ofReport { report with input } request.breakdown
  let dependencies := report.dependencies.map (ScoredPackage.ofReport · false)
  tell (.scored report.package package.score.grade dependencies.length)
  return ⟨package, dependencies, .ofGrades (dependencies.map (·.score.grade)), request.minGrade⟩

/-- Assesses the report that was loaded from a source, step by step. -/
def perform (source : String) (loaded : Except Failure Report) (request : Request) :
    Telling Assessment := do
  let report ← load source loaded
  let input ← chooseInput request report
  scoreFrom request report input

private theorem does_load (source : String) (report : Report) :
    Does (load source (.ok report)) (.ok report)
      [.waiting source, .waitOver, .loaded report.package report.dependencies.length] := by
  apply (does_tell _).bind
  apply (does_tell _).bind
  rw [attempt_ok_bind]
  exact (does_tell _).then_return report

private theorem does_load_error (source : String) (failure : Failure) :
    Does (load source (.error failure)) (.error failure) [.waiting source, .waitOver] := by
  apply (does_tell _).bind
  apply (does_tell _).bind
  exact (does_attempt_error failure).bind_error _

private theorem does_tellCount (rolledUp stored : Count) :
    Does (tellCount rolledUp stored) (.ok ())
      (if rolledUp = stored then [] else [.countDiffers rolledUp stored]) := by
  unfold tellCount
  split
  · exact does_pure ()
  · exact does_tell _

/-- The check of the roll-up is passed, whatever the report. -/
theorem does_chooseInput (request : Request) (report : Report) :
    Does (chooseInput request report) (.ok (inputFor request report))
      (rollUpEvents request report) := by
  unfold chooseInput inputFor rollUpEvents
  cases request.aggregate with
  | false => exact does_pure report.input
  | true =>
    cases report.dependencies.isEmpty with
    | true => exact (does_tell _).then_return report.input
    | false =>
      rw [ScoreInput.aggregate_eq_ok, attempt_ok_bind]
      exact (does_tellCount _ _).then_return _

private theorem does_scoreFrom (request : Request) (report : Report) :
    Does (scoreFrom request report (inputFor request report)) (.ok (ofReport request report))
      [.scored report.package (ofReport request report).package.score.grade
        (ofReport request report).dependencies.length] :=
  (does_tell _).then_return _

/-- Step by step, an assessment gives and tells the same. -/
theorem perform_eq_run (source : String) (loaded : Except Failure Report) (request : Request) :
    (perform source loaded request).run [] = run source loaded request := by
  cases loaded with
  | error failure => exact (does_load_error source failure).bind_error _ []
  | ok report =>
    have hinput := (does_chooseInput request report).bind (does_scoreFrom request report)
    exact (does_load source report).bind hinput []

end Assessment

namespace Event

/-- The ways to tell something. -/
inductive Manner
  | waitBegins
  | waitEnds
  | news
  | warning
  deriving DecidableEq, Repr

/-- The way an event is told. -/
def manner : Event → Manner
  | .waiting _ => .waitBegins
  | .waitOver => .waitEnds
  | .nothingToAggregate => .warning
  | .loaded .. | .countDiffers .. | .scored .. => .news

/-- Every wait that begins ends before anything else is told, and none ends that has not begun. -/
inductive WaitsEnd : List Manner → Prop
  | nil : WaitsEnd []
  | wait {rest : List Manner} : WaitsEnd rest → WaitsEnd (.waitBegins :: .waitEnds :: rest)
  | news {rest : List Manner} : WaitsEnd rest → WaitsEnd (.news :: rest)
  | warning {rest : List Manner} : WaitsEnd rest → WaitsEnd (.warning :: rest)

private theorem WaitsEnd.append {manners others : List Manner} (h : WaitsEnd manners)
    (hothers : WaitsEnd others) : WaitsEnd (manners ++ others) := by
  induction h with
  | nil => exact hothers
  | wait _ ih => exact .wait ih
  | news _ ih => exact .news ih
  | warning _ ih => exact .warning ih

end Event

namespace Assessment

open Event (WaitsEnd)

/-- What is told of a roll-up: nothing if it was not asked for, a warning if there is nothing to
roll up, and else the number of dependencies if it is not the stored one. -/
inductive TellsRollUp (request : Request) (report : Report) : List Event → Prop
  | notAsked (haggregate : request.aggregate = false) : TellsRollUp request report []
  | nothing (haggregate : request.aggregate = true) (hnone : report.dependencies = []) :
    TellsRollUp request report [.nothingToAggregate]
  | differs (haggregate : request.aggregate = true) (hsome : report.dependencies ≠ [])
      (hne : Report.rolledDependencies report.dependencies ≠ report.input.allDependencies) :
    TellsRollUp request report
      [.countDiffers (Report.rolledDependencies report.dependencies) report.input.allDependencies]
  | agrees (haggregate : request.aggregate = true) (hsome : report.dependencies ≠ [])
      (heq : Report.rolledDependencies report.dependencies = report.input.allDependencies) :
    TellsRollUp request report []

/-- The events of the roll-up are those that the counts call for. -/
theorem tellsRollUp_rollUpEvents (request : Request) (report : Report) :
    TellsRollUp request report (rollUpEvents request report) := by
  unfold rollUpEvents
  split
  · next haggregate => exact .notAsked (by simpa using haggregate)
  · next haggregate =>
    have haggregate : request.aggregate = true := by simpa using haggregate
    split
    · next hnone => exact .nothing haggregate (List.isEmpty_iff.mp hnone)
    · next hsome =>
      have hsome : report.dependencies ≠ [] := fun hnone ↦ hsome (List.isEmpty_iff.mpr hnone)
      dsimp only
      split
      · next heq => exact .agrees haggregate hsome heq
      · next hne => exact .differs haggregate hsome hne

/-- The roll-up is told without waiting. -/
theorem TellsRollUp.waitsEnd {request : Request} {report : Report} {events : List Event}
    (h : TellsRollUp request report events) : WaitsEnd (events.map Event.manner) := by
  cases h with
  | notAsked => exact .nil
  | nothing => exact .warning .nil
  | differs => exact .news .nil
  | agrees => exact .nil

/-- An assessment fails exactly when loading fails, with the same failure and nothing told but the
wait: the roll-up of an input that was built from facts is never refused. Else it tells of the
loaded report, of the roll-up and of the grade, in this order. No wait is left open. -/
theorem run_error_iff_load_error (source : String) (loaded : Except Failure Report)
    (request : Request) :
    (perform source loaded request).run [] = run source loaded request ∧
      (∀ failure, (run source loaded request).1 = .error failure ↔ loaded = .error failure) ∧
      (∀ failure, loaded = .error failure →
        (run source loaded request).2 = [.waiting source, .waitOver]) ∧
      (∀ report, loaded = .ok report → ∃ assessment rollUp,
        (run source loaded request).1 = .ok assessment ∧ TellsRollUp request report rollUp ∧
        (run source loaded request).2 =
          [.waiting source, .waitOver, .loaded report.package report.dependencies.length] ++
            rollUp ++ [.scored report.package assessment.package.score.grade
              assessment.dependencies.length]) ∧
      (∀ (report : Report) (reports : List Report), ∃ rolledUp,
        ScoreInput.aggregate report.input.freshness report.input.direct reports = .ok rolledUp) ∧
      WaitsEnd ((run source loaded request).2.map Event.manner) := by
  refine ⟨perform_eq_run source loaded request, fun failure ↦ ?_, ?_, ?_,
    fun report reports ↦ ⟨_, report.input.aggregate_eq_ok reports⟩, ?_⟩
  · cases loaded <;> simp [run]
  · rintro failure rfl
    rfl
  · rintro report rfl
    refine ⟨_, _, rfl, tellsRollUp_rollUpEvents request report, ?_⟩
    simp only [run, reportEvents, List.cons_append, List.nil_append]
  · cases loaded with
    | error failure => exact .wait .nil
    | ok report =>
      have hrollUp := (tellsRollUp_rollUpEvents request report).waitsEnd
      have htrace := (WaitsEnd.wait (.news .nil)).append (hrollUp.append (.news .nil))
      simp only [run, reportEvents, List.map_append, List.map_cons]
      exact htrace

private def miscountedPackage : Package := ⟨"miscount", "4", by decide +kernel, by decide +kernel⟩

private def bareReport : Report :=
  ⟨miscountedPackage, ⟨.zero, 0, 0, 0, Binary64.isFinite_zero⟩, ⟨none, none, none, none, none⟩, []⟩

/-- A report that stores no dependency, and has one. -/
private def miscountedReport : Report := { bareReport with dependencies := [bareReport] }

/-- A failure to load ends the run, and a count that differs is told about in a run that succeeds.
-/
theorem run_error_iff_load_error_miscounted :
    (run "a@1" (.error (.reportPending "a" "1") : Except Failure Report) ⟨true, true, none⟩).2 =
        [.waiting "a@1", .waitOver] ∧
      ∃ assessment rollUp,
        (run "a@1" (.ok miscountedReport : Except Failure Report) ⟨true, true, none⟩).1 =
          .ok assessment ∧
        TellsRollUp ⟨true, true, none⟩ miscountedReport rollUp ∧
        (run "a@1" (.ok miscountedReport : Except Failure Report) ⟨true, true, none⟩).2 =
          [.waiting "a@1", .waitOver, .loaded miscountedPackage 1] ++ rollUp ++
            [.scored miscountedPackage assessment.package.score.grade
              assessment.dependencies.length] :=
  ⟨(run_error_iff_load_error "a@1" (.error (.reportPending "a" "1")) _).2.2.1 _ rfl,
    (run_error_iff_load_error "a@1" (.ok miscountedReport) _).2.2.2.1 _ rfl⟩

end Assessment

end PackageRisk
