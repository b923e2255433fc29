import Mathlib.Data.List.Nodup
import PackageRisk.CommandLine
import PackageRisk.Proofs.Fallible

/-!
# Options of a command line

Options are given to a command line one after the other. Each of them finds its place empty or is
refused, and those with places of their own do not meet, so the order makes no difference to the
command line that results. Which options were given shows in it, and so does whether it selects one
source of the report.
-/

namespace PackageRisk.CommandLine

open Fallible

/-- What an option says, however it is spelled; the argument without option is one too. -/
inductive Given
  | setting (setting : Setting) (text : String)
  | flag (flag : Flag)
  deriving DecidableEq, Repr

/-- The command line after an option is given to it. -/
def give (line : CommandLine) : Given → Except Stop CommandLine
  | .setting setting text => (line.set text setting).mapError .fault
  | .flag flag => line.raise flag

/-- The option that is given. -/
def Given.switch : Given → Switch
  | .setting option _ => .setting option
  | .flag option => .flag option

/-- The text is one that its option takes. The requests for help and for the version are not fit for
a command line. -/
def Given.IsFit : Given → Prop
  | .setting .report text | .setting .output text | .setting .config text => text ≠ ""
  | .setting .format text => (OutputFormat.ofName? text).isSome
  | .setting .minGrade text => (Grade.ofName? text).isSome
  | .setting _ _ => True
  | .flag .help | .flag .version => False
  | .flag _ => True

/-- The option was given to the command line. -/
def has (line : CommandLine) : Switch → Bool
  | .setting .report => line.report.isSome
  | .setting .package => line.package.isSome
  | .setting .packageVersion => line.packageVersion.isSome
  | .setting .apiUrl => line.apiUrl.isSome
  | .setting .format => line.format.isSome
  | .setting .output => line.output.isSome
  | .setting .minGrade => line.minGrade.isSome
  | .setting .config => line.config.isSome
  | .flag .breakdown => line.breakdown
  | .flag .aggregate => line.aggregate
  | .flag _ => false

/-- The command line with an option in its place, whatever was there. -/
def put (line : CommandLine) : Given → CommandLine
  | .setting .report text => { line with report := path? text }
  | .setting .package text => { line with package := some text }
  | .setting .packageVersion text => { line with packageVersion := some text }
  | .setting .apiUrl text => { line with apiUrl := some text }
  | .setting .format text => { line with format := OutputFormat.ofName? text }
  | .setting .output text => { line with output := path? text }
  | .setting .minGrade text => { line with minGrade := Grade.ofName? text }
  | .setting .config text => { line with config := path? text }
  | .flag .breakdown => { line with breakdown := true }
  | .flag .aggregate => { line with aggregate := true }
  | .flag _ => line

/-- The empty command line has no switch. -/
@[simp] theorem has_empty (switch : Switch) : ({} : CommandLine).has switch = false := by
  rcases switch with setting | flag
  · cases setting <;> rfl
  · cases flag <;> rfl

/-! ### One option -/

private theorem isSome_path?_iff {text : String} : (path? text).isSome = true ↔ text ≠ "" := by
  unfold path?
  split_ifs with h <;> simp [h]

private theorem map_fill_eq_ok_iff {α : Type} {place value : Option α} {fault : Fault}
    {f : Option α → CommandLine} {after : CommandLine} :
    f <$> fill place value fault = .ok after ↔
      value.isSome ∧ place.isSome = false ∧ f value = after := by
  unfold fill
  cases place <;> cases value <;> simp [Functor.map, Except.map]

/-- An option is taken when it is fit and was not given before. -/
theorem give_eq_ok_iff {line after : CommandLine} {given : Given} :
    line.give given = .ok after ↔
      given.IsFit ∧ line.has given.switch = false ∧ line.put given = after := by
  cases given with
  | flag flag =>
    cases flag <;> simp only [give, raise, Given.IsFit, has, put, Given.switch] <;> try split_ifs
    all_goals simp [*]
  | setting setting text =>
    cases setting <;>
      simp [give, set, map_fill_eq_ok_iff, isSome_path?_iff, Given.IsFit, Given.switch, has, put]

/-- Of all places, an option fills its own only. -/
theorem has_put {given : Given} (hfit : given.IsFit) (line : CommandLine) (switch : Switch) :
    (line.put given).has switch = (line.has switch || decide (given.switch = switch)) := by
  rcases given with ⟨setting, text⟩ | flag
  · cases setting <;> rcases switch with other | other <;> cases other <;>
      simp_all [has, put, Given.IsFit, Given.switch, isSome_path?_iff]
  · cases flag <;> rcases switch with other | other <;> cases other <;>
      simp_all [has, put, Given.IsFit, Given.switch]

/-- Two different options do not meet. -/
theorem put_comm {given other : Given} (h : given.switch ≠ other.switch) (line : CommandLine) :
    (line.put given).put other = (line.put other).put given := by
  rcases given with ⟨setting, _⟩ | flag <;> rcases other with ⟨otherSetting, _⟩ | otherFlag
  · cases setting <;> cases otherSetting <;> first | exact absurd rfl h | simp only [put]
  · cases setting <;> cases otherFlag <;> simp only [put]
  · cases flag <;> cases otherSetting <;> simp only [put]
  · cases flag <;> cases otherFlag <;> first | exact absurd rfl h | simp only [put]

/-! ### Several options -/

/-- Options are taken when all are fit, none was given before, and none is given twice. -/
theorem foldlM_give_eq_ok_iff {givens : List Given} {line after : CommandLine} :
    givens.foldlM give line = .ok after ↔
      (∀ given ∈ givens, given.IsFit ∧ line.has given.switch = false) ∧
        (givens.map Given.switch).Nodup ∧ givens.foldl put line = after := by
  induction givens generalizing line with
  | nil => simp [pure, Except.pure]
  | cons given rest ih =>
    rw [List.foldlM_cons, bind_eq_ok_iff, List.forall_mem_cons, List.map_cons, List.nodup_cons,
      List.foldl_cons]
    simp only [give_eq_ok_iff, ih]
    -- The place of the first option is filled when the others are given.
    have hplaces (hfit : given.IsFit) :
        (∀ other ∈ rest, other.IsFit ∧ (line.put given).has other.switch = false) ↔
          (∀ other ∈ rest, other.IsFit ∧ line.has other.switch = false) ∧
            given.switch ∉ rest.map Given.switch := by
      simp only [has_put hfit, Bool.or_eq_false_iff, decide_eq_false_iff_not, List.mem_map]
      grind
    constructor
    · rintro ⟨_, ⟨hfit, hopen, rfl⟩, hrest, hnodup, hafter⟩
      obtain ⟨hrest, hnotMem⟩ := (hplaces hfit).mp hrest
      exact ⟨⟨⟨hfit, hopen⟩, hrest⟩, ⟨hnotMem, hnodup⟩, hafter⟩
    · rintro ⟨⟨⟨hfit, hopen⟩, hrest⟩, ⟨hnotMem, hnodup⟩, hafter⟩
      exact ⟨_, ⟨hfit, hopen, rfl⟩, (hplaces hfit).mpr ⟨hrest, hnotMem⟩, hnodup, hafter⟩

/-- A command line has the switches that it had and those of the options put into it. -/
theorem has_foldl_put {givens : List Given} (hfits : ∀ given ∈ givens, given.IsFit)
    (line : CommandLine) (switch : Switch) :
    (givens.foldl put line).has switch = true ↔
      line.has switch = true ∨ switch ∈ givens.map Given.switch := by
  induction givens generalizing line with
  | nil => simp
  | cons given rest ih =>
    obtain ⟨hfit, hrest⟩ := List.forall_mem_cons.mp hfits
    rw [List.foldl_cons, ih hrest, has_put hfit, Bool.or_eq_true, decide_eq_true_iff,
      List.map_cons, List.mem_cons, or_assoc, eq_comm (a := switch)]

/-- Options with places of their own make the same command line in every order. -/
theorem foldl_put_perm {givens others : List Given} (hperm : givens.Perm others)
    (hnodup : (givens.map Given.switch).Nodup) (line : CommandLine) :
    givens.foldl put line = others.foldl put line := by
  refine hperm.foldl_eq' (fun given hgiven other hother before ↦ ?_) line
  by_cases h : given.switch = other.switch
  · rw [List.inj_on_of_nodup_map hnodup hgiven hother h]
  · exact put_comm h before

/-- The order of the options makes no difference to the command line. -/
theorem foldlM_give_perm {givens others : List Given} (hperm : givens.Perm others)
    (line after : CommandLine) :
    givens.foldlM give line = .ok after ↔ others.foldlM give line = .ok after := by
  rw [foldlM_give_eq_ok_iff, foldlM_give_eq_ok_iff, ← (hperm.map _).nodup_iff]
  simp only [hperm.mem_iff]
  exact and_congr_right fun _ ↦ and_congr_right fun hnodup ↦ by rw [foldl_put_perm hperm hnodup]

/-! ### The source of the report -/

/-- The report comes from a file, and no package is named, or it comes from the service, which needs
the name and the version of the package. -/
def SelectsSource (line : CommandLine) : Prop :=
  (line.report.isSome ∧ line.package = none) ∨
    (line.report = none ∧ line.package.isSome ∧ line.packageVersion.isSome)

/-- Whether a command line selects a source can be read off its options. -/
instance (line : CommandLine) : Decidable line.SelectsSource :=
  inferInstanceAs (Decidable (_ ∨ _))

/-- The check passes command lines that select one source. -/
theorem check_eq_ok_iff {line : CommandLine} : line.check = .ok () ↔ line.SelectsSource := by
  unfold check SelectsSource
  cases line.report <;> cases line.package <;> cases line.packageVersion <;> simp

/-- A command line selects one source when it has a report and no package, or a package with its
version and no report. -/
theorem selectsSource_iff_has {line : CommandLine} :
    line.SelectsSource ↔
      (line.has (.setting .report) ∧ ¬ line.has (.setting .package)) ∨
        (¬ line.has (.setting .report) ∧ line.has (.setting .package) ∧
          line.has (.setting .packageVersion)) := by
  simp [SelectsSource, has]

end PackageRisk.CommandLine
