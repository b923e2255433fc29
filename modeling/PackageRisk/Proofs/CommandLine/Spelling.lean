import Mathlib.Data.List.TakeWhile
import PackageRisk.Proofs.CommandLine.Options

/-!
# Spellings of options

An option can be spelled in several ways: with its long name or with its letter, and with a value
that is attached or stands apart. Arguments that spell options one after the other are read as if
each option were given to the command line at once, whatever the spellings are. Whether they are
accepted shows in the options alone.
-/

namespace PackageRisk.CommandLine

open Fallible

/-! ### Accepted arguments -/

/-- The command line that arguments make, with whatever sources it has. -/
def ofOptions (arguments : List String) : Except Stop CommandLine := do
  let progress ← arguments.foldlM Progress.read .start
  progress.settle

private theorem ofArguments_eq (arguments : List String) :
    ofArguments arguments = do
      let line ← ofOptions arguments
      line.check.mapError Stop.fault
      return line := by
  unfold ofArguments ofOptions
  rw [bind_assoc]

/-- Arguments are accepted when they can be read and select a source. -/
theorem ofArguments_eq_ok_iff {arguments : List String} {line : CommandLine} :
    ofArguments arguments = .ok line ↔ ofOptions arguments = .ok line ∧ line.SelectsSource := by
  rw [ofArguments_eq, bind_eq_ok_iff]
  constructor
  · rintro ⟨found, hfound, h⟩
    obtain ⟨⟨⟩, hcheck, h⟩ := bind_eq_ok_iff.mp h
    cases h
    exact ⟨hfound, check_eq_ok_iff.mp (mapError_eq_ok_iff.mp hcheck)⟩
  · rintro ⟨hline, hsource⟩
    refine ⟨line, hline, bind_eq_ok_iff.mpr ⟨(), ?_, rfl⟩⟩
    exact mapError_eq_ok_iff.mpr (check_eq_ok_iff.mpr hsource)

/-- Arguments that can be read and select no source are at fault. -/
theorem exists_ofArguments_eq_fault {arguments : List String} {line : CommandLine}
    (hline : ofOptions arguments = .ok line) (hsource : ¬ line.SelectsSource) :
    ∃ fault, ofArguments arguments = .error (.fault fault) := by
  cases hcheck : line.check with
  | ok _ => exact absurd (check_eq_ok_iff.mp hcheck) hsource
  | error fault =>
    refine ⟨fault, ?_⟩
    rw [ofArguments_eq, hline]
    change (line.check.mapError Stop.fault >>= _) = _
    rw [hcheck]
    rfl

/-! ### Spellings -/

/-- The text can stand alone without being taken for an option. -/
def StandsAlone (text : String) : Prop := text = "-" ∨ text.toList.head? ≠ some '-'

/-- The arguments that spell an option. -/
inductive Spells : Given → List String → Prop
  /-- As in `--package=lodash`. -/
  | named {name : String} {setting : Setting} (text : String)
      (hname : Switch.ofName? name = some (.setting setting)) :
      Spells (.setting setting text) ["--" ++ name ++ "=" ++ text]
  /-- As in `--package lodash`. -/
  | namedApart {name : String} {setting : Setting} {text : String}
      (hname : Switch.ofName? name = some (.setting setting)) (htext : StandsAlone text) :
      Spells (.setting setting text) ["--" ++ name, text]
  /-- As in `-p=lodash`. -/
  | letterEqual {letter : Char} {setting : Setting} (text : String)
      (hletter : Switch.ofLetter? letter = some (.setting setting)) :
      Spells (.setting setting text) ["-" ++ String.singleton letter ++ "=" ++ text]
  /-- As in `-plodash`. -/
  | letter {letter : Char} {setting : Setting} {text : String}
      (hletter : Switch.ofLetter? letter = some (.setting setting)) (hempty : text ≠ "")
      (hequal : text.toList.head? ≠ some '=') :
      Spells (.setting setting text) ["-" ++ String.singleton letter ++ text]
  /-- As in `-p lodash`. -/
  | letterApart {letter : Char} {setting : Setting} {text : String}
      (hletter : Switch.ofLetter? letter = some (.setting setting)) (htext : StandsAlone text) :
      Spells (.setting setting text) ["-" ++ String.singleton letter, text]
  | flagNamed {name : String} {flag : Flag} (hname : Switch.ofName? name = some (.flag flag)) :
      Spells (.flag flag) ["--" ++ name]
  | flagLetter {letter : Char} {flag : Flag}
      (hletter : Switch.ofLetter? letter = some (.flag flag)) :
      Spells (.flag flag) ["-" ++ String.singleton letter]
  /-- The argument without option is the path of the report file. -/
  | report {text : String} (htext : StandsAlone text) : Spells (.setting .report text) [text]

private theorem toList_ne_nil_of_ofName? {name : String} {switch : Switch}
    (h : Switch.ofName? name = some switch) : name.toList ≠ [] := by
  intro hname
  rw [String.toList_eq_nil_iff.mp hname] at h
  cases h

/-- No name of an option holds the sign that its value may follow. -/
theorem forall_ne_equal {name : String} {switch : Switch}
    (h : Switch.ofName? name = some switch) : ∀ c ∈ name.toList, decide (c ≠ '=') = true := by
  have hequal : '=' ∉ name.toList := by
    unfold Switch.ofName? at h
    split at h
    all_goals first | decide | cases h
  exact fun _ hc ↦ decide_eq_true (ne_of_mem_of_not_mem hc hequal)

private theorem ne_of_ofLetter? {letter : Char} {switch : Switch}
    (h : Switch.ofLetter? letter = some switch) : letter ≠ '-' := by
  rintro rfl
  cases h

namespace Progress

/-! ### Reading one argument -/

/-- Reads an option with nothing attached to it. -/
def readSwitch (progress : Progress) : Switch → Except Stop Progress
  | .setting setting => progress.readSetting setting none
  | .flag flag => progress.readFlag flag

section Read

variable {progress : Progress} (hoptions : progress.optionsOver = false)

include hoptions

private theorem read_eq_readLong {argument : String} {text : List Char}
    (hargument : argument.toList = '-' :: '-' :: text) (htext : text ≠ []) :
    progress.read argument = progress.readLong text := by
  obtain ⟨first, rest, rfl⟩ := List.exists_cons_of_ne_nil htext
  simp [read, hoptions, hargument]

private theorem read_eq_readLetters {argument : String} {letter : Char} {letters : List Char}
    (hargument : argument.toList = '-' :: letter :: letters) (hletter : letter ≠ '-') :
    progress.read argument = progress.readLetters (letter :: letters) := by
  simp [read, hoptions, hargument, hletter]

/-- A text that stands alone is a value if one is awaited, and else the report. -/
theorem read_of_standsAlone {text : String} (htext : StandsAlone text) :
    progress.read text =
      match progress.pending with
      | some ⟨setting, none⟩ => .ok { progress with pending := some ⟨setting, some text⟩ }
      | _ => progress.readReport text := by
  unfold read
  rw [hoptions, if_neg Bool.false_ne_true]
  rcases htext with rfl | hfirst
  · rfl
  · split
    · next h => exact absurd (by rw [h]; rfl) hfirst
    · next h => exact absurd (by rw [h]; rfl) hfirst
    · next h => exact absurd (by rw [h]; rfl) hfirst
    · rfl

private theorem read_named {name : String} {setting : Setting}
    (hname : Switch.ofName? name = some (.setting setting)) (text : String) :
    progress.read ("--" ++ name ++ "=" ++ text) = progress.readSetting setting (some text) := by
  have hall := forall_ne_equal hname
  have hargument : ("--" ++ name ++ "=" ++ text).toList =
      '-' :: '-' :: (name.toList ++ '=' :: text.toList) := by
    simp
  rw [read_eq_readLong hoptions hargument (by simp)]
  unfold readLong
  rw [List.takeWhile_append_of_pos hall, List.dropWhile_append_of_pos hall]
  simp [hname]

private theorem read_name {name : String} {switch : Switch}
    (hname : Switch.ofName? name = some switch) :
    progress.read ("--" ++ name) = progress.readSwitch switch := by
  have hall := forall_ne_equal hname
  rw [read_eq_readLong hoptions (by simp) (toList_ne_nil_of_ofName? hname)]
  unfold readLong
  rw [List.takeWhile_eq_self_iff.mpr hall, List.dropWhile_eq_nil_iff.mpr hall]
  cases switch <;> simp [hname, readSwitch]

private theorem read_letterEqual {letter : Char} {setting : Setting}
    (hletter : Switch.ofLetter? letter = some (.setting setting)) (text : String) :
    progress.read ("-" ++ String.singleton letter ++ "=" ++ text) =
      progress.readSetting setting (some text) := by
  have hargument : ("-" ++ String.singleton letter ++ "=" ++ text).toList =
      '-' :: letter :: '=' :: text.toList := by
    simp
  rw [read_eq_readLetters hoptions hargument (ne_of_ofLetter? hletter)]
  simp [readLetters, hletter]

/-- What follows a letter directly is its value, unless it begins with an equal sign. -/
theorem read_letterAttached {letter : Char} {setting : Setting} {text : String}
    (hletter : Switch.ofLetter? letter = some (.setting setting)) (hempty : text ≠ "")
    (hequal : text.toList.head? ≠ some '=') :
    progress.read ("-" ++ String.singleton letter ++ text) =
      progress.readSetting setting (some text) := by
  have hargument :
      ("-" ++ String.singleton letter ++ text).toList = '-' :: letter :: text.toList := by
    simp
  rw [read_eq_readLetters hoptions hargument (ne_of_ofLetter? hletter)]
  obtain ⟨first, rest, htext⟩ :=
    List.exists_cons_of_ne_nil (mt String.toList_eq_nil_iff.mp hempty)
  have hfirst : first ≠ '=' := by
    rw [htext] at hequal
    simpa using hequal
  rw [← String.ofList_toList (s := text), htext]
  simp [readLetters, hletter, hfirst]

private theorem read_letter {letter : Char} {switch : Switch}
    (hletter : Switch.ofLetter? letter = some switch) :
    progress.read ("-" ++ String.singleton letter) = progress.readSwitch switch := by
  have hargument : ("-" ++ String.singleton letter).toList = ['-', letter] := by
    simp
  rw [read_eq_readLetters hoptions hargument (ne_of_ofLetter? hletter), readLetters, hletter]
  cases switch with
  | setting setting => rfl
  | flag flag => exact bind_pure _

end Read

/-! ### Reading what spells an option -/

/-- Where no value is awaited, nothing is left to settle. -/
@[simp] theorem settle_none (line : CommandLine) (optionsOver : Bool) :
    settle ⟨line, none, optionsOver⟩ = pure line := rfl

@[simp] private theorem settle_some (line : CommandLine) (setting : Setting) (text : String)
    (optionsOver : Bool) :
    settle ⟨line, some ⟨setting, some text⟩, optionsOver⟩ = line.give (.setting setting text) := rfl

/-- Options may follow, and no value is awaited. -/
def IsReady (progress : Progress) : Prop :=
  progress.optionsOver = false ∧ ∀ setting, progress.pending ≠ some ⟨setting, none⟩

/-- Reading on from `progress` leads to what giving an option to its command line leads to, and
another option can be read then. Only successes are compared: a value that stands apart is looked at
later than one that is attached, so the faults that are told first may differ. -/
structure Reads (progress : Progress) (given : Given) (reading : Except Stop Progress) : Prop where
  isReady : ∀ after, reading = .ok after → after.IsReady
  settles : ∀ line,
    (reading >>= settle) = .ok line ↔ (progress.settle >>= (·.give given)) = .ok line

section Spells

variable {progress : Progress}

private theorem IsReady.reads_attached (hready : progress.IsReady) (setting : Setting)
    (text : String) :
    progress.Reads (.setting setting text) (progress.readSetting setting (some text)) where
  isReady after h := by
    obtain ⟨_, -, h⟩ := bind_eq_ok_iff.mp h
    obtain ⟨_, -, h⟩ := bind_eq_ok_iff.mp h
    cases h
    exact ⟨hready.1, nofun⟩
  settles line := by
    simp only [readSetting, bind_assoc, pure_bind, settle_none, bind_pure]
    rfl

private theorem IsReady.reads_flag (hready : progress.IsReady) (flag : Flag) :
    progress.Reads (.flag flag) (progress.readFlag flag) where
  isReady after h := by
    obtain ⟨_, -, h⟩ := bind_eq_ok_iff.mp h
    obtain ⟨_, -, h⟩ := bind_eq_ok_iff.mp h
    cases h
    exact ⟨hready.1, nofun⟩
  settles line := by
    simp only [readFlag, bind_assoc, pure_bind, settle_none, bind_pure]
    rfl

/-- A setting is put off together with its value. -/
def putOff (progress : Progress) (setting : Setting) (text : String) : Except Stop Progress := do
  let line ← progress.settle
  return { progress with line, pending := some ⟨setting, some text⟩ }

private theorem IsReady.reads_putOff (hready : progress.IsReady) (setting : Setting)
    (text : String) : progress.Reads (.setting setting text) (progress.putOff setting text) where
  isReady after h := by
    obtain ⟨_, -, h⟩ := bind_eq_ok_iff.mp h
    cases h
    exact ⟨hready.1, nofun⟩
  settles line := by
    simp only [putOff, bind_assoc, pure_bind, settle_some]

/-- An option whose value stands apart is put off when the value is met. -/
theorem IsReady.bind_read_eq_putOff (hready : progress.IsReady) {setting : Setting} {text : String}
    (htext : StandsAlone text) :
    (progress.readSwitch (.setting setting) >>= (·.read text)) = progress.putOff setting text := by
  unfold readSwitch readSetting putOff
  rw [bind_assoc]
  refine bind_congr fun line ↦ ?_
  have hoptions : Progress.optionsOver ⟨line, some ⟨setting, none⟩, progress.optionsOver⟩ = false :=
    hready.1
  rw [pure_bind]
  exact read_of_standsAlone hoptions htext

/-- A text that stands alone is the report where no value is awaited. -/
theorem IsReady.read_eq_readReport (hready : progress.IsReady) {text : String}
    (htext : StandsAlone text) : progress.read text = progress.readReport text := by
  rw [read_of_standsAlone hready.1 htext]
  split
  · next setting hpending => exact absurd hpending (hready.2 setting)
  · rfl

/-- The argument without option that was met is the report of the command line. -/
theorem has_report_of_hasReport {line : CommandLine} (h : progress.settle = .ok line)
    (hreport : progress.hasReport = true) : line.has (.setting .report) = true := by
  obtain ⟨before, _ | ⟨setting, _ | text⟩, optionsOver⟩ := progress
  · cases h
    simpa [hasReport, has] using hreport
  · cases h
  · rw [settle_some] at h
    obtain ⟨hfit, -, rfl⟩ := give_eq_ok_iff.mp h
    rw [has_put hfit]
    simpa [hasReport, has, Given.switch] using hreport

/-- A second argument without option is refused, and so is a second path of the report. -/
theorem IsReady.reads_report (hready : progress.IsReady) (text : String) :
    progress.Reads (.setting .report text) (progress.readReport text) := by
  unfold readReport
  split
  · next hreport =>
    -- Both sides fail, each with a fault of its own.
    refine ⟨(fun _ h ↦ by cases h), fun line ↦ iff_of_false (fun h ↦ by cases h) fun h ↦ ?_⟩
    obtain ⟨before, hbefore, h⟩ := bind_eq_ok_iff.mp h
    obtain ⟨-, hopen, -⟩ := give_eq_ok_iff.mp h
    exact Bool.false_ne_true (hopen.symm.trans (has_report_of_hasReport hbefore hreport))
  · exact hready.reads_putOff .report text

/-- The arguments that spell an option are read as this option. -/
theorem IsReady.reads_spelled (hready : progress.IsReady) {given : Given} {group : List String}
    (h : Spells given group) : progress.Reads given (group.foldlM read progress) := by
  have hoptions := hready.1
  cases h <;> simp only [List.foldlM_cons, List.foldlM_nil, bind_pure]
  case named text hname =>
    rw [read_named hoptions hname text]
    exact hready.reads_attached _ text
  case namedApart hname htext =>
    rw [read_name hoptions hname, hready.bind_read_eq_putOff htext]
    exact hready.reads_putOff _ _
  case letterEqual text hletter =>
    rw [read_letterEqual hoptions hletter text]
    exact hready.reads_attached _ text
  case letter hletter hempty hequal =>
    rw [read_letterAttached hoptions hletter hempty hequal]
    exact hready.reads_attached _ _
  case letterApart hletter htext =>
    rw [read_letter hoptions hletter, hready.bind_read_eq_putOff htext]
    exact hready.reads_putOff _ _
  case flagNamed hname =>
    rw [read_name hoptions hname]
    exact hready.reads_flag _
  case flagLetter hletter =>
    rw [read_letter hoptions hletter]
    exact hready.reads_flag _
  case report text htext =>
    rw [hready.read_eq_readReport htext]
    exact hready.reads_report text

end Spells

/-! ### Reading what spells several options -/

/-- Arguments that spell options one after the other are read as these options. -/
theorem IsReady.foldlM_read_spelled {progress : Progress} (hready : progress.IsReady)
    {givens : List Given} {groups : List (List String)} (h : List.Forall₂ Spells givens groups)
    (line : CommandLine) :
    (groups.flatten.foldlM read progress >>= settle) = .ok line ↔
      (progress.settle >>= (givens.foldlM give ·)) = .ok line := by
  induction h generalizing progress with
  | nil => simp
  | @cons given group givens groups hgroup _ ih =>
    obtain ⟨hafter, hsettles⟩ := hready.reads_spelled hgroup
    calc (List.foldlM read progress (group :: groups).flatten >>= settle) = .ok line
      _ ↔ ∃ after, group.foldlM read progress = .ok after ∧
            (groups.flatten.foldlM read after >>= settle) = .ok line := by
          rw [List.flatten_cons, List.foldlM_append, bind_assoc, bind_eq_ok_iff]
      _ ↔ ∃ after, group.foldlM read progress = .ok after ∧
            (after.settle >>= (givens.foldlM give ·)) = .ok line :=
          exists_congr fun after ↦ and_congr_right fun h ↦ ih (hafter after h)
      _ ↔ ∃ between, (group.foldlM read progress >>= settle) = .ok between ∧
            givens.foldlM give between = .ok line := by
          rw [← bind_eq_ok_iff, ← bind_assoc, bind_eq_ok_iff]
      _ ↔ ∃ between, (progress.settle >>= (·.give given)) = .ok between ∧
            givens.foldlM give between = .ok line := by
          simp only [hsettles]
      _ ↔ (progress.settle >>= ((given :: givens).foldlM give ·)) = .ok line := by
          rw [← bind_eq_ok_iff, bind_assoc]
          simp only [List.foldlM_cons]

end Progress

/-- A command line is the same for all spellings of its options. -/
theorem ofOptions_spelled {givens : List Given} {groups : List (List String)}
    (h : List.Forall₂ Spells givens groups) (line : CommandLine) :
    ofOptions groups.flatten = .ok line ↔ givens.foldlM give {} = .ok line := by
  have hready : Progress.start.IsReady := ⟨rfl, nofun⟩
  exact hready.foldlM_read_spelled h line

/-! ### Accepted options -/

/-- Options make a command line that is accepted: each is fit and given once, and they select one
source of the report. -/
structure AreAcceptable (givens : List Given) : Prop where
  fits : ∀ given ∈ givens, given.IsFit
  once : (givens.map Given.switch).Nodup
  source :
    let switches := givens.map Given.switch
    (.setting .report ∈ switches ∧ .setting .package ∉ switches) ∨
      (.setting .report ∉ switches ∧ .setting .package ∈ switches ∧
        .setting .packageVersion ∈ switches)

/-- Options in whatever spelling are accepted exactly when they are acceptable by themselves. -/
theorem exists_ofArguments_spelled_iff {givens : List Given} {groups : List (List String)}
    (h : List.Forall₂ Spells givens groups) :
    (∃ line, ofArguments groups.flatten = .ok line) ↔ AreAcceptable givens := by
  have hhas (hfits : ∀ given ∈ givens, given.IsFit) (switch : Switch) :
      (givens.foldl put {}).has switch ↔ switch ∈ givens.map Given.switch := by
    simp [has_foldl_put hfits]
  simp only [ofArguments_eq_ok_iff, ofOptions_spelled h, foldlM_give_eq_ok_iff, has_empty,
    and_true]
  constructor
  · rintro ⟨_, ⟨hfits, hnodup, rfl⟩, hsource⟩
    refine ⟨hfits, hnodup, ?_⟩
    simpa only [selectsSource_iff_has, hhas hfits] using hsource
  · rintro ⟨hfits, hnodup, hsource⟩
    refine ⟨_, ⟨hfits, hnodup, rfl⟩, ?_⟩
    simpa only [selectsSource_iff_has, hhas hfits] using hsource

/-- Options in another order, and in another spelling, make the same command line. -/
theorem ofArguments_spelled_perm {givens others : List Given}
    {groups otherGroups : List (List String)} (h : List.Forall₂ Spells givens groups)
    (hother : List.Forall₂ Spells others otherGroups) (hperm : givens.Perm others)
    (line : CommandLine) :
    ofArguments groups.flatten = .ok line ↔ ofArguments otherGroups.flatten = .ok line := by
  rw [ofArguments_eq_ok_iff, ofArguments_eq_ok_iff, ofOptions_spelled h, ofOptions_spelled hother,
    foldlM_give_perm hperm]

end PackageRisk.CommandLine
