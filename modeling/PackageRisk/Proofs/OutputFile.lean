import PackageRisk.Proofs.FileSystem.Write
import PackageRisk.Proofs.Run.Session

/-!
# Writing an output file

A path is barred if its parent is no directory, or if it is a link, a directory or unreadable. A
text for a barred path is refused and nothing is changed. A text for any other path is all that the
file at its place holds afterwards, and no other place is changed, be there a link to it or not.
-/

namespace PackageRisk

open Fallible FileSystem

namespace OutputFile

variable {fs : FileSystem} {path : String}

/-- Nothing is to be written to the path. -/
inductive IsBarred (fs : FileSystem) (path : String) : Prop
  | parent {directory : String} (hparent : Path.parent? path = some directory)
      (hne : directory ≠ "") (hlookup : fs.lookup true directory ≠ .ok .directory)
  | link {target : String} (hlookup : fs.lookup false path = .ok (.link target))
  | directory (hlookup : fs.lookup false path = .ok .directory)
  | unreadable {error : PathError} (hlookup : fs.lookup false path = .error error)
      (herror : error ≠ .notFound)

/-! ### The checks -/

private theorem checkParent_eq_ok_iff :
    checkParent fs path = .ok () ↔ ∀ directory, Path.parent? path = some directory →
      directory ≠ "" → fs.lookup true directory = .ok .directory := by
  unfold checkParent
  cases hparent : Path.parent? path with
  | none => simp
  | some directory => simp [← isDirectory_iff]

private theorem checkTarget_eq_ok_iff :
    checkTarget fs path = .ok () ↔ (∀ target, fs.lookup false path ≠ .ok (.link target)) ∧
      fs.lookup false path ≠ .ok .directory ∧
      ∀ error, fs.lookup false path = .error error → error = .notFound := by
  unfold checkTarget
  split <;> simp_all

/-- A path is barred exactly when one of the checks refuses it. -/
theorem not_isBarred_iff :
    ¬IsBarred fs path ↔ checkParent fs path = .ok () ∧ checkTarget fs path = .ok () := by
  rw [checkParent_eq_ok_iff, checkTarget_eq_ok_iff]
  constructor
  · intro h
    refine ⟨fun directory hparent hne ↦ ?_, fun target hlink ↦ h (.link hlink),
      fun hdirectory ↦ h (.directory hdirectory), fun error herror ↦ ?_⟩
    · by_contra hlookup
      exact h (.parent hparent hne hlookup)
    · by_contra hne
      exact h (.unreadable herror hne)
  · rintro ⟨hparent, hlink, hdirectory, herror⟩ h
    cases h with
    | parent hpath hne hlookup => exact hlookup (hparent _ hpath hne)
    | link hlookup => exact hlink _ hlookup
    | directory hlookup => exact hdirectory hlookup
    | unreadable hlookup hne => exact hne (herror _ hlookup)

private theorem faultsIn_checkParent (fs : FileSystem) (path : String) :
    FaultsIn (fun fault ↦ ∀ error, fault ≠ .notWritten error) (checkParent fs path) := by
  unfold checkParent
  split
  · exact .ok ()
  · split_ifs
    · exact .error nofun
    · exact .ok ()

private theorem faultsIn_checkTarget (fs : FileSystem) (path : String) :
    FaultsIn (fun fault ↦ ∀ error, fault ≠ .notWritten error) (checkTarget fs path) := by
  unfold checkTarget
  split
  · exact .error nofun
  · exact .error nofun
  · exact .ok ()
  · exact .ok ()
  · exact .error nofun

/-! ### Writing -/

/-- A path that is not barred leads to a file or to a free place, if it leads to a place at all. -/
theorem isReplaceable_of_not_isBarred (h : ¬IsBarred fs path) {location : Location}
    (hlocate : fs.locate false path = .ok location) : IsReplaceable (fs.entry location) := by
  have hlookup {entry : Entry} (hentry : fs.entry location = some entry) :
      fs.lookup false path = .ok entry := lookup_eq_ok_iff.mpr ⟨location, hlocate, hentry⟩
  cases hentry : fs.entry location with
  | none => exact .inl rfl
  | some entry =>
    cases entry with
    | file content => exact .inr ⟨content, rfl⟩
    | directory => exact (h (.directory (hlookup hentry))).elim
    | link target => exact (h (.link (hlookup hentry))).elim

private theorem eq_notFound_of_not_isBarred (h : ¬IsBarred fs path) {error : PathError}
    (hlookup : fs.lookup false path = .error error) : error = .notFound := by
  by_contra hne
  exact h (.unreadable hlookup hne)

/-- A barred path is refused before anything is written. -/
theorem exists_fault_of_isBarred (h : IsBarred fs path) (content : String) :
    ∃ fault, write fs path content = .error fault ∧ ∀ error, fault ≠ .notWritten error := by
  unfold write
  cases hparent : checkParent fs path with
  | error fault => exact ⟨fault, rfl, faultsIn_checkParent fs path fault hparent⟩
  | ok _ =>
    cases htarget : checkTarget fs path with
    | error fault => exact ⟨fault, rfl, faultsIn_checkTarget fs path fault htarget⟩
    | ok _ => exact (not_isBarred_iff.mpr ⟨hparent, htarget⟩ h).elim

private theorem write_of_not_isBarred (h : ¬IsBarred fs path) (content : String) :
    write fs path content = (fs.write path content.toUTF8).mapError .notWritten := by
  obtain ⟨hparent, htarget⟩ := not_isBarred_iff.mp h
  unfold write
  rw [hparent, htarget]
  rfl

/-- A text for a path that is not barred is put in the place that the path leads to. -/
theorem write_eq_set_of_locate (h : ¬IsBarred fs path) {location : Location}
    (hlocate : fs.locate false path = .ok location) (content : String) :
    write fs path content = .ok (fs.set location (some (.file content.toUTF8))) := by
  have hlocation := isReplaceable_of_not_isBarred h hlocate
  rw [write_of_not_isBarred h, FileSystem.write_of_locate hlocate hlocation]
  rfl

/-- The write itself fails exactly if the path is not barred and leads to no place. -/
theorem exists_notWritten_iff {content : String} :
    (∃ error, write fs path content = .error (.notWritten error)) ↔
      ¬IsBarred fs path ∧ fs.locate false path = .error .notFound := by
  constructor
  · rintro ⟨error, hwrite⟩
    have hbarred : ¬IsBarred fs path := by
      intro hbarred
      obtain ⟨fault, hfault, hne⟩ := exists_fault_of_isBarred hbarred content
      rw [hwrite, Except.error.injEq] at hfault
      exact hne error hfault.symm
    refine ⟨hbarred, ?_⟩
    cases hlocate : fs.locate false path with
    | ok location =>
      rw [write_eq_set_of_locate hbarred hlocate] at hwrite
      cases hwrite
    | error cause =>
      have hlookup := lookup_eq_error_iff.mpr (.inl hlocate)
      rw [eq_notFound_of_not_isBarred hbarred hlookup]
  · rintro ⟨hbarred, hlocate⟩
    rw [write_of_not_isBarred hbarred]
    cases hwrite : fs.write path content.toUTF8 with
    | ok after =>
      obtain ⟨location, hlocation⟩ := exists_locate_of_write hwrite
      rw [hlocate] at hlocation
      cases hlocation
    | error error => exact ⟨error, rfl⟩

/-- Unless the write fails, a path that is not barred leads to a place. -/
theorem exists_locate_of_not_isBarred {content : String} (h : ¬IsBarred fs path)
    (hwrite : ∀ error, write fs path content ≠ .error (.notWritten error)) :
    ∃ location, fs.locate false path = .ok location := by
  cases hlocate : fs.locate false path with
  | ok location => exact ⟨location, rfl⟩
  | error error =>
    rw [eq_notFound_of_not_isBarred h (lookup_eq_error_iff.mpr (.inl hlocate))] at hlocate
    obtain ⟨fault, hfault⟩ := exists_notWritten_iff.mpr ⟨h, hlocate⟩
    exact (hwrite fault hfault).elim

/-! ### Presenting -/

/-- The trace after a text was presented in a file. -/
def presented (before : Trace) (path : String) (files : FileSystem) : Trace :=
  { before with
    files
    messages := before.messages ++ ["✅ Output complete: " ++ path] }

variable {before : Trace} {content : String}

private theorem run_present_of_isBarred (h : IsBarred before.files path) (content : String) :
    ∃ details, (Session.present (some path) content).run before =
      (.error (.fileWrite path details), before) := by
  obtain ⟨fault, hfault, -⟩ := exists_fault_of_isBarred h content
  refine ⟨fault.message, Session.run_present_of_error ?_⟩
  rw [present, hfault]
  rfl

private theorem run_present_of_locate (h : ¬IsBarred before.files path) {location : Location}
    (hlocate : before.files.locate false path = .ok location) (content : String) :
    (Session.present (some path) content).run before =
      (.ok (), presented before path
        (before.files.set location (some (.file content.toUTF8)))) := by
  have hwrite := write_eq_set_of_locate h hlocate content
  refine Session.run_present_eq_ok_iff.mpr ⟨_, mapError_eq_ok_iff.mpr hwrite, ?_⟩
  simp [presented, Session.printed, Session.completion]

/-- Unless the write itself fails, a text is refused, with the whole trace unchanged, exactly if its
path is barred, and any other path leads to a place whose file holds the text afterwards, with all
other places unchanged. The write fails only for a path that leads to no place. A path that ends
with a name and is not barred leads to the place of this name in the directory of its parent. -/
theorem refused_or_replaced (before : Trace) (path content : String) :
    ((∀ error, write before.files path content ≠ .error (.notWritten error)) →
      ((∃ details, (Session.present (some path) content).run before =
          (.error (.fileWrite path details), before)) ↔ IsBarred before.files path) ∧
      (¬IsBarred before.files path → ∃ location after,
        (Session.present (some path) content).run before =
          (.ok (), presented before path after) ∧
        before.files.locate false path = .ok location ∧
        IsReplaceable (before.files.entry location) ∧
        WrittenAt before.files after location content.toUTF8 ∧
        after.readText path = .ok content)) ∧
    ((∃ error, write before.files path content = .error (.notWritten error)) ↔
      ¬IsBarred before.files path ∧ before.files.locate false path = .error .notFound) ∧
    (∀ name, Path.EndsWithName path name → ¬IsBarred before.files path →
      ∃ folder, before.files.parentLocation? path = some folder ∧
        before.files.locate false path = .ok (name :: folder)) := by
  refine ⟨fun hwrite ↦ ?_, exists_notWritten_iff, fun name hname hbarred ↦ ?_⟩
  · refine ⟨⟨fun hrefused ↦ ?_, fun hbarred ↦ run_present_of_isBarred hbarred content⟩,
      fun hbarred ↦ ?_⟩
    · by_contra hbarred
      obtain ⟨location, hlocate⟩ := exists_locate_of_not_isBarred hbarred hwrite
      obtain ⟨details, hdetails⟩ := hrefused
      rw [run_present_of_locate hbarred hlocate] at hdetails
      cases hdetails
    · obtain ⟨location, hlocate⟩ := exists_locate_of_not_isBarred hbarred hwrite
      have hlocation := isReplaceable_of_not_isBarred hbarred hlocate
      have hwritten := writtenAt_set hlocation content.toUTF8
      refine ⟨location, _, run_present_of_locate hbarred hlocate content, hlocate, hlocation,
        hwritten, readText_eq_ok_iff.mpr ?_⟩
      exact hwritten.lookup_location true path (locate_follow hlocate hlocation)
  · obtain ⟨hparent, htarget⟩ := not_isBarred_iff.mp hbarred
    exact exists_locate_of_parent hname (checkParent_eq_ok_iff.mp hparent)
      (checkTarget_eq_ok_iff.mp htarget).2.2

/-- Files with a link to one of them and a link to none. -/
private def linkedFiles : FileSystem :=
  ((((FileSystem.empty ["work"]).set ["kept.md", "work"] (some (.file "kept".toUTF8))).set
    ["old.md", "work"] (some (.file "older and longer".toUTF8))).set
    ["link.md", "work"] (some (.link "kept.md"))).set
    ["dangling.md", "work"] (some (.link "missing.md"))

/-- A dangling link is not written through, a longer text is replaced, and the target of another
link is kept. -/
theorem refused_or_replaced_linked :
    (∃ details, (Session.present (some "dangling.md") "new").run ⟨"", [], linkedFiles⟩ =
      (.error (.fileWrite "dangling.md" details), ⟨"", [], linkedFiles⟩)) ∧
    ∃ after, (Session.present (some "old.md") "new").run ⟨"", [], linkedFiles⟩ =
        (.ok (), presented ⟨"", [], linkedFiles⟩ "old.md" after) ∧
      after.entry ["old.md", "work"] = some (.file "new".toUTF8) ∧
      after.readText "old.md" = .ok "new" ∧
      after.lookup true "link.md" = .ok (.file "kept".toUTF8) := by
  have hlink : linkedFiles.lookup false "dangling.md" = .ok (.link "missing.md") := by rfl
  have hbarred : IsBarred linkedFiles "dangling.md" := .link hlink
  obtain ⟨hrefused, hfails, -⟩ := refused_or_replaced ⟨"", [], linkedFiles⟩ "dangling.md" "new"
  obtain ⟨hreplaced, hfailsOld, hnamed⟩ :=
    refused_or_replaced ⟨"", [], linkedFiles⟩ "old.md" "new"
  have hfree : ¬IsBarred linkedFiles "old.md" := by
    have hchecks : checkParent linkedFiles "old.md" = .ok () ∧
        checkTarget linkedFiles "old.md" = .ok () := ⟨by rfl, by rfl⟩
    exact not_isBarred_iff.mpr hchecks
  obtain ⟨folder, hfolder, hplace⟩ := hnamed "old.md" (by decide) hfree
  have hwork : linkedFiles.parentLocation? "old.md" = some ["work"] := by rfl
  obtain rfl := Option.some.inj (hfolder.symm.trans hwork)
  refine ⟨(hrefused fun error h ↦ (hfails.mp ⟨error, h⟩).1 hbarred).1.mpr hbarred, ?_⟩
  have hwrites (error : PathError) :
      write linkedFiles "old.md" "new" ≠ .error (.notWritten error) := by
    intro h
    have hmissing := (hfailsOld.mp ⟨error, h⟩).2
    rw [hplace] at hmissing
    cases hmissing
  obtain ⟨location, after, hrun, hlocate, -, hwritten, hread⟩ := (hreplaced hwrites).2 hfree
  obtain rfl := Except.ok.inj (hplace.symm.trans hlocate)
  have hkept : linkedFiles.lookup true "link.md" = .ok (.file "kept".toUTF8) := by rfl
  have helsewhere : linkedFiles.locate true "link.md" = .ok ["kept.md", "work"] := by rfl
  refine ⟨after, hrun, hwritten.entry_location, hread, ?_⟩
  refine (hwritten.lookup_other true "link.md" _ ?_).mpr hkept
  rw [helsewhere]
  decide

end OutputFile

end PackageRisk
