import PackageRisk.Proofs.Fallible
import PackageRisk.Proofs.FileSystem.Path
import PackageRisk.Proofs.FileSystem.Walk
import PackageRisk.Proofs.Text.Bytes

/-!
# Places of paths and writing to them

The place that a path leads to, what is looked up there, and what writing to a path changes. Writing
to a path that leads to a file or to a free place changes the entry of this place and no other, so
that every way through the file system stays as it was, and all that is seen differently is seen at
this place.
-/

namespace PackageRisk.FileSystem

open Fallible

variable {fs after : FileSystem} {follow : Bool} {location : Location} {path : String}
  {content : ByteArray}

/-! ### Places -/

private theorem locate_eq_ok_iff :
    fs.locate follow path = .ok location ↔ pathFault? path = none ∧
      Leads fs follow maxLinks (start fs.workingDirectory path) (steps path) location := by
  unfold locate
  cases pathFault? path with
  | some fault => simp
  | none => simp [walk_eq_ok_iff]

/-- A path is looked up with success when it is located and something is there. -/
theorem lookup_eq_ok_iff {entry : Entry} :
    fs.lookup follow path = .ok entry ↔
      ∃ location, fs.locate follow path = .ok location ∧ fs.entry location = some entry := by
  unfold lookup
  rw [bind_eq_ok_iff]
  refine exists_congr fun location ↦ and_congr_right fun _ ↦ ?_
  cases fs.entry location <;> simp

/-- A path is looked up in vain when it is not located or nothing is there. -/
theorem lookup_eq_error_iff {error : PathError} :
    fs.lookup follow path = .error error ↔ fs.locate follow path = .error error ∨
      ∃ location, fs.locate follow path = .ok location ∧ fs.entry location = none ∧
        error = .notFound := by
  unfold lookup
  rw [bind_eq_error_iff]
  refine or_congr_right (exists_congr fun location ↦ and_congr_right fun _ ↦ ?_)
  cases fs.entry location <;> simp [eq_comm]

/-- A path is that of a directory when looking it up, links followed, finds one. -/
theorem isDirectory_iff : fs.isDirectory path = true ↔ fs.lookup true path = .ok .directory := by
  unfold isDirectory
  split <;> simp_all

/-- A text is read from a path exactly when the path leads to a file that consists of its bytes. -/
theorem readText_eq_ok_iff {text : String} :
    fs.readText path = .ok text ↔ fs.lookup true path = .ok (.file text.toUTF8) := by
  unfold readText
  rw [bind_eq_ok_iff]
  constructor
  · rintro ⟨entry, hlookup, h⟩
    cases entry with
    | file content =>
      dsimp only at h
      split at h
      · cases h
      · next hcontent =>
        cases h
        rw [hlookup, Text.fromUTF8?_eq_some_iff.mp hcontent]
    | directory => cases h
    | link target => cases h
  · intro hlookup
    refine ⟨_, hlookup, ?_⟩
    dsimp only
    rw [Text.fromUTF8?_eq_some_iff.mpr rfl]

/-- A path leads to the same place whether its last link is followed or not, unless there is one. -/
theorem locate_follow (h : fs.locate false path = .ok location)
    (hlocation : IsReplaceable (fs.entry location)) : fs.locate true path = .ok location := by
  rw [locate_eq_ok_iff] at h ⊢
  refine ⟨h.1, h.2.follow_last fun target hlink ↦ ?_⟩
  rw [hlink] at hlocation
  rcases hlocation with h | ⟨content, h⟩
  · cases h
  · cases h

/-! ### The directory of a path -/

/-- The location of the directory that a path lies in: the one that its parent leads to. -/
def parentLocation? (fs : FileSystem) (path : String) : Option Location :=
  match Path.parent? path with
  | none => none
  | some parent =>
    if parent = "" then some fs.workingDirectory else (fs.locate true parent).toOption

private theorem pathFault?_eq_none {name : String} (hname : Path.EndsWithName path name)
    (hreadable : ∀ error, fs.lookup false path = .error error → error = .notFound) :
    pathFault? path = none := by
  cases hfault : pathFault? path with
  | none => rfl
  | some fault =>
    have hlocate : fs.locate false path = .error fault := by rw [locate, hfault]
    have hmissing := hreadable fault (lookup_eq_error_iff.mpr (.inl hlocate))
    subst hmissing
    have hne : path ≠ "" := by
      rintro rfl
      exact hname.2.1 (Option.some.inj hname.1).symm
    unfold pathFault? at hfault
    rw [if_neg hne] at hfault
    split_ifs at hfault
    · cases hfault
    · cases hfault

/-- A slash alone leads to the root. -/
theorem eq_nil_of_locate_root (h : fs.locate follow "/" = .ok location) : location = [] := by
  have hwalk : fs.walk follow maxLinks [] ["."] = .ok location :=
    walk_of_leads (locate_eq_ok_iff.mp h).2
  rw [walk_cons (entry_of_walk hwalk), if_pos rfl, walk_nil] at hwalk
  exact (Except.ok.inj hwalk).symm

/-- The parent of a path leads to a directory, and the name at the end is looked up there. -/
theorem exists_walk_of_parent {name : String} (hname : Path.EndsWithName path name)
    (hparent : ∀ parent, Path.parent? path = some parent → parent ≠ "" →
      fs.lookup true parent = .ok .directory)
    (hreadable : ∀ error, fs.lookup false path = .error error → error = .notFound) :
    ∃ folder links, fs.parentLocation? path = some folder ∧
      fs.entry folder = some .directory ∧
      fs.locate false path = fs.walk false links folder [name] := by
  have hlocate : fs.locate false path =
      fs.walk false maxLinks (start fs.workingDirectory path) (steps path) := by
    rw [locate, pathFault?_eq_none hname hreadable]
  obtain ⟨parent, gap, hpath, hgap, hshape⟩ := hname.exists_parent
  have hlookup := hparent parent hpath
  rcases hshape with ⟨rfl, habsolute, hsteps⟩ | ⟨rfl, habsolute, hsteps⟩ |
    ⟨hne, habsolute, hsteps⟩
  · -- The name is looked up in the working directory.
    have hstart : start fs.workingDirectory path = fs.workingDirectory := by
      simp [start, habsolute]
    rw [hstart, hsteps] at hlocate
    have hdirectory : fs.entry fs.workingDirectory = some .directory := by
      by_contra hdirectory
      have hne : gap ++ [name] ≠ [] := by simp
      obtain ⟨step, rest, hrest⟩ := List.exists_cons_of_ne_nil hne
      rw [hrest, walk_eq_notDirectory hdirectory] at hlocate
      cases hreadable _ (lookup_eq_error_iff.mpr (.inl hlocate))
    refine ⟨fs.workingDirectory, maxLinks, ?_, hdirectory, ?_⟩
    · simp [parentLocation?, hpath]
    · rw [hlocate, walk_stays hdirectory hgap]
  · -- The name is looked up in the root.
    have hstart : start fs.workingDirectory path = [] := by simp [start, habsolute]
    rw [hstart, hsteps] at hlocate
    obtain ⟨folder, hfolder, hdirectory⟩ := lookup_eq_ok_iff.mp (hlookup (by decide))
    obtain rfl := eq_nil_of_locate_root hfolder
    refine ⟨[], maxLinks, ?_, hdirectory, ?_⟩
    · simp [parentLocation?, hpath, hfolder, Except.toOption]
    · rw [hlocate, walk_stays hdirectory hgap]
  · -- The way of the path goes through the parent, and fewer links may be left there.
    obtain ⟨folder, hfolder, hdirectory⟩ := lookup_eq_ok_iff.mp (hlookup hne)
    have hleads := (locate_eq_ok_iff.mp hfolder).2
    obtain ⟨links, hwalk⟩ : ∃ links,
        fs.walk false maxLinks _ (steps parent ++ (gap ++ [name])) =
          fs.walk false links folder (gap ++ [name]) :=
      hleads.exists_walk_append hdirectory (by simp)
    refine ⟨folder, links, ?_, hdirectory, ?_⟩
    · simp [parentLocation?, hpath, hne, hfolder, Except.toOption]
    · rw [hlocate, hsteps, ← walk_stays hdirectory hgap, ← hwalk, start, start, habsolute]

/-- A path that ends with a name, lies in a directory and can be looked up leads to the place of the
name in this directory. -/
theorem exists_locate_of_parent {name : String} (hname : Path.EndsWithName path name)
    (hparent : ∀ parent, Path.parent? path = some parent → parent ≠ "" →
      fs.lookup true parent = .ok .directory)
    (hreadable : ∀ error, fs.lookup false path = .error error → error = .notFound) :
    ∃ folder, fs.parentLocation? path = some folder ∧
      fs.locate false path = .ok (name :: folder) := by
  obtain ⟨folder, links, hfolder, hdirectory, hlocate⟩ :=
    exists_walk_of_parent hname hparent hreadable
  refine ⟨folder, hfolder, ?_⟩
  rw [walk_last hdirectory hname.2.2.1 hname.2.2.2] at hlocate
  split_ifs at hlocate with hlong
  · cases hreadable _ (lookup_eq_error_iff.mpr (.inl hlocate))
  · exact hlocate

/-! ### Writing -/

private theorem steps_eq_names (hslash : Path.endsWithSlash path = false) :
    steps path = (Path.pieces path).filter (· ≠ "") := by
  simp [steps, hslash]

/-- A path with a slash at its end leads to a directory, if it leads anywhere. -/
theorem entry_of_endsWithSlash (h : fs.locate follow path = .ok location)
    (hslash : Path.endsWithSlash path = true) : fs.entry location = some .directory := by
  refine (locate_eq_ok_iff.mp h).2.entry_of_stay ?_
  simp [steps, hslash]

/-- A file is written where the path leads to, if there is a file or nothing. -/
theorem write_of_locate (h : fs.locate false path = .ok location)
    (hlocation : IsReplaceable (fs.entry location)) (content : ByteArray) :
    fs.write path content = .ok (fs.set location (some (.file content))) := by
  have hslash : Path.endsWithSlash path = false := by
    by_contra hslash
    rw [entry_of_endsWithSlash h (by simpa using hslash)] at hlocation
    exact not_isReplaceable_directory hlocation
  obtain ⟨hfault, hleads⟩ := locate_eq_ok_iff.mp (locate_follow h hlocation)
  rw [steps_eq_names hslash] at hleads
  unfold write
  rw [hfault]
  refine bind_eq_ok_iff.mpr ⟨location, walk_of_leads hleads, ?_⟩
  rw [hslash]
  rcases hlocation with hnone | ⟨old, hold⟩
  · rw [hnone]
    rfl
  · rw [hold]
    rfl

/-- What can be written to leads somewhere. -/
theorem exists_locate_of_write (h : fs.write path content = .ok after) :
    ∃ location, fs.locate false path = .ok location := by
  unfold write at h
  split at h
  · cases h
  · next hfault =>
    obtain ⟨location, hwalk, h⟩ := bind_eq_ok_iff.mp h
    split_ifs at h with hslash
    have hleads := leads_of_walk hwalk
    rw [← steps_eq_names (by simpa using hslash)] at hleads
    obtain ⟨place, hplace⟩ := hleads.exists_unfollowed
    exact ⟨place, locate_eq_ok_iff.mpr ⟨hfault, hplace⟩⟩

/-! ### What writing changes -/

/-- A content stands in a file at a location, and all else is as it was before: what stands at other
locations, and what is seen on paths that lead elsewhere. -/
structure WrittenAt (before after : FileSystem) (location : Location) (content : ByteArray) :
    Prop where
  entry_location : after.entry location = some (.file content)
  entry_other : ∀ other, other ≠ location → after.entry other = before.entry other
  workingDirectory : after.workingDirectory = before.workingDirectory
  lookup_location : ∀ follow path, before.locate follow path = .ok location →
    after.lookup follow path = .ok (.file content)
  lookup_other : ∀ follow path entry, before.locate follow path ≠ .ok location →
    (after.lookup follow path = .ok entry ↔ before.lookup follow path = .ok entry)

private theorem sameWays_set (hlocation : IsReplaceable (fs.entry location)) (content : ByteArray) :
    SameWays fs (fs.set location (some (.file content))) where
  entry := by
    intro other
    rw [entry_set]
    split_ifs with hother
    · subst hother
      exact .inr ⟨hlocation, .inr ⟨content, rfl⟩⟩
    · exact .inl rfl
  workingDirectory := rfl

/-- Where the ways are the same, paths lead to the same places. -/
theorem SameWays.locate_eq_ok_iff (h : SameWays fs after) :
    after.locate follow path = .ok location ↔ fs.locate follow path = .ok location := by
  rw [FileSystem.locate_eq_ok_iff, FileSystem.locate_eq_ok_iff, h.workingDirectory]
  exact and_congr_right fun _ ↦ ⟨h.symm.leads, h.leads⟩

/-- Setting a file where there is a file or nothing changes what is seen there and nothing else. -/
theorem writtenAt_set (hlocation : IsReplaceable (fs.entry location)) (content : ByteArray) :
    WrittenAt fs (fs.set location (some (.file content))) location content where
  entry_location := by rw [entry_set, if_pos rfl]
  entry_other := by
    intro other hother
    rw [entry_set, if_neg hother]
  workingDirectory := rfl
  lookup_location := by
    intro follow path hpath
    refine lookup_eq_ok_iff.mpr ⟨location, ?_, by rw [entry_set, if_pos rfl]⟩
    exact (sameWays_set hlocation content).locate_eq_ok_iff.mpr hpath
  lookup_other := by
    intro follow path entry hpath
    rw [lookup_eq_ok_iff, lookup_eq_ok_iff]
    refine exists_congr fun other ↦ ?_
    rw [(sameWays_set hlocation content).locate_eq_ok_iff]
    refine and_congr_right fun hother ↦ ?_
    have hne : other ≠ location := by
      rintro rfl
      exact hpath hother
    rw [entry_set, if_neg hne]

end PackageRisk.FileSystem
