import Mathlib.Data.List.Basic
import Mathlib.Tactic.ByContra
import Mathlib.Tactic.SplitIfs
import PackageRisk.FileSystem

/-!
# Ways through a file system

The walks that arrive somewhere, as a relation between the steps of a path and the location that
they lead to. A way passes through directories and over links, and anything else ends it. Hence the
ways are the same in two file systems that differ in nothing but their files, and following the last
link makes a difference only if the last step leads to a link.
-/

namespace PackageRisk.FileSystem

variable {fs after : FileSystem} {follow : Bool} {links : Nat} {here there : Location}
  {steps : List String}

/-- A file, or nothing at all: what may be written over, and what no way goes on from. -/
def IsReplaceable (entry : Option Entry) : Prop :=
  entry = none ∨ ∃ content, entry = some (.file content)

/-- A directory is not replaced by a file. -/
theorem not_isReplaceable_directory : ¬IsReplaceable (some .directory) := by
  rintro (h | ⟨content, h⟩)
  · cases h
  · cases h

/-- The step is a name that a directory may hold. -/
def IsName (step : String) : Prop :=
  step ≠ "." ∧ step ≠ ".." ∧ step.utf8ByteSize ≤ maxNameBytes

/-- The steps lead from a location to another one over at most so many links. -/
inductive Leads (fs : FileSystem) (follow : Bool) :
    Nat → Location → List String → Location → Prop
  | arrived {links : Nat} {here : Location} : Leads fs follow links here [] here
  | stay {links : Nat} {here there : Location} {rest : List String}
      (hhere : fs.entry here = some .directory) (hrest : Leads fs follow links here rest there) :
      Leads fs follow links here ("." :: rest) there
  | up {links : Nat} {here there : Location} {rest : List String}
      (hhere : fs.entry here = some .directory)
      (hrest : Leads fs follow links here.tail rest there) :
      Leads fs follow links here (".." :: rest) there
  | last {links : Nat} {here : Location} {step : String}
      (hhere : fs.entry here = some .directory) (hstep : IsName step)
      (hlast : IsReplaceable (fs.entry (step :: here))) :
      Leads fs follow links here [step] (step :: here)
  | lastLink {links : Nat} {here : Location} {step target : String}
      (hhere : fs.entry here = some .directory) (hstep : IsName step)
      (hlast : fs.entry (step :: here) = some (.link target)) (hfollow : follow = false) :
      Leads fs follow links here [step] (step :: here)
  | down {links : Nat} {here there : Location} {step : String} {rest : List String}
      (hhere : fs.entry here = some .directory) (hstep : IsName step)
      (hnext : fs.entry (step :: here) = some .directory)
      (hrest : Leads fs follow links (step :: here) rest there) :
      Leads fs follow links here (step :: rest) there
  | link {links : Nat} {here there : Location} {step target : String} {rest : List String}
      (hhere : fs.entry here = some .directory) (hstep : IsName step)
      (hlink : fs.entry (step :: here) = some (.link target)) (htarget : target ≠ "")
      (hgoesOn : ¬(rest = [] ∧ follow = false))
      (hrest : Leads fs follow links (start here target) (FileSystem.steps target ++ rest) there) :
      Leads fs follow (links + 1) here (step :: rest) there

/-! ### Walks that arrive -/

/-- Going on over a link, if one more may be followed. -/
def walkOver (fs : FileSystem) (follow : Bool) :
    Nat → Location → List String → Except PathError Location
  | 0 => fun _ _ ↦ .error .tooManyLinks
  | links + 1 => fs.walk follow links

private theorem walk_eq_walkFrom (fs : FileSystem) (follow : Bool) (links : Nat) :
    fs.walk follow links = fs.walkFrom follow (fs.walkOver follow links) := by
  cases links <;> rfl

/-- Without steps the walk ends where it is. -/
@[simp] theorem walk_nil : fs.walk follow links here [] = .ok here := by
  rw [walk_eq_walkFrom, walkFrom]

/-- A walk takes no step from what is no directory. -/
theorem walk_eq_notDirectory {step : String} {rest : List String}
    (hhere : fs.entry here ≠ some .directory) :
    fs.walk follow links here (step :: rest) = .error .notDirectory := by
  rw [walk_eq_walkFrom, walkFrom]
  split
  · contradiction
  · rfl

/-- A walk goes on from a directory only. -/
theorem entry_of_walk {step : String} {rest : List String}
    (h : fs.walk follow links here (step :: rest) = .ok there) :
    fs.entry here = some .directory := by
  by_contra hhere
  rw [walk_eq_notDirectory hhere] at h
  cases h

/-- Walking one step of a directory. -/
theorem walk_cons {step : String} {rest : List String} (hhere : fs.entry here = some .directory) :
    fs.walk follow links here (step :: rest) =
      if step = "." then fs.walk follow links here rest
      else if step = ".." then fs.walk follow links here.tail rest
      else if maxNameBytes < step.utf8ByteSize then .error .nameTooLong
      else
        match fs.entry (step :: here) with
        | none => if rest.isEmpty then .ok (step :: here) else .error .notFound
        | some (.link target) =>
          if rest.isEmpty && !follow then .ok (step :: here)
          else if target = "" then .error .notFound
          else fs.walkOver follow links (start here target) (FileSystem.steps target ++ rest)
        | some _ => fs.walk follow links (step :: here) rest := by
  rw [walk_eq_walkFrom, walkFrom]
  split
  · rfl
  · contradiction

/-- Walking to a name. -/
theorem walk_name {step : String} {rest : List String} (hhere : fs.entry here = some .directory)
    (hstep : IsName step) :
    fs.walk follow links here (step :: rest) =
      match fs.entry (step :: here) with
      | none => if rest.isEmpty then .ok (step :: here) else .error .notFound
      | some (.link target) =>
        if rest.isEmpty && !follow then .ok (step :: here)
        else if target = "" then .error .notFound
        else fs.walkOver follow links (start here target) (FileSystem.steps target ++ rest)
      | some _ => fs.walk follow links (step :: here) rest := by
  rw [walk_cons hhere, if_neg hstep.1, if_neg hstep.2.1, if_neg (Nat.not_lt.mpr hstep.2.2)]

/-- A walk stays at a link that is the last one and not to be followed. -/
theorem staysAtLink_iff {rest : List String} :
    (rest.isEmpty && !follow) = true ↔ rest = [] ∧ follow = false := by
  simp

/-- A walk goes where its steps lead. -/
theorem walk_of_leads (h : Leads fs follow links here steps there) :
    fs.walk follow links here steps = .ok there := by
  induction h with
  | arrived => exact walk_nil
  | stay hhere _ ih => rw [walk_cons hhere, if_pos rfl, ih]
  | up hhere _ ih => rw [walk_cons hhere, if_neg (by decide), if_pos rfl, ih]
  | last hhere hstep hlast =>
    rcases hlast with hlast | ⟨content, hlast⟩
    · rw [walk_name hhere hstep, hlast]
      rfl
    · rw [walk_name hhere hstep, hlast]
      exact walk_nil
  | lastLink hhere hstep hlast hfollow =>
    subst hfollow
    rw [walk_name hhere hstep, hlast]
    rfl
  | down hhere hstep hnext _ ih =>
    rw [walk_name hhere hstep, hnext]
    exact ih
  | link hhere hstep hlink htarget hgoesOn _ ih =>
    rw [walk_name hhere hstep, hlink]
    dsimp only
    rw [if_neg (mt staysAtLink_iff.mp hgoesOn), if_neg htarget]
    exact ih

/-- A walk that arrives is a way, if the walks over links from here on are. -/
theorem leads_of_walk_of_over
    (hover : ∀ here steps there, fs.walkOver follow links here steps = .ok there →
      ∃ fewer, links = fewer + 1 ∧ Leads fs follow fewer here steps there)
    (h : fs.walk follow links here steps = .ok there) : Leads fs follow links here steps there := by
  -- Every step but one over a link leaves fewer steps and as many links.
  induction steps generalizing here with
  | nil =>
    rw [walk_nil, Except.ok.injEq] at h
    subst h
    exact .arrived
  | cons step rest ih =>
    have hhere := entry_of_walk h
    by_cases hstay : step = "."
    · subst hstay
      rw [walk_cons hhere, if_pos rfl] at h
      exact .stay hhere (ih h)
    by_cases hup : step = ".."
    · subst hup
      rw [walk_cons hhere, if_neg hstay, if_pos rfl] at h
      exact .up hhere (ih h)
    by_cases hlong : maxNameBytes < step.utf8ByteSize
    · rw [walk_cons hhere, if_neg hstay, if_neg hup, if_pos hlong] at h
      cases h
    have hstep : IsName step := ⟨hstay, hup, Nat.le_of_not_lt hlong⟩
    rw [walk_name hhere hstep] at h
    split at h
    · next hnext =>
      split_ifs at h with hrest
      cases h
      rw [List.isEmpty_iff.mp hrest]
      exact .last hhere hstep (.inl hnext)
    · next target hnext =>
      split_ifs at h with hlast htarget
      · cases h
        obtain ⟨rfl, hfollow⟩ := staysAtLink_iff.mp hlast
        exact .lastLink hhere hstep hnext hfollow
      · obtain ⟨fewer, rfl, hway⟩ := hover _ _ _ h
        exact .link hhere hstep hnext htarget (mt staysAtLink_iff.mpr hlast) hway
    · next entry hlink hnext =>
      cases entry with
      | directory => exact .down hhere hstep hnext (ih h)
      | link target => exact (hlink target rfl).elim
      | file content =>
        -- No way goes on from a file.
        cases rest with
        | nil =>
          rw [walk_nil, Except.ok.injEq] at h
          subst h
          exact .last hhere hstep (.inr ⟨content, hnext⟩)
        | cons next rest =>
          rw [entry_of_walk h] at hnext
          cases hnext

/-- The steps lead where the walk goes. -/
theorem leads_of_walk (h : fs.walk follow links here steps = .ok there) :
    Leads fs follow links here steps there := by
  -- The target of a link may have more steps, so the outer induction is on the links.
  induction links generalizing here steps there with
  | zero => exact leads_of_walk_of_over nofun h
  | succ links ih => exact leads_of_walk_of_over (fun _ _ _ hover ↦ ⟨links, rfl, ih hover⟩) h

/-- Walking arrives exactly where the steps lead. -/
theorem walk_eq_ok_iff :
    fs.walk follow links here steps = .ok there ↔ Leads fs follow links here steps there :=
  ⟨leads_of_walk, walk_of_leads⟩

/-! ### Following the last link -/

/-- Where no link is met at the end, it makes no difference whether links there are followed. -/
theorem Leads.follow_last (h : Leads fs false links here steps there)
    (hthere : ∀ target, fs.entry there ≠ some (.link target)) :
    Leads fs true links here steps there := by
  induction h with
  | arrived => exact .arrived
  | stay hhere _ ih => exact .stay hhere (ih hthere)
  | up hhere _ ih => exact .up hhere (ih hthere)
  | last hhere hstep hlast => exact .last hhere hstep hlast
  | lastLink _ _ hlast => exact (hthere _ hlast).elim
  | down hhere hstep hnext _ ih => exact .down hhere hstep hnext (ih hthere)
  | link hhere hstep hlink htarget _ _ ih =>
    exact .link hhere hstep hlink htarget (by simp) (ih hthere)

/-- Steps that lead somewhere with the last link followed lead somewhere without. -/
theorem Leads.exists_unfollowed (h : Leads fs true links here steps there) :
    ∃ place, Leads fs false links here steps place := by
  induction h with
  | arrived => exact ⟨_, .arrived⟩
  | stay hhere _ ih =>
    obtain ⟨place, ih⟩ := ih
    exact ⟨place, .stay hhere ih⟩
  | up hhere _ ih =>
    obtain ⟨place, ih⟩ := ih
    exact ⟨place, .up hhere ih⟩
  | last hhere hstep hlast => exact ⟨_, .last hhere hstep hlast⟩
  | lastLink hhere hstep hlast => exact ⟨_, .lastLink hhere hstep hlast rfl⟩
  | down hhere hstep hnext _ ih =>
    obtain ⟨place, ih⟩ := ih
    exact ⟨place, .down hhere hstep hnext ih⟩
  | @link _ _ _ _ _ rest hhere hstep hlink htarget _ _ ih =>
    obtain ⟨place, ih⟩ := ih
    cases rest with
    | nil => exact ⟨_, .lastLink hhere hstep hlink rfl⟩
    | cons next rest => exact ⟨place, .link hhere hstep hlink htarget (by simp) ih⟩

/-- A last step that stays where it is stays in a directory. -/
theorem Leads.entry_of_stay (h : Leads fs follow links here steps there)
    (hstay : steps.getLast? = some ".") : fs.entry there = some .directory := by
  induction h with
  | arrived => cases hstay
  | @stay _ _ _ rest hhere hrest ih =>
    cases rest with
    | nil =>
      cases hrest
      exact hhere
    | cons next rest => exact ih (by simpa using hstay)
  | @up _ _ _ rest _ _ ih =>
    cases rest with
    | nil => simp at hstay
    | cons next rest => exact ih (by simpa using hstay)
  | last _ hstep => exact (hstep.1 (by simpa using hstay)).elim
  | lastLink _ hstep => exact (hstep.1 (by simpa using hstay)).elim
  | @down _ _ _ _ rest _ hstep _ _ ih =>
    cases rest with
    | nil => exact (hstep.1 (by simpa using hstay)).elim
    | cons next rest => exact ih (by simpa using hstay)
  | @link _ _ _ _ _ rest _ hstep _ _ _ _ ih =>
    cases rest with
    | nil => exact (hstep.1 (by simpa using hstay)).elim
    | cons next rest =>
      refine ih ?_
      rw [List.getLast?_append_of_ne_nil _ (by simp)]
      simpa using hstay

/-- A walk over the steps to a directory and further ones goes on from the directory. -/
theorem Leads.exists_walk_append {folder : Location} {rest : List String}
    (h : Leads fs true links here steps folder) (hfolder : fs.entry folder = some .directory)
    (hrest : rest ≠ []) :
    ∃ fewer, fs.walk follow links here (steps ++ rest) = fs.walk follow fewer folder rest := by
  induction h with
  | arrived => exact ⟨_, rfl⟩
  | stay hhere _ ih =>
    rw [List.cons_append, walk_cons hhere, if_pos rfl]
    exact ih hfolder
  | up hhere _ ih =>
    rw [List.cons_append, walk_cons hhere, if_neg (by decide), if_pos rfl]
    exact ih hfolder
  | last _ _ hlast => exact (not_isReplaceable_directory (hfolder ▸ hlast)).elim
  | lastLink _ _ _ hfollow => cases hfollow
  | down hhere hstep hnext _ ih =>
    rw [List.cons_append, walk_name hhere hstep, hnext]
    exact ih hfolder
  | link hhere hstep hlink htarget _ _ ih =>
    rw [List.cons_append, walk_name hhere hstep, hlink]
    dsimp only
    rw [if_neg (by simp [hrest]), if_neg htarget, ← List.append_assoc]
    exact ih hfolder

/-- Single dots in a directory lead nowhere else. -/
theorem walk_stays {gap rest : List String} (hhere : fs.entry here = some .directory)
    (hgap : ∀ step ∈ gap, step = ".") :
    fs.walk follow links here (gap ++ rest) = fs.walk follow links here rest := by
  induction gap with
  | nil => rfl
  | cons step gap ih =>
    rw [List.forall_mem_cons] at hgap
    rw [List.cons_append, walk_cons hhere, if_pos hgap.1, ih hgap.2]

/-- The last name leads to its place in the directory, whatever is there, unless it is too long. -/
theorem walk_last {name : String} (hhere : fs.entry here = some .directory) (hstay : name ≠ ".")
    (hup : name ≠ "..") :
    fs.walk false links here [name] =
      if maxNameBytes < name.utf8ByteSize then .error .nameTooLong else .ok (name :: here) := by
  split_ifs with hlong
  · rw [walk_cons hhere, if_neg hstay, if_neg hup, if_pos hlong]
  · rw [walk_name hhere ⟨hstay, hup, Nat.le_of_not_lt hlong⟩]
    split
    · rfl
    · rfl
    · exact walk_nil

/-! ### File systems with the same ways -/

/-- Two file systems differ in nothing but files. -/
structure SameWays (fs after : FileSystem) : Prop where
  entry : ∀ location, after.entry location = fs.entry location ∨
    IsReplaceable (fs.entry location) ∧ IsReplaceable (after.entry location)
  workingDirectory : after.workingDirectory = fs.workingDirectory

namespace SameWays

/-- Two states with the same ways have them in either order. -/
theorem symm (h : SameWays fs after) : SameWays after fs where
  entry := fun location ↦ (h.entry location).imp Eq.symm And.symm
  workingDirectory := h.workingDirectory.symm

private theorem entry_eq (h : SameWays fs after) {location : Location} {entry : Entry}
    (hentry : fs.entry location = some entry) (hfile : ∀ content, entry ≠ .file content) :
    after.entry location = some entry := by
  rcases h.entry location with heq | ⟨hnone | ⟨content, hcontent⟩, -⟩
  · rw [heq, hentry]
  · rw [hentry] at hnone
    cases hnone
  · rw [hentry, Option.some.injEq] at hcontent
    exact (hfile content hcontent).elim

private theorem isReplaceable (h : SameWays fs after) {location : Location}
    (hlocation : IsReplaceable (fs.entry location)) : IsReplaceable (after.entry location) := by
  rcases h.entry location with heq | ⟨-, hafter⟩
  · rwa [heq]
  · exact hafter

/-- Steps lead to one place in states with the same ways. -/
theorem leads (h : SameWays fs after) (hleads : Leads fs follow links here steps there) :
    Leads after follow links here steps there := by
  induction hleads with
  | arrived => exact .arrived
  | stay hhere _ ih => exact .stay (h.entry_eq hhere nofun) ih
  | up hhere _ ih => exact .up (h.entry_eq hhere nofun) ih
  | last hhere hstep hlast => exact .last (h.entry_eq hhere nofun) hstep (h.isReplaceable hlast)
  | lastLink hhere hstep hlast hfollow =>
    exact .lastLink (h.entry_eq hhere nofun) hstep (h.entry_eq hlast nofun) hfollow
  | down hhere hstep hnext _ ih =>
    exact .down (h.entry_eq hhere nofun) hstep (h.entry_eq hnext nofun) ih
  | link hhere hstep hlink htarget hgoesOn _ ih =>
    exact .link (h.entry_eq hhere nofun) hstep (h.entry_eq hlink nofun) htarget hgoesOn ih

end SameWays

end PackageRisk.FileSystem
