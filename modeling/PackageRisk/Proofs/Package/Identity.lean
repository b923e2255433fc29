import PackageRisk.Proofs.Package
import PackageRisk.Proofs.Report.Resolved
import PackageRisk.Proofs.Text.Cut

/-!
# The text of a package

A package is shown as its name and its version with an `@` between them. Names may hold this sign
too, but versions may not, so the last one in the text is the one between the two.
-/

namespace PackageRisk.Package

/-- The package that a text shows: its parts at the last `@`, if they break no rule. -/
def ofText? (text : String) : Option Package :=
  match Text.cutAtLast? '@' text with
  | some (name, version) => (ofTexts name version).toOption
  | none => none

/-- The last `@` of the text is the one that was written between name and version. -/
theorem cutAtLast?_text (package : Package) :
    Text.cutAtLast? '@' package.text = some (package.name, package.version) := by
  have hversion : '@' ∉ package.version.toList := package.not_mem_version (by decide +kernel)
  apply Text.cutAtLast?_eq_some_iff.mpr
  constructor
  · simp [text]
  · exact hversion

example : Text.cutAtLast? '@' "@hapi/boom@9.0.0" = some ("@hapi/boom", "9.0.0") := by decide

/-- A package is read back from its text. -/
theorem ofText?_text (package : Package) : ofText? package.text = some package := by
  have hpackage : ofTexts package.name package.version = .ok package :=
    ofTexts_eq_ok_iff.mpr ⟨rfl, rfl⟩
  rw [ofText?, cutAtLast?_text]
  dsimp only
  rw [hpackage]
  rfl

/-- The text of a package shows its name and its version and can be taken for no other package: its
parts at the last `@` are the two, the package is read back from them, and packages with the same
text have the same name and the same version. -/
theorem text_unambiguous (package other : Package) :
    Text.cutAtLast? '@' package.text = some (package.name, package.version) ∧
    ofText? package.text = some package ∧
    (package.text = other.text ↔ package.name = other.name ∧ package.version = other.version) := by
  refine ⟨cutAtLast?_text package, ofText?_text package, ?_⟩
  constructor
  · intro htext
    have hparts := cutAtLast?_text package
    rw [htext, cutAtLast?_text other] at hparts
    simpa [eq_comm] using hparts
  · rintro ⟨hname, hversion⟩
    rw [text, text, hname, hversion]

end PackageRisk.Package
