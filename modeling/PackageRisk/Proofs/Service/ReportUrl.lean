import Mathlib.Data.List.Basic
import PackageRisk.Proofs.Package
import PackageRisk.Proofs.Service
import PackageRisk.Proofs.Text.Percent

/-!
# The URL of a report

The URL of the report of a package is the base without the slashes at its end, then the path, and
then a query with the name and the version as its two values. Neither value holds a character that
ends it, so the URL tells where each of them stands and which package it asks for.
-/

namespace PackageRisk.Service

open Text.Percent

/-- A value of a query does not hold the sign between two parameters. -/
theorem not_mem_encode {text : String} (h : text ≠ "") : '&' ∉ (encode text).toList :=
  (isQueryValue_encode h).undelimited '&' (by decide)

/-- The path of a request holds the name and the version, both encoded. -/
theorem toList_requestPath (package : Package) :
    (requestPath package).toList =
      "/api/v1/package?package_name=".toList ++ ((encode package.name).toList ++
        '&' :: ("package_version=".toList ++ (encode package.version).toList)) := by
  have hsign : "&package_version=".toList = '&' :: "package_version=".toList := by decide
  unfold requestPath
  simp only [String.toList_append, hsign, List.append_assoc, List.cons_append]

/-- The two values of the query tell the package. -/
theorem requestPath_inj {package other : Package} :
    requestPath package = requestPath other ↔
      package.name = other.name ∧ package.version = other.version := by
  have hname := not_mem_encode (PackageName.ne_empty other.name_faultless)
  have hversion := not_mem_encode (PackageVersion.ne_empty other.version_faultless)
  have htail : '&' ∉ "package_version=".toList ++ (encode other.version).toList := by
    simpa using hversion
  rw [← String.toList_inj, toList_requestPath, toList_requestPath, List.append_right_inj, eq_comm,
    List.append_cons_inj_of_notMem hname htail, List.append_right_inj, String.toList_inj,
    String.toList_inj, encode_injective.eq_iff, encode_injective.eq_iff]
  constructor
  · rintro ⟨hname, -, hversion⟩
    exact ⟨hname.symm, hversion.symm⟩
  · rintro ⟨hname, hversion⟩
    exact ⟨hname.symm, rfl, hversion.symm⟩

/-- On one base, the URL tells the package. -/
theorem reportUrl_inj {base : String} {package other : Package} :
    reportUrl base package = reportUrl base other ↔
      package.name = other.name ∧ package.version = other.version := by
  rw [reportUrl, reportUrl, ← String.toList_inj, String.toList_append, String.toList_append,
    List.append_right_inj, String.toList_inj, requestPath_inj]

/-- The URL of a report is the base without the slashes at its end, the path, and the name and the
version of the package as two values of a query, from which they are read back. On one base, only
the same name and the same version have the same URL, and more slashes at the end of the base make
no difference. -/
theorem reportUrl_carries (base : String) (package : Package) :
    (reportUrl base package = trimSlashes base ++ "/api/v1/package?package_name=" ++
      encode package.name ++ "&package_version=" ++ encode package.version) ∧
    IsTrimmed base (trimSlashes base) ∧
    (IsQueryValue (encode package.name) ∧
      decode? (encode package.name) = some package.name) ∧
    (IsQueryValue (encode package.version) ∧
      decode? (encode package.version) = some package.version) ∧
    (∀ other : Package, reportUrl base package = reportUrl base other ↔
      package.name = other.name ∧ package.version = other.version) ∧
    ∀ count, reportUrl (base ++ slashes count) package = reportUrl base package := by
  have hname := isQueryValue_encode (PackageName.ne_empty package.name_faultless)
  have hversion := isQueryValue_encode (PackageVersion.ne_empty package.version_faultless)
  refine ⟨?_, isTrimmed_trimSlashes base, ⟨hname, decode?_encode package.name⟩,
    ⟨hversion, decode?_encode package.version⟩, fun _ ↦ reportUrl_inj, fun count ↦ ?_⟩
  · unfold reportUrl requestPath
    simp only [String.append_assoc]
  · rw [reportUrl, trimSlashes_append_slashes, reportUrl]

end PackageRisk.Service
