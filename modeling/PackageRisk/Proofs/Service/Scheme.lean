import Mathlib.Data.List.Infix
import PackageRisk.Proofs.Report.Resolved
import PackageRisk.Proofs.Service.ReportUrl
import PackageRisk.Proofs.Settings
import PackageRisk.Run

/-!
# The scheme of a URL

An address of the service is checked for its scheme before it loses the slashes at its end. The two
slashes of the scheme stay when something else follows them. They go when nothing but slashes
follows, and then the URL does not begin as the address did.
-/

namespace PackageRisk.Service

/-- The beginning of an address is a scheme, which does not end with a slash, and two slashes. -/
theorem exists_scheme_of_mem_webPrefixes : ∀ start ∈ webPrefixes,
    ∃ scheme, start = scheme ++ slashes 2 ∧ scheme.toList.getLast? ≠ some '/' := by
  have hplain : "http://" = "http:" ++ slashes 2 := by decide
  have hsecure : "https://" = "https:" ++ slashes 2 := by decide
  intro start hstart
  rcases List.mem_pair.mp hstart with rfl | rfl
  · exact ⟨_, hplain, by decide⟩
  · exact ⟨_, hsecure, by decide⟩

/-- The path of a request begins with one slash. -/
theorem not_slashes_prefix_requestPath (package : Package) :
    ¬['/', '/'] <+: (requestPath package).toList := by
  have hpath : "/api/v1/package?package_name=".toList =
      '/' :: 'a' :: "pi/v1/package?package_name=".toList := by decide
  rw [toList_requestPath, hpath, List.cons_append, List.cons_append]
  simp

/-- The URL of a report begins as its base does when something other than slashes follows in the
base. -/
theorem prefix_reportUrl_iff {start base : String} (hstart : start ∈ webPrefixes)
    (hbase : start.toList <+: base.toList) (package : Package) :
    start.toList <+: (reportUrl base package).toList ↔
      ∃ c ∈ base.toList.drop start.length, c ≠ '/' := by
  obtain ⟨rest, rfl⟩ : ∃ rest : String, base = start ++ rest := by
    obtain ⟨after, hafter⟩ := hbase
    exact ⟨String.ofList after, String.toList_inj.mp (by simp [← hafter])⟩
  rw [String.toList_append, ← String.length_toList, List.drop_left]
  constructor
  · intro hurl
    by_contra hslashes
    obtain ⟨count, rfl⟩ := exists_eq_slashes_iff.mpr (by simpa using hslashes)
    obtain ⟨scheme, rfl, hends⟩ := exists_scheme_of_mem_webPrefixes start hstart
    have hroot : trimSlashes (scheme ++ slashes 2 ++ slashes count) = scheme := by
      apply trimSlashes_eq_iff.mpr
      exact ⟨⟨2 + count, by rw [String.append_assoc, slashes_append_slashes]⟩, hends⟩
    rw [reportUrl, hroot, String.toList_append, String.toList_append,
      List.prefix_append_right_inj, toList_slashes] at hurl
    exact not_slashes_prefix_requestPath package hurl
  · intro hrest
    rw [reportUrl, trimSlashes_append hrest, String.append_assoc, String.toList_append]
    exact List.prefix_append _ _

/-- A session whose command line names a package asks the service for the URL of its report. -/
theorem load_eq_pure {line : CommandLine} {package : Package} (hreport : line.report = none)
    (hname : line.package = some package.name)
    (hversion : line.packageVersion = some package.version) (fetch : String → Reply)
    (base : String) (order : RawReport.EntryOrder) :
    Session.load fetch line base order = pure (reportUrl base package,
      readReply (reportUrl base package) package (fetch (reportUrl base package)) order) := by
  have hpackage : Package.ofTexts package.name package.version = .ok package :=
    Package.ofTexts_eq_ok_iff.mpr ⟨rfl, rfl⟩
  rw [Session.load, hreport, hname, hversion]
  dsimp only
  rw [hpackage]
  rfl

/-- The address of the service in settings begins as an address of the web does, with a scheme, the
colon and two slashes. The URL of a report, which a session asks the service for, begins with the
same characters if and only if something other than slashes follows them in the address. -/
theorem keepsPrefix_iff {line : CommandLine} {config : Config} {settings : Settings}
    (h : Settings.resolve line config = .ok settings) (package : Package) :
    IsWebAddress settings.apiUrl ∧
    (∀ start ∈ webPrefixes, start.toList <+: settings.apiUrl.toList →
      (start.toList <+: (reportUrl settings.apiUrl package).toList ↔
        ∃ c ∈ settings.apiUrl.toList.drop start.length, c ≠ '/')) ∧
    ∀ fetch order, Session.load fetch
        { line with
          report := none
          package := some package.name
          packageVersion := some package.version } settings.apiUrl order =
      pure (reportUrl settings.apiUrl package, readReply (reportUrl settings.apiUrl package) package
        (fetch (reportUrl settings.apiUrl package)) order) := by
  have hurl := (Settings.resolve_eq_ok_iff.mp h).2.2.2.1
  refine ⟨Config.checkUrl_eq_ok_iff.mp hurl, fun start hstart hbase ↦ ?_,
    fun fetch order ↦ ?_⟩
  · exact prefix_reportUrl_iff hstart hbase package
  · exact load_eq_pure rfl rfl rfl fetch settings.apiUrl order

private def plainPackage : Package :=
  ⟨"a", "1", rfl, rfl⟩

/-- The command line gives nothing but an address. -/
private def addressLine (apiUrl : String) : CommandLine := { apiUrl := some apiUrl }

private def addressSettings (apiUrl : String) : Settings :=
  ⟨.markdown, false, false, none, apiUrl⟩

/-- With a host in the address, the URL keeps the scheme and both slashes. -/
theorem keepsPrefix_iff_hosted :
    Settings.resolve (addressLine "https://example.org//") {} =
      .ok (addressSettings "https://example.org//") ∧
    "https://".toList <+: (reportUrl "https://example.org//" plainPackage).toList := by
  have hresolve : Settings.resolve (addressLine "https://example.org//") {} =
      .ok (addressSettings "https://example.org//") := by
    rfl
  obtain ⟨-, hkeeps, -⟩ := keepsPrefix_iff hresolve plainPackage
  have hhost : 'e' ∈ "https://example.org//".toList.drop "https://".length := by decide
  exact ⟨hresolve, (hkeeps "https://" (by decide) (by decide)).mpr ⟨_, hhost, by decide⟩⟩

/-- The address is accepted, but its two slashes are at its end, and the URL begins with the scheme
and one slash. -/
theorem not_keepsPrefix_hostless :
    Settings.resolve (addressLine "http://") {} = .ok (addressSettings "http://") ∧
    "http://".toList <+: "http://".toList ∧
    ¬"http://".toList <+: (reportUrl "http://" plainPackage).toList := by
  refine ⟨rfl, List.prefix_rfl, ?_⟩
  have hnothing : "http://".toList.drop "http://".length = [] := by decide
  rw [prefix_reportUrl_iff (by decide) List.prefix_rfl, hnothing]
  rintro ⟨c, hc, -⟩
  cases hc

end PackageRisk.Service
