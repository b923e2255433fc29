import PackageRisk.Proofs.Fallible
import PackageRisk.Settings

/-!
# Settings from two sources

What the settings of a run are, told by the command line and the configuration. The minimum grade is
that of the command line or else of the configuration. The address of the service begins as an
address of the web does.
-/

namespace PackageRisk

open Fallible

/-- The worst grade that passes, of the command line or else of the configuration. -/
def CommandLine.minimum (line : CommandLine) (config : Config) : Option Grade :=
  line.minGrade.or (config.minGrade.bind Grade.ofName?)

/-- The beginnings of addresses of the web: a scheme, the colon and two slashes. -/
def webPrefixes : List String := ["http://", "https://"]

/-- A text begins as an address of the web does. -/
def IsWebAddress (text : String) : Prop := ∃ start ∈ webPrefixes, start.toList <+: text.toList

/-- Web addresses pass the check of the URL, and nothing else does. -/
theorem Config.checkUrl_eq_ok_iff {text : String} :
    Config.checkUrl text = .ok () ↔ IsWebAddress text := by
  have hstart : ("http://".toList.isPrefixOf text.toList ||
      "https://".toList.isPrefixOf text.toList) = true ↔ IsWebAddress text := by
    rw [Bool.or_eq_true, List.isPrefixOf_iff_prefix, List.isPrefixOf_iff_prefix]
    constructor
    · rintro (hplain | hsecure)
      · exact ⟨_, List.mem_cons_self, hplain⟩
      · exact ⟨_, List.mem_cons_of_mem _ List.mem_cons_self, hsecure⟩
    · rintro ⟨start, hstart, hprefix⟩
      rcases List.mem_pair.mp hstart with rfl | rfl
      · exact .inl hprefix
      · exact .inr hprefix
  rw [← hstart]
  unfold Config.checkUrl
  split
  · next haddress => exact iff_of_true rfl haddress
  · next haddress => exact iff_of_false (fun h ↦ by cases h) haddress

/-- The check of the URL fails with the text that is no web address. -/
theorem Config.checkUrl_eq_error_iff {text : String} {fault : SettingFault} :
    Config.checkUrl text = .error fault ↔ ¬IsWebAddress text ∧ fault = .apiUrl text := by
  rw [← checkUrl_eq_ok_iff]
  unfold Config.checkUrl
  split
  · simp
  · simp [eq_comm]

/-- A grade is read from the texts that name it. -/
theorem Config.readGrade_eq_ok_iff {text : String} {grade : Grade} :
    Config.readGrade text = .ok grade ↔ Grade.ofName? text = some grade := by
  unfold Config.readGrade
  cases Grade.ofName? text <;> simp

namespace Settings

variable {line : CommandLine} {config : Config} {settings : Settings}

/-- The minimum is that of the command line or else of the configuration, and there is one if either
gives one. -/
theorem minimum_of_resolveGrade {minGrade : Option Grade}
    (h : resolveGrade line config = .ok minGrade) :
    minGrade = line.minimum config ∧
      (minGrade.isSome = true ↔ line.minGrade.isSome = true ∨ config.minGrade.isSome = true) := by
  unfold resolveGrade at h
  unfold CommandLine.minimum
  cases hline : line.minGrade with
  | some grade =>
    rw [hline] at h
    cases h
    simp
  | none =>
    rw [hline] at h
    cases hconfig : config.minGrade with
    | none =>
      rw [hconfig] at h
      cases h
      simp
    | some text =>
      rw [hconfig] at h
      obtain ⟨grade, hgrade, rfl⟩ := map_eq_ok_iff.mp h
      simp [Config.readGrade_eq_ok_iff.mp hgrade]

/-- What settings are resolved to. -/
theorem resolve_eq_ok_iff :
    resolve line config = .ok settings ↔
      resolveFormat line config = .ok settings.format ∧
      resolveGrade line config = .ok settings.minGrade ∧
      (line.apiUrl <|> config.apiUrl).getD Service.defaultUrl = settings.apiUrl ∧
      Config.checkUrl settings.apiUrl = .ok () ∧
      settings.breakdown = (line.breakdown || config.breakdown.getD false) ∧
      settings.aggregate = (line.aggregate || config.aggregate.getD false) := by
  unfold resolve
  simp only [bind_eq_ok_iff]
  constructor
  · rintro ⟨format, hformat, minGrade, hgrade, ⟨⟩, hurl, h⟩
    cases h
    exact ⟨hformat, hgrade, rfl, hurl, rfl, rfl⟩
  · obtain ⟨format, breakdown, aggregate, minGrade, apiUrl⟩ := settings
    rintro ⟨hformat, hgrade, rfl, hurl, rfl, rfl⟩
    exact ⟨format, hformat, minGrade, hgrade, (), hurl, rfl⟩

end Settings

end PackageRisk
