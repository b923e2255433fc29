import PackageRisk.Proofs.Run.Session
import PackageRisk.Proofs.Settings

/-!
# Precedence of settings

Every setting has the value of the command line, or else that of the configuration, or else one that
holds without either. A configuration that passes its check gives no value that cannot be read, so
all that can be refused when the settings are resolved is an address on the command line.
-/

namespace PackageRisk

open Fallible

/-- A value of a setting comes before all others: it is given by the command line, or else it is
what `read` takes from the text of the configuration, or else it is the one that holds if neither
says anything. -/
inductive Prevails {α : Type} (read : String → Option α) (given : Option α)
    (configured : Option String) (fallback : α) : α → Prop
  | ofLine {value : α} (hline : given = some value) : Prevails read given configured fallback value
  | ofConfig {text : String} {value : α} (hline : given = none) (hconfig : configured = some text)
      (hread : read text = some value) : Prevails read given configured fallback value
  | ofNeither (hline : given = none) (hconfig : configured = none) :
      Prevails read given configured fallback fallback

section Prevails

variable {α : Type} {read : String → Option α} {given : Option α} {configured : Option String}
  {fallback value : α}

private theorem prevails_some_iff {first : α} :
    Prevails read (some first) configured fallback value ↔ first = value := by
  constructor
  · rintro (⟨⟨⟩⟩ | ⟨⟨⟩⟩ | ⟨⟨⟩⟩)
    rfl
  · rintro rfl
    exact .ofLine rfl

private theorem prevails_none_some_iff {text : String} :
    Prevails read none (some text) fallback value ↔ read text = some value := by
  constructor
  · rintro (⟨⟨⟩⟩ | ⟨-, ⟨⟩, hread⟩ | ⟨-, ⟨⟩⟩)
    exact hread
  · exact .ofConfig rfl rfl

private theorem prevails_none_none_iff :
    Prevails read none none fallback value ↔ fallback = value := by
  constructor
  · rintro (⟨⟨⟩⟩ | ⟨-, ⟨⟩⟩ | ⟨-, -⟩)
    rfl
  · rintro rfl
    exact .ofNeither rfl rfl

/-- There is a value to take unless the configuration gives a text that cannot be read. -/
theorem exists_prevails (given : Option α) (fallback : α)
    (h : ∀ text, configured = some text → ∃ a, read text = some a) :
    ∃ a, Prevails read given configured fallback a := by
  cases given with
  | some first => exact ⟨first, .ofLine rfl⟩
  | none =>
    cases configured with
    | some text =>
      obtain ⟨a, ha⟩ := h text rfl
      exact ⟨a, .ofConfig rfl rfl ha⟩
    | none => exact ⟨fallback, .ofNeither rfl rfl⟩

end Prevails

namespace Config

private theorem readFormat_eq_ok_iff {text : String} {format : OutputFormat} :
    readFormat text = .ok format ↔ OutputFormat.ofName? text = some format := by
  unfold readFormat
  cases OutputFormat.ofName? text <;> simp

/-- A configuration passes its check when every text that it gives can be read. -/
theorem check_eq_ok_iff {config : Config} :
    config.check = .ok () ↔
      (∀ text, config.format = some text → ∃ format, OutputFormat.ofName? text = some format) ∧
      (∀ text, config.minGrade = some text → ∃ grade, Grade.ofName? text = some grade) ∧
      ∀ url, config.apiUrl = some url → IsWebAddress url := by
  have hurl (url : String) : (∃ a, checkUrl url = .ok a) ↔ IsWebAddress url :=
    (exists_const Unit).trans checkUrl_eq_ok_iff
  simp only [← readFormat_eq_ok_iff, ← readGrade_eq_ok_iff, ← hurl,
    ← exists_optionMapM_eq_ok_iff]
  unfold check
  simp only [bind_eq_ok_iff]
  constructor
  · rintro ⟨format, hformat, grade, hgrade, address, haddress, -⟩
    exact ⟨⟨format, hformat⟩, ⟨grade, hgrade⟩, address, haddress⟩
  · rintro ⟨⟨format, hformat⟩, ⟨grade, hgrade⟩, address, haddress⟩
    exact ⟨format, hformat, grade, hgrade, address, haddress, rfl⟩

/-- A configuration that is loaded has passed its check. -/
theorem check_of_load {files : FileSystem} {path : String} {config : Config}
    (h : load files path = .ok config) : config.check = .ok () := by
  unfold load at h
  split at h
  · cases h
  · split at h
    · cases h
    · split at h
      · cases h
      · next hcheck =>
        cases h
        exact hcheck

/-- The configuration that a command line finds has passed its check; without a file there is
nothing in it to refuse. -/
theorem check_of_configOf {files : FileSystem} {line : CommandLine} {config : Config}
    (h : Session.configOf files line = .ok config) : config.check = .ok () := by
  unfold Session.configOf at h
  cases hline : line.config with
  | some path =>
    rw [hline] at h
    exact check_of_load h
  | none =>
    rw [hline] at h
    obtain ⟨found, hfound, rfl⟩ := map_eq_ok_iff.mp h
    unfold discover at hfound
    dsimp only at hfound
    split at hfound
    · obtain ⟨loaded, hloaded, rfl⟩ := map_eq_ok_iff.mp hfound
      exact check_of_load hloaded
    · cases hfound
      rfl

end Config

namespace Settings

variable {line : CommandLine} {config : Config}

private theorem resolveFormat_eq_ok_iff {format : OutputFormat} :
    resolveFormat line config = .ok format ↔
      Prevails OutputFormat.ofName? line.format config.format .markdown format := by
  unfold resolveFormat
  cases line.format with
  | some first => rw [prevails_some_iff, Except.ok.injEq]
  | none =>
    cases config.format with
    | some text => rw [prevails_none_some_iff, Config.readFormat_eq_ok_iff]
    | none => rw [prevails_none_none_iff, Except.ok.injEq]

private theorem resolveGrade_eq_ok_iff {minGrade : Option Grade} :
    resolveGrade line config = .ok minGrade ↔
      Prevails (fun text ↦ (Grade.ofName? text).map some) (line.minGrade.map some) config.minGrade
        none minGrade := by
  unfold resolveGrade
  cases line.minGrade with
  | some first => rw [Option.map_some, prevails_some_iff, Except.ok.injEq]
  | none =>
    rw [Option.map_none]
    cases config.minGrade with
    | some text =>
      rw [prevails_none_some_iff, Option.map_eq_some_iff]
      simp only [map_eq_ok_iff, Config.readGrade_eq_ok_iff]
    | none => rw [prevails_none_none_iff, Except.ok.injEq]

private theorem apiUrl_eq_iff {url : String} :
    (line.apiUrl <|> config.apiUrl).getD Service.defaultUrl = url ↔
      Prevails some line.apiUrl config.apiUrl Service.defaultUrl url := by
  cases line.apiUrl with
  | some first => rw [prevails_some_iff]; rfl
  | none =>
    cases config.apiUrl with
    | some text => rw [prevails_none_some_iff, Option.some.injEq]; rfl
    | none => rw [prevails_none_none_iff]; rfl

/-- All settings are taken in the order of precedence. A flag is raised when either side raises
it. -/
structure FollowsPrecedence (line : CommandLine) (config : Config) (settings : Settings) :
    Prop where
  format : Prevails OutputFormat.ofName? line.format config.format .markdown settings.format
  minGrade : Prevails (fun text ↦ (Grade.ofName? text).map some) (line.minGrade.map some)
    config.minGrade none settings.minGrade
  apiUrl : Prevails some line.apiUrl config.apiUrl "http://localhost:8000" settings.apiUrl
  breakdown : settings.breakdown = true ↔ line.breakdown = true ∨ config.breakdown = some true
  aggregate : settings.aggregate = true ↔ line.aggregate = true ∨ config.aggregate = some true

/-- A flag is the disjunction of both sides. -/
theorem flag_eq_or_iff {raised given : Bool} {configured : Option Bool} :
    raised = (given || configured.getD false) ↔
      (raised = true ↔ given = true ∨ configured = some true) := by
  rw [Bool.eq_iff_iff, Bool.or_eq_true]
  cases configured <;> simp

/-- The settings are those in the order of precedence, if that gives an address of the web. -/
theorem resolve_eq_ok_iff_followsPrecedence {settings : Settings} :
    resolve line config = .ok settings ↔
      FollowsPrecedence line config settings ∧ IsWebAddress settings.apiUrl := by
  rw [resolve_eq_ok_iff, resolveFormat_eq_ok_iff, resolveGrade_eq_ok_iff, apiUrl_eq_iff,
    Config.checkUrl_eq_ok_iff, flag_eq_or_iff, flag_eq_or_iff]
  constructor
  · rintro ⟨hformat, hgrade, hurl, haddress, hbreakdown, haggregate⟩
    exact ⟨⟨hformat, hgrade, hurl, hbreakdown, haggregate⟩, haddress⟩
  · rintro ⟨⟨hformat, hgrade, hurl, hbreakdown, haggregate⟩, haddress⟩
    exact ⟨hformat, hgrade, hurl, haddress, hbreakdown, haggregate⟩

private theorem isWebAddress_defaultUrl : IsWebAddress Service.defaultUrl :=
  Config.checkUrl_eq_ok_iff.mp (by decide +kernel)

/-- The configuration gives no address, or one that passes, so only the command line can give one
that is refused. -/
theorem resolve_eq_error_iff_of_check (h : config.check = .ok ()) {fault : SettingFault} :
    resolve line config = .error fault ↔
      ∃ url, line.apiUrl = some url ∧ ¬IsWebAddress url ∧ fault = .apiUrl url := by
  obtain ⟨hformats, hgrades, hurls⟩ := Config.check_eq_ok_iff.mp h
  obtain ⟨format, hformat⟩ := exists_prevails line.format .markdown hformats
  obtain ⟨minGrade, hgrade⟩ : ∃ minGrade, resolveGrade line config = .ok minGrade := by
    simp only [resolveGrade_eq_ok_iff]
    refine exists_prevails _ _ fun text htext ↦ ?_
    obtain ⟨grade, hgrade⟩ := hgrades text htext
    exact ⟨some grade, by rw [hgrade, Option.map_some]⟩
  have hresolve : resolve line config = .error fault ↔
      ¬IsWebAddress ((line.apiUrl <|> config.apiUrl).getD Service.defaultUrl) ∧
        fault = .apiUrl ((line.apiUrl <|> config.apiUrl).getD Service.defaultUrl) := by
    rw [← Config.checkUrl_eq_error_iff]
    unfold resolve
    simp [bind_eq_error_iff, resolveFormat_eq_ok_iff.mpr hformat, hgrade, pure, Except.pure]
  rw [hresolve]
  cases hline : line.apiUrl with
  | some url => simp
  | none =>
    have haddress : IsWebAddress ((none <|> config.apiUrl).getD Service.defaultUrl) := by
      cases hconfig : config.apiUrl with
      | some url => exact hurls url hconfig
      | none => exact isWebAddress_defaultUrl
    exact iff_of_false (fun h ↦ h.1 haddress) (fun ⟨_, h, _⟩ ↦ nomatch h)

/-- What the command line gives is what holds. -/
structure KeepsLine (line : CommandLine) (settings : Settings) : Prop where
  format : ∀ format, line.format = some format → settings.format = format
  minGrade : ∀ grade, line.minGrade = some grade → settings.minGrade = some grade
  apiUrl : ∀ url, line.apiUrl = some url → settings.apiUrl = url
  breakdown : line.breakdown = true → settings.breakdown = true
  aggregate : line.aggregate = true → settings.aggregate = true

/-- A value of the command line prevails, whatever the configuration gives. -/
theorem FollowsPrecedence.keepsLine {settings : Settings}
    (h : FollowsPrecedence line config settings) : KeepsLine line settings := by
  obtain ⟨hformat, hgrade, hurl, hbreakdown, haggregate⟩ := h
  constructor
  · intro format hline
    rw [hline, prevails_some_iff] at hformat
    exact hformat.symm
  · intro grade hline
    rw [hline, Option.map_some, prevails_some_iff] at hgrade
    exact hgrade.symm
  · intro url hline
    rw [hline, prevails_some_iff] at hurl
    exact hurl.symm
  · exact fun hline ↦ hbreakdown.mpr (.inl hline)
  · exact fun hline ↦ haggregate.mpr (.inl hline)

/-- With a configuration that passes its check, or with none, the settings are refused if and only
if the command line gives an address and it is not one of the web. Otherwise they are those in the
order of precedence, and nothing that the command line gives is changed by the configuration. Each
configuration that a command line finds passes its check. -/
theorem resolve_of_check (line : CommandLine) (config : Option Config)
    (h : ∀ given ∈ config, given.check = .ok ()) :
    (∀ fault, resolve line (config.getD {}) = .error fault ↔
      ∃ url, line.apiUrl = some url ∧ ¬IsWebAddress url ∧ fault = .apiUrl url) ∧
    (∀ settings, resolve line (config.getD {}) = .ok settings ↔
      FollowsPrecedence line (config.getD {}) settings ∧ IsWebAddress settings.apiUrl) ∧
    (∀ settings, resolve line (config.getD {}) = .ok settings → KeepsLine line settings) ∧
    ∀ files found, Session.configOf files line = .ok found → ∀ fault,
      resolve line found = .error fault ↔
        ∃ url, line.apiUrl = some url ∧ ¬IsWebAddress url ∧ fault = .apiUrl url := by
  have hcheck : (config.getD {}).check = .ok () := by
    cases config with
    | some given => exact h given rfl
    | none => rfl
  refine ⟨fun fault ↦ resolve_eq_error_iff_of_check hcheck,
    fun settings ↦ resolve_eq_ok_iff_followsPrecedence, fun settings hresolve ↦ ?_,
    fun files found hfound fault ↦
      resolve_eq_error_iff_of_check (Config.check_of_configOf hfound)⟩
  obtain ⟨hfollows, -⟩ := resolve_eq_ok_iff_followsPrecedence.mp hresolve
  exact hfollows.keepsLine

/-- A configuration that gives a format, a flag and a grade. -/
private def teamConfig : Config :=
  { format := some "JSON", breakdown := some true, minGrade := some " c" }

/-- The command line replaces the format, and the other values are those of the configuration. An
address of another scheme is refused. -/
theorem resolve_of_check_teamConfig :
    resolve { format := some .markdown } teamConfig =
      .ok ⟨.markdown, true, false, some .c, "http://localhost:8000"⟩ ∧
    KeepsLine { format := some .markdown }
      ⟨.markdown, true, false, some .c, "http://localhost:8000"⟩ ∧
    resolve { apiUrl := some "ftp://example.org" } teamConfig =
      .error (.apiUrl "ftp://example.org") := by
  have hcheck : ∀ given ∈ some teamConfig, given.check = .ok () := by
    rintro given ⟨⟩
    decide +kernel
  have hresolve : resolve { format := some .markdown } teamConfig =
      .ok ⟨.markdown, true, false, some .c, "http://localhost:8000"⟩ := by
    decide +kernel
  obtain ⟨-, -, hkeeps, -⟩ := resolve_of_check { format := some .markdown } (some teamConfig) hcheck
  obtain ⟨hfails, -⟩ :=
    resolve_of_check { apiUrl := some "ftp://example.org" } (some teamConfig) hcheck
  have hftp : ¬IsWebAddress "ftp://example.org" := by
    rw [← Config.checkUrl_eq_ok_iff]
    decide +kernel
  exact ⟨hresolve, hkeeps _ hresolve, (hfails _).mpr ⟨_, rfl, hftp, rfl⟩⟩

end Settings

end PackageRisk
