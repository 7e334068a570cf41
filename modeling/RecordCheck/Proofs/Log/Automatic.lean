import RecordCheck.Proofs.Log.Installation

/-!
# What the automatic configuration takes from the environment

A process that asks for nothing in particular gets the configuration that the environment
describes, if the environment says a level, and else the preset for its build. The preset does not
look at the environment: so a layout or a switch in the environment counts together with a level,
and without one only where it asks for what the preset has anyway.

* `Config.Honours` is what an environment asks of a configuration.
* `Config.ofEnvironment_honours` and `Config.preset_honours_iff` are the two sources of an
  automatic configuration, and `Session.honours_iff_of_installAutomatic` puts them together.
-/

namespace RecordCheck

/-- The environment switches something off. -/
def Environment.SwitchesOff (environment : Environment) (name : String) : Prop :=
  environment.get? name = some "0" ∨ environment.get? name = some "false"

namespace Log

/-- What an environment asks of a configuration: each variable counts by itself. -/
structure Config.Honours (config : Config) (environment : Environment) : Prop where
  level : ∀ text, environment.get? "CHAINABLE_LOG" = some text → config.level = text
  generalLevel : ∀ text, environment.get? "CHAINABLE_LOG" = none →
    environment.get? "RUST_LOG" = some text → config.level = text
  format : ∀ text format, environment.get? "CHAINABLE_LOG_FORMAT" = some text →
    Format.parse text = .ok format → config.format = format
  time : environment.SwitchesOff "CHAINABLE_LOG_TIME" → config.display.time = false
  source : environment.SwitchesOff "CHAINABLE_LOG_SOURCE" → config.display.source = false
  colors : environment.SwitchesOff "CHAINABLE_LOG_COLORS" → config.display.colors = false

/-- The preset for the build. -/
def Config.preset (host : Host) : Config :=
  if host.debugBuild then .development host else .production host

section Environment

variable {host : Host} {environment : Environment} {name : String}

theorem environmentFlag?_of_switchesOff (off : environment.SwitchesOff name) :
    environmentFlag? environment name = some false := by
  unfold environmentFlag?
  rcases off with zero | word
  · rw [zero]
    rfl
  · rw [word]
    rfl

theorem environmentLevel?_eq_none_iff :
    environmentLevel? environment = none ↔
      environment.get? "CHAINABLE_LOG" = none ∧ environment.get? "RUST_LOG" = none := by
  rw [environmentLevel?, Option.orElse_eq_orElse, Option.orElse_eq_or, Option.or_eq_none_iff]

/-- The configuration from the environment is as the environment asks, in every variable. -/
theorem Config.ofEnvironment_honours (host : Host) (environment : Environment) :
    (Config.ofEnvironment host environment).Honours environment where
  level text own := by
    simp [ofEnvironment, environmentLevel?, own]
  generalLevel text unset general := by
    simp [ofEnvironment, environmentLevel?, unset, general]
  format text format named parsed := by
    simp [ofEnvironment, named, Format.parseOrCompact, parsed]
  time off := by
    simp [ofEnvironment, Display.adjusted, environmentFlag?_of_switchesOff off]
  source off := by
    simp [ofEnvironment, Display.adjusted, environmentFlag?_of_switchesOff off]
  colors off := by
    simp [ofEnvironment, Display.adjusted, environmentFlag?_of_switchesOff off]

/-- Every preset writes the time, and the one for debug builds the place in the source and
colours. -/
theorem Config.preset_display (host : Host) :
    (preset host).display.time = true ∧
    (preset host).display.source = host.debugBuild ∧
    (preset host).display.colors = host.debugBuild := by
  unfold preset
  cases host.debugBuild <;> exact ⟨rfl, rfl, rfl⟩

/-- Without a level, the preset is as the environment asks only if the environment asks for what
the preset has. -/
theorem Config.preset_honours_iff (silent : environmentLevel? environment = none) :
    (preset host).Honours environment ↔
      (∀ text format, environment.get? "CHAINABLE_LOG_FORMAT" = some text →
        Format.parse text = .ok format → (preset host).format = format) ∧
      ¬ environment.SwitchesOff "CHAINABLE_LOG_TIME" ∧
      (host.debugBuild = true → ¬ environment.SwitchesOff "CHAINABLE_LOG_SOURCE" ∧
        ¬ environment.SwitchesOff "CHAINABLE_LOG_COLORS") := by
  obtain ⟨time, source, colors⟩ := preset_display host
  obtain ⟨own, general⟩ := environmentLevel?_eq_none_iff.mp silent
  constructor
  · intro honours
    refine ⟨honours.format, fun off => ?_, fun debug => ⟨fun off => ?_, fun off => ?_⟩⟩
    · exact absurd (time.symm.trans (honours.time off)) (by decide)
    · exact absurd (debug.symm.trans (source.symm.trans (honours.source off))) (by decide)
    · exact absurd (debug.symm.trans (colors.symm.trans (honours.colors off))) (by decide)
  · rintro ⟨format, timed, debug⟩
    refine ⟨by simp [own], by simp [general], format, fun off => absurd off timed, ?_, ?_⟩
    · rw [source]
      exact fun off => Bool.eq_false_iff.mpr fun on => (debug on).1 off
    · rw [colors]
      exact fun off => Bool.eq_false_iff.mpr fun on => (debug on).2 off

end Environment

namespace Session

variable {backend : Backend} {session next : Session backend} {host : Host}
  {environment : Environment} {guard : Guard}

theorem automatic_of_level (asked : (environmentLevel? environment).isSome) :
    automatic host environment = .ofEnvironment host environment :=
  if_pos asked

theorem automatic_of_silent (silent : environmentLevel? environment = none) :
    automatic host environment = .preset host := by
  rw [automatic, silent]
  rfl

/-- Where there was no logger, a call that succeeds installs the automatic configuration. -/
theorem logger_of_installAutomatic (free : session.logger = none)
    (success : session.installAutomatic host environment = (.ok guard, next)) :
    ∃ filter, backend.parse? (automatic host environment).level = some filter ∧
      next.logger = some ⟨automatic host environment, filter⟩ := by
  have answered : session.perform (.automatic host environment) = (.ok guard, next) := success
  rw [perform_of_free free] at answered
  cases read : (Request.automatic host environment).logger? backend with
  | none =>
    rw [read] at answered
    cases answered
  | some logger =>
    rw [read] at answered
    cases answered
    obtain ⟨filter, parsed, rfl⟩ := Option.map_eq_some_iff.mp read
    exact ⟨filter, parsed, rfl⟩

/-- The automatic configuration that is installed is as the environment asks if the environment
says a level. Otherwise it is the preset for the build, whatever the environment says. -/
theorem honours_iff_of_installAutomatic (free : session.logger = none)
    (success : session.installAutomatic host environment = (.ok guard, next)) :
    ∃ config filter, next.logger = some ⟨config, filter⟩ ∧
      (∀ text, environmentLevel? environment = some text → config.level = text) ∧
      (environmentLevel? environment = none → config = .preset host) ∧
      (config.Honours environment ↔
        environmentLevel? environment = none →
          (∀ text format, environment.get? "CHAINABLE_LOG_FORMAT" = some text →
            Format.parse text = .ok format → (Config.preset host).format = format) ∧
          ¬ environment.SwitchesOff "CHAINABLE_LOG_TIME" ∧
          (host.debugBuild = true → ¬ environment.SwitchesOff "CHAINABLE_LOG_SOURCE" ∧
            ¬ environment.SwitchesOff "CHAINABLE_LOG_COLORS")) := by
  obtain ⟨filter, -, installed⟩ := logger_of_installAutomatic free success
  refine ⟨automatic host environment, filter, installed, ?_, automatic_of_silent, ?_⟩
  · intro text asked
    rw [automatic_of_level (Option.isSome_of_eq_some asked), Config.ofEnvironment, asked]
    rfl
  · cases asked : environmentLevel? environment with
    | none =>
      rw [automatic_of_silent asked, Config.preset_honours_iff asked]
      exact ⟨fun suits _ => suits, fun suits => suits rfl⟩
    | some text =>
      rw [automatic_of_level (Option.isSome_of_eq_some asked)]
      exact iff_of_true (Config.ofEnvironment_honours host environment) nofun

/-- With a level, JSON without the time is what the environment asks for and gets. -/
theorem honours_of_level_and_format :
    let environment : Environment :=
      ⟨[("RUST_LOG", "info"), ("CHAINABLE_LOG_FORMAT", " JSON "), ("CHAINABLE_LOG_TIME", "0")]⟩
    ∃ next config filter,
      ({} : Session).installAutomatic ⟨true, false⟩ environment = (.ok ⟨none⟩, next) ∧
      next.logger = some ⟨config, filter⟩ ∧
      config.level = "info" ∧ config.format = .json ∧ config.display.time = false := by
  intro environment
  let json : Config := ⟨"info", .json, ⟨false, true, true, false, false, true, true⟩, none⟩
  let info : Filter := ⟨[⟨"", some .info⟩]⟩
  have chosen : automatic ⟨true, false⟩ environment = json := by decide
  have read : Filter.parse? json.level = some info := by decide
  have free : ({} : Session).logger = none := rfl
  have success : ({} : Session).installAutomatic ⟨true, false⟩ environment =
      (.ok ⟨none⟩, ({} : Session).equipped ⟨json, info⟩) := by
    rw [installAutomatic_of_free free, chosen]
    exact install_of_free free read
  obtain ⟨config, filter, installed, level, -, honours⟩ :=
    honours_iff_of_installAutomatic free success
  have honours := honours.mpr nofun
  exact ⟨_, config, filter, success, installed, level "info" rfl,
    honours.format " JSON " .json rfl rfl, honours.time (Or.inl rfl)⟩

/-- Without a level, the layout and the switches of the environment do not count: in a debug build
lines are pretty and carry the time, and in another build they carry the time. -/
theorem automatic_passes_over_environment :
    let environment : Environment :=
      ⟨[("CHAINABLE_LOG_FORMAT", "json"), ("CHAINABLE_LOG_TIME", "0"),
        ("CHAINABLE_LOG_SOURCE", "0"), ("CHAINABLE_LOG_COLORS", "0")]⟩
    (∃ next filter,
      ({} : Session).installAutomatic ⟨true, false⟩ environment = (.ok ⟨none⟩, next) ∧
      next.logger = some ⟨.development ⟨true, false⟩, filter⟩ ∧
      (Config.development ⟨true, false⟩).format = .pretty ∧
      ¬ (Config.development ⟨true, false⟩).Honours environment) ∧
    ∃ next filter,
      ({} : Session).installAutomatic ⟨false, false⟩ environment = (.ok ⟨none⟩, next) ∧
      next.logger = some ⟨.production ⟨false, false⟩, filter⟩ ∧
      ¬ (Config.production ⟨false, false⟩).Honours environment := by
  refine ⟨⟨_, _, rfl, rfl, rfl, fun honours => ?_⟩, ⟨_, _, rfl, rfl, fun honours => ?_⟩⟩
  · exact absurd (honours.format "json" .json rfl rfl) (by decide)
  · exact absurd (honours.time (Or.inl rfl)) (by decide)

end Session

end Log

end RecordCheck
