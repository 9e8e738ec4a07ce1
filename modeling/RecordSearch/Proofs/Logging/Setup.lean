import RecordSearch.Proofs.Logging.LevelText
import RecordSearch.Proofs.Traversal

namespace RecordSearch

/-!
# Loggers after their setup

The level of the root logger follows from the text of the settings, and that of the transport from
the level of the root logger.

* `levelsAfter`: the levels of all loggers, given that of the root logger;
* `IsCapped`: a level of the transport that keeps it as quiet as the root logger, or more so;
* `IsSetUp`: loggers that are set up by a text;
* `setup_follows_level_text`: fresh loggers are set up by every text but those that name something
  else than a level, for which the setup fails.
-/

/-! ### Levels of several loggers -/

namespace LoggerLevels

theorem set_self (levels : LoggerLevels) (name : String) (level : Nat) :
    levels.set name level name = level :=
  if_pos rfl

theorem set_of_ne (levels : LoggerLevels) {name other : String} (h : other ≠ name) (level : Nat) :
    levels.set name level other = levels other :=
  if_neg h

theorem setAll_cons (levels : LoggerLevels) (name : String) (names : List String) (level : Nat) :
    levels.setAll (name :: names) level = (levels.set name level).setAll names level := rfl

/-- Loggers that are not among the given ones keep their levels. -/
theorem setAll_of_notMem {names : List String} {other : String} (h : other ∉ names)
    (levels : LoggerLevels) (level : Nat) : levels.setAll names level other = levels other := by
  induction names generalizing levels with
  | nil => rfl
  | cons name names ih =>
    obtain ⟨hne, hrest⟩ := not_or.1 (mt List.mem_cons.2 h)
    rw [setAll_cons, ih hrest, set_of_ne levels hne]

/-- The given loggers have the level afterwards, in whatever order they are set. -/
theorem setAll_of_mem {names : List String} {name : String} (h : name ∈ names)
    (levels : LoggerLevels) (level : Nat) : levels.setAll names level name = level := by
  induction names generalizing levels with
  | nil => cases h
  | cons first names ih =>
    rw [setAll_cons]
    -- A name that is there again is set again, so the rest is asked first.
    by_cases hrest : name ∈ names
    · exact ih hrest _
    · rcases List.mem_cons.1 h with rfl | hmem
      · rw [setAll_of_notMem hrest, set_self]
      · exact absurd hmem hrest

end LoggerLevels

/-- The levels of fresh loggers after the setup, given the level of the root logger. -/
def levelsAfter (root : Nat) : LoggerLevels :=
  (LoggerLevels.fresh.set rootLogger root).setAll transportLoggers (transportLevel root)

/-- The setup depends on the text of the level, and on nothing else. -/
theorem setUpLogging_eq (settings : ObservabilitySettings) :
    setUpLogging settings = levelsAfter <$> levelOf settings.logLevel := by
  rw [setUpLogging, LoggingSetup.of]
  cases levelOf settings.logLevel with
  | error e => rfl
  | ok root => rfl

theorem rootLogger_notMem_transportLoggers : rootLogger ∉ transportLoggers := by decide

theorem levelsAfter_root (root : Nat) : levelsAfter root rootLogger = root := by
  rw [levelsAfter, LoggerLevels.setAll_of_notMem rootLogger_notMem_transportLoggers,
    LoggerLevels.set_self]

/-! ### Loggers that are set up -/

/-- A text names a level by its upper case. -/
def NamesLevel (text : String) (level : Nat) : Prop := (Text.upper text, level) ∈ levelNumbers

/-- A text names something else than a level, and that leads to an error. -/
def NamesOther (text : String) (e : Error) : Prop := (Text.upper text, e) ∈ otherNames

/-- **The transport is capped**: up to the level of debugging it has the level of the root logger.
    Above it, the larger one of that and the level of warnings, so that it logs nothing below a
    warning. It never logs more than the root logger. -/
structure IsCapped (root transport : Nat) : Prop where
  same : root ≤ debugLevel → transport = root
  larger : debugLevel < root → transport = max root warningLevel
  warnings : debugLevel < root → warningLevel ≤ transport
  withinRoot : root ≤ transport

/-- **Loggers that are set up by a text.** The root logger has the level that the text names, or
    that of information if it names none. The loggers of the transport have one level that is
    capped, and all others are as they were. -/
structure IsSetUpBy (text : String) (levels : LoggerLevels) : Prop where
  root : NamesLevel text (levels rootLogger)
    ∨ (∀ level, ¬NamesLevel text level) ∧ levels rootLogger = infoLevel
  transport : ∃ level, IsCapped (levels rootLogger) level
    ∧ ∀ name ∈ transportLoggers, levels name = level
  others : ∀ name, name ≠ rootLogger → name ∉ transportLoggers →
    levels name = LoggerLevels.fresh name

/-- The setup succeeds, and the loggers are set up by the text of the settings. -/
def IsSetUp (settings : ObservabilitySettings) : Prop :=
  ∃ levels, setUpLogging settings = .ok levels ∧ IsSetUpBy settings.logLevel levels

/-- The level of the transport is capped, whatever that of the root logger is. -/
theorem isCapped_transportLevel (root : Nat) : IsCapped root (transportLevel root) := by
  by_cases h : root ≤ debugLevel
  · have heq : transportLevel root = root := if_pos h
    exact ⟨fun _ => heq, fun hlt => absurd h (Nat.not_le.2 hlt),
      fun hlt => absurd h (Nat.not_le.2 hlt), Nat.le_of_eq heq.symm⟩
  · have heq : transportLevel root = max root warningLevel := if_neg h
    exact ⟨fun hle => absurd hle h, fun _ => heq, fun _ => heq ▸ Nat.le_max_right _ _,
      heq ▸ Nat.le_max_left _ _⟩

/-- The loggers are set up by any text for which the root logger has the right level. -/
theorem isSetUpBy_levelsAfter {text : String} {root : Nat}
    (h : NamesLevel text root ∨ (∀ level, ¬NamesLevel text level) ∧ root = infoLevel) :
    IsSetUpBy text (levelsAfter root) where
  root := by rwa [levelsAfter_root]
  transport := by
    rw [levelsAfter_root]
    exact ⟨transportLevel root, isCapped_transportLevel root,
      fun name hname => LoggerLevels.setAll_of_mem hname _ _⟩
  others name hroot htransport := by
    rw [levelsAfter, LoggerLevels.setAll_of_notMem htransport, LoggerLevels.set_of_ne _ hroot]

/-- The setup fails with the error for what a text names that is no level. -/
theorem setUpLogging_of_namesOther {settings : ObservabilitySettings} {e : Error}
    (h : NamesOther settings.logLevel e) : setUpLogging settings = .error e := by
  rw [setUpLogging_eq, (levelFor_levelOf settings.logLevel).eq_error h]
  rfl

/-- A text that names something else names no level, and sets up no logger. -/
theorem not_isSetUp_of_namesOther (settings : ObservabilitySettings) {e : Error}
    (h : NamesOther settings.logLevel e) :
    (∀ level, ¬NamesLevel settings.logLevel level) ∧ ¬IsSetUp settings := by
  constructor
  · exact fun level hlevel => notMem_otherNames hlevel e h
  · rintro ⟨levels, hlevels, -⟩
    cases hlevels.symm.trans (setUpLogging_of_namesOther h)

/-- **Fresh loggers are set up by every text** that does not name something else than a level: the
    usual level is only for texts that name nothing at all. Where a text names something else, no
    logger is set up. -/
theorem setup_follows_level_text (settings : ObservabilitySettings) :
    (IsSetUp settings ↔ ∀ e, ¬NamesOther settings.logLevel e)
      ∧ ∀ e, NamesOther settings.logLevel e → setUpLogging settings = .error e := by
  refine ⟨⟨fun hsetup e hother => (not_isSetUp_of_namesOther settings hother).2 hsetup,
      fun hnone => ?_⟩,
    fun e => setUpLogging_of_namesOther⟩
  have hlevel := levelFor_levelOf settings.logLevel
  rw [IsSetUp, setUpLogging_eq]
  -- What the text stands for is all that matters, however it was found.
  generalize levelOf settings.logLevel = outcome at hlevel
  cases hlevel with
  | named hnamed => exact ⟨_, rfl, isSetUpBy_levelsAfter (.inl hnamed)⟩
  | other hother => exact absurd hother (hnone _)
  | usual hunnamed => exact ⟨_, rfl, isSetUpBy_levelsAfter (.inr ⟨hunnamed, rfl⟩)⟩

/-- A letter without its dot still names a level, and the format of lines has its name in any
    case. -/
theorem dotless_critical_set_up :
    NamesLevel "crıtıcal" 50 ∧ IsSetUp ⟨"crıtıcal", "console"⟩
      ∧ setUpLogging ⟨"Basic_Format", "console"⟩
        = .error (.notALevel "%(levelname)s:%(name)s:%(message)s") := by
  have hcritical : NamesLevel "crıtıcal" 50 := by
    rw [NamesLevel, show Text.upper "crıtıcal" = "CRITICAL" by decide]
    exact List.mem_cons_self
  have hformat : NamesOther "Basic_Format"
      (.notALevel "%(levelname)s:%(name)s:%(message)s") := by
    rw [NamesOther, show Text.upper "Basic_Format" = "BASIC_FORMAT" by decide]
    exact List.mem_cons_self
  exact ⟨hcritical,
    (setup_follows_level_text ⟨"crıtıcal", "console"⟩).1.2 fun e => notMem_otherNames hcritical e,
    (setup_follows_level_text ⟨"Basic_Format", "console"⟩).2 _ hformat⟩

/-- The names of the format of lines and of the table of styles set up no logger, although neither
    names a level. -/
theorem format_and_styles_not_set_up :
    ((∀ level, ¬NamesLevel "basic_format" level) ∧ ¬IsSetUp ⟨"basic_format", "json"⟩)
      ∧ (∀ level, ¬NamesLevel "_styles" level) ∧ ¬IsSetUp ⟨"_styles", "json"⟩ := by
  have hformat : NamesOther "basic_format"
      (.notALevel "%(levelname)s:%(name)s:%(message)s") := by
    rw [NamesOther, show Text.upper "basic_format" = "BASIC_FORMAT" by decide]
    exact List.mem_cons_self
  have hstyles : NamesOther "_styles" .wrongType := by
    rw [NamesOther, show Text.upper "_styles" = "_STYLES" by decide]
    exact List.mem_cons_of_mem _ List.mem_cons_self
  constructor
  · exact not_isSetUp_of_namesOther ⟨"basic_format", "json"⟩ hformat
  · exact not_isSetUp_of_namesOther ⟨"_styles", "json"⟩ hstyles

end RecordSearch
