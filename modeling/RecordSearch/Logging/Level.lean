import RecordSearch.Error
import RecordSearch.Settings.Observability

namespace RecordSearch

/-!
# Levels of logging

Lines below a level are not logged. The level is given by a word in any case; a word that
names no level stands for the level of information.

* `levelNamed`: what a word in upper case names;
* `LoggingSetup.of`: the levels of the root logger and of the transport, and the form of the
  lines. Above the level of debugging the transport logs warnings at most;
* `setUpLogging`: the levels of all loggers after the setup.
-/

/-- The upper case of a character, as far as it is ASCII; other characters stay. -/
def upperChar (c : Char) : List Char :=
  if c.toNat < 0x80 then [c.toUpper]
  else match c with
    | 'ß' => ['S', 'S']
    | 'ı' => ['I']
    | 'ſ' => ['S']
    | 'ﬀ' => ['F', 'F']
    | 'ﬁ' => ['F', 'I']
    | 'ﬂ' => ['F', 'L']
    | 'ﬃ' => ['F', 'F', 'I']
    | 'ﬄ' => ['F', 'F', 'L']
    | 'ﬅ' => ['S', 'T']
    | 'ﬆ' => ['S', 'T']
    | c => [c]

/-- A word in upper case. Names hold ASCII only, so the upper case of other characters does
    not matter. -/
def upperWord (word : String) : String := String.ofList (word.toList.flatMap upperChar)

/-- What a word in upper case names. -/
inductive LevelName where
  | level (number : Nat)
  | text (text : String)
  | styles
  | nothing
deriving DecidableEq, Repr

/-- What a word in upper case names: a level, the format of a line, the table of styles, or
    nothing. -/
def levelNamed : String → LevelName
  | "CRITICAL" | "FATAL" => .level 50
  | "ERROR" => .level 40
  | "WARNING" | "WARN" => .level 30
  | "INFO" => .level 20
  | "DEBUG" => .level 10
  | "NOTSET" => .level 0
  -- These two are found by the same look-up as the levels, but they are none.
  | "BASIC_FORMAT" => .text "%(levelname)s:%(name)s:%(message)s"
  | "_STYLES" => .styles
  | _ => .nothing

/-- The level of debugging. -/
def debugLevel : Nat := 10

/-- The level of information. -/
def infoLevel : Nat := 20

/-- The level of warnings. -/
def warningLevel : Nat := 30

/-- The level that a word stands for. -/
def levelOf (word : String) : Except Error Nat :=
  match levelNamed (upperWord word) with
  | .level number => .ok number
  -- A word that names nothing is not refused.
  | .nothing => .ok infoLevel
  | .text text => .error (.notALevel text)
  | .styles => .error .wrongType

/-- The form of the lines. -/
inductive LineForm where
  | json
  | console
deriving DecidableEq, Repr

/-- The levels of the loggers and the form of the lines. -/
structure LoggingSetup where
  root : Nat
  transport : Nat
  form : LineForm
deriving DecidableEq, Repr

/-- The level of the transport for a level of the root logger. -/
def transportLevel (root : Nat) : Nat :=
  if root ≤ debugLevel then root else max root warningLevel

/-- The setup that settings ask for. -/
def LoggingSetup.of (settings : ObservabilitySettings) : Except Error LoggingSetup := do
  let root ← levelOf settings.logLevel
  return ⟨root, transportLevel root,
    if settings.logFormat = "console" then .console else .json⟩

/-! ### Loggers -/

/-- The levels of loggers by their names. -/
abbrev LoggerLevels := String → Nat

/-- The name of the root logger. -/
def rootLogger : String := "root"

/-- The loggers of the transport, on which every request is logged. -/
def transportLoggers : List String := ["opensearch", "opensearchpy.trace"]

namespace LoggerLevels

/-- The levels before any setup. The root logger, which has no handler yet, logs warnings, and the
    other loggers have no level of their own. -/
def fresh : LoggerLevels := fun name => if name = rootLogger then warningLevel else 0

/-- Sets the level of one logger. -/
def set (levels : LoggerLevels) (name : String) (level : Nat) : LoggerLevels :=
  fun other => if other = name then level else levels other

/-- Sets one level for several loggers, one after the other. -/
def setAll (levels : LoggerLevels) (names : List String) (level : Nat) : LoggerLevels :=
  names.foldl (fun (levels : LoggerLevels) name => levels.set name level) levels

end LoggerLevels

/-- Sets up loggers that are fresh: first the root logger, and then those of the transport. -/
def setUpLogging (settings : ObservabilitySettings) : Except Error LoggerLevels := do
  let setup ← LoggingSetup.of settings
  return (LoggerLevels.fresh.set rootLogger setup.root).setAll transportLoggers setup.transport

end RecordSearch
