import RecordSearch.Checked.Scalar

namespace RecordSearch

/-!
# Settings of what is observed

How much is logged, and in which form.
-/

/-- The settings of the log. -/
structure ObservabilitySettings where
  logLevel : String
  logFormat : String
deriving DecidableEq, Repr

namespace ObservabilitySettings

/-- The settings without anything given. -/
def default : ObservabilitySettings := ⟨"info", "json"⟩

/-- Settings from given fields. -/
def check (fields : Document) : Checked ObservabilitySettings :=
  ObservabilitySettings.mk
    <$> .field "log_level" (fields.get? "log_level") (.valid default.logLevel) Checked.text
    <*> .field "log_format" (fields.get? "log_format") (.valid default.logFormat) Checked.text

end ObservabilitySettings

end RecordSearch
