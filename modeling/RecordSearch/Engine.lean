import RecordSearch.Settings.Layers

namespace RecordSearch

/-!
# Engines

All operations of the library go through one client, which is made together with the engine that
has it. No request is made then.
-/

/-- An engine, by the arguments that its client was made with. -/
structure Engine where
  clientArguments : Document

/-- The engine for settings, whose client is made from those of the connection. -/
def Engine.ofSettings (settings : Settings) : Engine := ⟨settings.connection.clientArguments⟩

end RecordSearch
