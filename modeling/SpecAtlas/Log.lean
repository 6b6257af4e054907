import SpecAtlas.Event
import SpecAtlas.Value.Detail

/-!
# Logging events

A log shows an event as its name and its details, in order. A log with a threshold takes only
what is at least as grave, and never what has no positive level.
-/

namespace SpecAtlas

open Text

/-- A detail in a log. -/
def logDetail (detail : Text × Value) : Text := detail.1 ++ '=' :: detail.2.detail

/-- An event as a log shows it. -/
def EventRecord.message (e : EventRecord) : Text :=
  if e.details.isEmpty then e.name else e.name ++ ": ".toList ++ join ", ".toList (e.details.map logDetail)

/-- What a log with a threshold shows of events that are logged at a level. -/
def logged (threshold level : Int) (events : List EventRecord) : List Text :=
  if threshold ≤ level && 0 < level then events.map EventRecord.message else []

end SpecAtlas
