import GuardedRecords.Json.Value

namespace GuardedRecords

/-- A log event as it is written: with the name of its logger, with a correlation id of its own
unless it has one, and with its text under the name `message`. -/
def completeEvent (event : Record) (logger : Option String) (freshId : String) : Record :=
  let named : Record := event.put "logger" (.text (logger.getD "practicebase"))
  let traced : Record :=
    if named.has "correlation_id" then named else named.put "correlation_id" (.text freshId)
  match traced.lookup? "event" with
  | some text => Table.put (traced.remove "event") "message" text
  | none => traced

end GuardedRecords
