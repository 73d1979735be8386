import EventWire.Event.Record

namespace EventWire

/-!
# A catalog of monitoring events

The schemas that monitoring endpoints commonly exchange: a log line, a metric,
a note, a heartbeat, the status of a checked service, and a mixed record.
-/

namespace Catalog

/-- A line written by a host. -/
def log : Schema where
  name := "log"
  eventType := ⟨3, 1⟩
  routed := false
  fields := [("host", .unsigned), ("message", .text)]

/-- One measured value. -/
def metric : Schema where
  name := "metric"
  eventType := ⟨3, 2⟩
  routed := false
  fields := [("value", .double)]

/-- A remark addressed to a node. -/
def note : Schema where
  name := "note"
  eventType := ⟨7, 1⟩
  routed := true
  fields := [("text", .text)]

/-- A sign of life. -/
def heartbeat : Schema where
  name := "heartbeat"
  eventType := ⟨1, 99⟩
  routed := false
  fields := []

/-- The outcome of checking a service. -/
def status : Schema where
  name := "status"
  eventType := ⟨1, 24⟩
  routed := true
  fields :=
    [("active", .boolean), ("check_type", .short), ("state", .signed),
      ("service_id", .unsigned), ("last_check", .timestamp), ("output", .text),
      ("latency", .double)]

/-- A record in which fields of varying length stand beside one another. -/
def multi : Schema where
  name := "multi"
  eventType := ⟨9, 5⟩
  routed := true
  fields :=
    [("flag", .boolean), ("s1", .text), ("d1", .double), ("s2", .text),
      ("d2", .double), ("when", .timestamp)]

/-- All schemas of the catalog. -/
def schemas : List Schema :=
  [log, metric, note, heartbeat, status, multi]

/-- The schema of the given name. -/
def schema? (name : String) : Option Schema :=
  schemas.find? fun schema => schema.name = name

end Catalog

end EventWire
