import EventWire.Event.Record
import EventWire.Notice

namespace EventWire

/-!
# The registry of event types

The registry knows, for each event type, the record every new event of the
type starts from and the fields that make up its body, in order.  With an entry
an event becomes a body and a body an event again.  A body longer than its
fields is read all the same, so that a reader keeps working when a newer writer
appends fields to a type.
-/

/-- What the registry knows about one event type. -/
structure Entry where
  eventType : EventType
  name : String
  blank : Record
  table : List Field

namespace Entry

/-- The entry that registers a schema's records under the schema's own event type. -/
def ofSchema (schema : Schema) : Entry where
  eventType := schema.eventType
  name := schema.name
  blank := schema.blank
  table := schema.table

end Entry

/-- Entries by event type, in the order of their registration. -/
structure Registry where
  entries : List Entry
  /-- No two entries have one event type. -/
  nodup : (entries.map Entry.eventType).Nodup

namespace Registry

def target : String := "vigil_events::registry"

def registeredNotice (entry : Entry) : Notice where
  level := .debug
  target := target
  message := "registered event type"
  details :=
    [("event_type", .text entry.eventType.text), ("name", .text entry.name),
      ("fields", .count entry.table.length)]

def serializedNotice (eventType : EventType) (length : Nat) : Notice where
  level := .trace
  target := target
  message := "serialized event body"
  details := [("event_type", .text eventType.text), ("bytes", .count length)]

def surplusNotice (eventType : EventType) (length : Nat) : Notice where
  level := .debug
  target := target
  message := "ignoring trailing bytes after last field"
  details := [("event_type", .text eventType.text), ("extra", .count length)]

def deserializedNotice (eventType : EventType) (length : Nat) : Notice where
  level := .trace
  target := target
  message := "deserialized event body"
  details := [("event_type", .text eventType.text), ("bytes", .count length)]

/-- The registry without entries. -/
def empty : Registry where
  entries := []
  nodup := List.nodup_nil

/-- The entry of an event type. -/
def lookup (registry : Registry) (eventType : EventType) : Option Entry :=
  registry.entries.find? fun entry => entry.eventType = eventType

/-- Whether an event type is registered. -/
def contains (registry : Registry) (eventType : EventType) : Bool :=
  (registry.lookup eventType).isSome

/-- The number of entries. -/
def size (registry : Registry) : Nat :=
  registry.entries.length

/-- All entries in the order of their event types. -/
def sorted (registry : Registry) : List Entry :=
  registry.entries.mergeSort fun left right => left.eventType.atMost right.eventType

/-- An event type without an entry is not the type of any entry. -/
theorem not_mem_of_lookup_eq_none
    {registry : Registry}
    {eventType : EventType}
    (missing : registry.lookup eventType = none) :
    eventType ∉ registry.entries.map Entry.eventType := by
  intro member
  obtain ⟨entry, found, same⟩ := List.mem_map.mp member
  have differs := List.find?_eq_none.mp missing entry found
  simp [same] at differs

/-- Register an event type; a type that is registered already keeps its entry. -/
def register (registry : Registry) (entry : Entry) : Noted (Except EventError Registry) :=
  match missing : registry.lookup entry.eventType with
  | some _ => .silent (.error (.duplicateType entry.eventType))
  | none => do
    Noted.give (registeredNotice entry)
    return .ok
      { entries := registry.entries ++ [entry]
        nodup := by
          rw [List.map_append, List.nodup_append]
          refine ⟨registry.nodup, by simp, ?_⟩
          intro left leftMember right rightMember same
          simp only [List.map_cons, List.map_nil, List.mem_singleton] at rightMember
          subst same rightMember
          exact not_mem_of_lookup_eq_none missing leftMember }

/-- Register entries one after the other, passing over those whose type is taken. -/
def registerAll (registry : Registry) : List Entry → Noted Registry
  | [] => .silent registry
  | entry :: rest => do
    match ← registry.register entry with
    | .ok extended => extended.registerAll rest
    | .error _ => registry.registerAll rest

/-- The body that fields make of an event; the first field that fails ends it. -/
def encodeFields (event : Event) : List Field → Except EventError Bytes
  | [] => .ok []
  | field :: rest =>
    match field.getFrom event with
    | none => .error (.accessorMismatch event.eventType field.name)
    | some value =>
      if value.holdsNul then .error (.interiorNul field.name)
      else (encodeFields event rest).map (value.encode ++ ·)

/-- The body of an event. -/
def serialize (registry : Registry) (event : Event) : Noted (Except EventError Bytes) :=
  match registry.lookup event.eventType with
  | none => .silent (.error (.unknownType event.eventType))
  | some entry =>
    match encodeFields event entry.table with
    | .error error => .silent (.error error)
    | .ok body => do
      Noted.give (serializedNotice event.eventType body.length)
      return .ok body

/-- Read fields from a body into a record; what is left of the body comes back. -/
def decodeFields
    (eventType : EventType) :
    List Field → Record → Bytes → Except EventError (Record × Bytes)
  | [], record, input => .ok (record, input)
  | field :: rest, record, input =>
    match FieldValue.decode field.kind field.name input with
    | (.error error, _) => .error error
    | (.ok value, remaining) =>
      match field.set value record with
      | none => .error (.accessorMismatch eventType field.name)
      | some changed => decodeFields eventType rest changed remaining

/-- The record of the given type that a body holds. -/
def deserialize
    (registry : Registry)
    (eventType : EventType)
    (body : Bytes) :
    Noted (Except EventError Record) :=
  match registry.lookup eventType with
  | none => .silent (.error (.unknownType eventType))
  | some entry =>
    match decodeFields eventType entry.table entry.blank body with
    | .error error => .silent (.error error)
    | .ok (record, surplus) => do
      Noted.giveIf (surplus ≠ []) (surplusNotice eventType surplus.length)
      Noted.give (deserializedNotice eventType body.length)
      return .ok record

end Registry

end EventWire
