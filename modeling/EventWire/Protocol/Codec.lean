import EventWire.Frame.Decoder
import EventWire.Protocol.Control

namespace EventWire

/-!
# Events as frames

A codec makes frames of an event and an event of the parcel that frames
carried.  The events of the protocol itself are looked up in the control
registry and all others in the users' registry, never the other way round.
-/

/-- The registries and framing rules of one end. -/
structure Codec where
  registry : Registry
  control : Registry
  termination : Frame.Termination
  maxEventSize : Nat

namespace Codec

def target : String := "vigil_protocol::codec"

def encodedNotice (eventType : EventType) (body frames : Nat) : Notice where
  level := .trace
  target := target
  message := "encoded event"
  details :=
    [("event_type", .text eventType.text), ("body", .count body), ("frames", .count frames)]

def unknownNotice (eventType : EventType) (length : Nat) : Notice where
  level := .info
  target := target
  message := "skipping event of unknown type"
  details := [("event_type", .text eventType.text), ("bytes", .count length)]

def undecodableNotice (eventType : EventType) (error : EventError) : Notice where
  level := .warn
  target := target
  message := "skipping undecodable event"
  details := [("event_type", .text eventType.text), ("error", .text error.message)]

/-- A codec over the users' registry. -/
def ofRegistry
    (registry : Registry)
    (termination : Frame.Termination)
    (maxEventSize : Nat) :
    Noted Codec := do
  let control ← Registry.control
  return ⟨registry, control, termination, maxEventSize⟩

/-- The registry that knows events of the given type, if any does. -/
def registryFor (codec : Codec) (eventType : EventType) : Registry :=
  if eventType.isControl then codec.control else codec.registry

/-- A decoder under the codec's framing rules. -/
def decoder (codec : Codec) : Frame.Decoder :=
  .fresh codec.termination codec.maxEventSize

/-- How an error of writing an event reads to the other layers. -/
def writeError : EventError → ProtocolError
  | .unknownType eventType => .unknownType eventType
  | error => .event error

/--
Append the frames of an event to what has been written, and count them.

When the event has no body nothing is appended.
-/
def append
    (codec : Codec)
    (event : Event)
    (written : Bytes) :
    Noted (Except ProtocolError Nat × Bytes) := do
  match ← (codec.registryFor event.eventType).serialize event with
  | .error error => return (.error (writeError error), written)
  | .ok body =>
    let frames := Frame.frames ⟨event.eventType, event.route⟩ codec.termination body
    Noted.give (encodedNotice event.eventType body.length frames.length)
    return (.ok frames.length, written ++ frames.flatten)

/--
The event that a parcel holds.

A parcel of an unknown type, or whose body does not parse, holds none; its
frames have been used up all the same.
-/
def open? (codec : Codec) (parcel : Frame.Parcel) : Noted (Option Record) := do
  let eventType := parcel.identity.eventType
  match ← (codec.registryFor eventType).deserialize eventType parcel.body with
  | .ok record => return some (record.setRoute parcel.identity.route)
  | .error (.unknownType _) =>
    Noted.give (unknownNotice eventType parcel.body.length)
    return none
  | .error error =>
    Noted.give (undecodableNotice eventType error)
    return none

end Codec

end EventWire
