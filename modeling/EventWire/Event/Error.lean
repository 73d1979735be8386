import EventWire.EventType

namespace EventWire

/-!
# What can go wrong with an event

Every error of reading a body names the field that failed, so one line tells
which part of the body was damaged.
-/

/-- Why an event type could not be registered, or an event not written or read. -/
inductive EventError where
  /-- No entry of the registry has this type. -/
  | unknownType (eventType : EventType)
  /-- An entry of the registry already has this type. -/
  | duplicateType (eventType : EventType)
  /-- The body ends inside a field of fixed size. -/
  | truncated (field : String) (needed remaining : Nat)
  /-- The body ends before the NUL that closes a text field. -/
  | missingTerminator (field : String)
  /-- A text to be written holds the NUL that would close it early. -/
  | interiorNul (field : String)
  /-- A text field is not well-formed UTF-8. -/
  | invalidUtf8 (field : String)
  /-- A numeral field holds a text that is no numeral. -/
  | invalidDouble (field text : String)
  /-- A field belongs to another schema than the event's. -/
  | accessorMismatch (eventType : EventType) (field : String)
  deriving DecidableEq

namespace EventError

/-- The sentence that reports an error. -/
def message : EventError → String
  | unknownType eventType => "unknown event type " ++ eventType.text
  | duplicateType eventType =>
    "event type " ++ eventType.text ++ " is already registered"
  | truncated field needed remaining =>
    "field `" ++ field ++ "` needs " ++ toString needed ++ " bytes, " ++
      toString remaining ++ " remain"
  | missingTerminator field => "field `" ++ field ++ "` is missing its NUL terminator"
  | interiorNul field => "field `" ++ field ++ "` contains a NUL character"
  | invalidUtf8 field => "field `" ++ field ++ "` is not valid UTF-8"
  | invalidDouble field text =>
    "field `" ++ field ++ "` holds `" ++ text ++ "`, not a number"
  | accessorMismatch eventType field =>
    "field `" ++ field ++ "` does not apply to event type " ++ eventType.text

end EventError

end EventWire
