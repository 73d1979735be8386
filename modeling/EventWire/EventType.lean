namespace EventWire

/-!
# Event types

An event type names what an event is about: a category, usually one per
producing module, and an element within that category.  The pair is the key of
the registry and travels in every frame header.
-/

/-- The two-part name of a kind of event. -/
structure EventType where
  category : UInt16
  element : UInt16
  deriving DecidableEq, Inhabited

namespace EventType

/-- Both halves in one word, the category in the high half. -/
def packed (eventType : EventType) : UInt32 :=
  (eventType.category.toUInt32 <<< 16) ||| eventType.element.toUInt32

/-- The event type whose packed form is the given word. -/
def ofPacked (word : UInt32) : EventType where
  category := (word >>> 16).toUInt16
  element := word.toUInt16

/-- An event type reads as its two halves in decimal, joined by a colon. -/
def text (eventType : EventType) : String :=
  toString eventType.category.toNat ++ ":" ++ toString eventType.element.toNat

/-- The order of event types: by category first, then by element. -/
def atMost (left right : EventType) : Bool :=
  left.category < right.category ||
    (left.category == right.category && left.element ≤ right.element)

/-- Event types in ascending order. -/
def sorted (eventTypes : List EventType) : List EventType :=
  eventTypes.mergeSort atMost

/-- The category reserved for the events of the protocol itself. -/
def controlCategory : UInt16 := 0xFFFF

/-- Whether an event belongs to the protocol itself rather than to its users. -/
def isControl (eventType : EventType) : Bool :=
  eventType.category == controlCategory

/-- The type reported by opaque payloads, which are never framed. -/
def raw : EventType := ⟨controlCategory, 0⟩

/-- The type of negotiation records. -/
def versionRecord : EventType := ⟨controlCategory, 1⟩

/-- The type of acknowledgements. -/
def acknowledgement : EventType := ⟨controlCategory, 2⟩

end EventType

end EventWire
