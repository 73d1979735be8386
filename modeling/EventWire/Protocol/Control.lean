import EventWire.Event.Registry
import EventWire.Protocol.Error

namespace EventWire

/-!
# The events of the protocol itself

Two ends open with a negotiation record each, which names the protocol, its
version and the extensions its sender offers, and later tell each other how
many events they have taken.  Both are records of schemas of their own, and the
control registry knows them and nothing else.
-/

/-- The extensions of the protocol that an end offers or that both have agreed on. -/
structure Extensions where
  compression : Bool
  coarse : Bool
  deriving DecidableEq

namespace Extensions

/-- No extension at all. -/
def none : Extensions := ⟨false, false⟩

/-- A set of extensions as bits. -/
def bits (extensions : Extensions) : UInt32 :=
  (if extensions.compression then 1 else 0) + (if extensions.coarse then 2 else 0)

/-- The extensions that bits stand for; bits without a meaning are dropped. -/
def ofBits (bits : UInt32) : Extensions where
  compression := bits &&& 1 ≠ 0
  coarse := bits &&& 2 ≠ 0

/-- The extensions in both of two sets. -/
def inter (left right : Extensions) : Extensions where
  compression := left.compression && right.compression
  coarse := left.coarse && right.coarse

/-- How a set of extensions is described. -/
def description (extensions : Extensions) : String :=
  let names :=
    (if extensions.compression then ["COMPRESSION"] else []) ++
      (if extensions.coarse then ["COARSE"] else [])
  "Extensions(" ++ (if names.isEmpty then "0x0" else " | ".intercalate names) ++ ")"

end Extensions

/-- A negotiation record. -/
structure VersionRecord where
  claim : VersionClaim
  extensions : UInt32
  deriving DecidableEq

namespace VersionRecord

/-- The number that opens every negotiation record. -/
def magic : UInt32 := 0x5647494C

/-- The major version; ends with different ones do not understand each other. -/
def major : UInt16 := 2

/-- The version this library speaks. -/
def spoken : VersionClaim := ⟨magic, major, 0, 0⟩

/-- The record of an end that offers the given extensions. -/
def offering (extensions : Extensions) : VersionRecord where
  claim := spoken
  extensions := extensions.bits

/-- The extensions that a record offers. -/
def offered (record : VersionRecord) : Extensions :=
  .ofBits record.extensions

/-- Refuse a record with a wrong magic or another major version. -/
def validate (record : VersionRecord) : Except ProtocolError Unit :=
  if record.claim.magic = magic ∧ record.claim.major = major then .ok ()
  else .error (.versionMismatch record.claim)

/-- The number written in `length` octets of a body, zero if they are not all there. -/
def numberAt (body : Bytes) (position length : Nat) : Nat :=
  if position + length ≤ body.length then
    ((body.drop position).take length).foldl (fun number octet => 256 * number + octet.toNat) 0
  else 0

/-- What can be told of the claim of a record whose body does not parse. -/
def claimOfUnreadable (body : Bytes) : VersionClaim where
  magic := .ofNat (numberAt body 0 4)
  major := .ofNat (numberAt body 4 2)
  minor := .ofNat (numberAt body 6 2)
  patch := .ofNat (numberAt body 8 2)

/-- The mismatch to report for a record whose body does not parse. -/
def unreadable (body : Bytes) : ProtocolError :=
  .versionMismatch (claimOfUnreadable body)

/-- The fields of a negotiation record. -/
def schema : Schema where
  name := "version_response"
  eventType := EventType.versionRecord
  routed := false
  fields :=
    [("magic", .unsigned), ("major", .short), ("minor", .short), ("patch", .short),
      ("extensions", .unsigned)]

/-- A negotiation record as an event record. -/
def toRecord (record : VersionRecord) : Record where
  schema := schema
  eventType := EventType.versionRecord
  route := Route.none
  values :=
    [.unsigned record.claim.magic, .short record.claim.major, .short record.claim.minor,
      .short record.claim.patch, .unsigned record.extensions]
  kinds_eq := rfl
  route_eq := fun _ => rfl

/-- The negotiation record that an event record is. -/
def ofRecord? (record : Record) : Option VersionRecord :=
  if record.schema = schema then
    match record.values with
    | [.unsigned magic, .short major, .short minor, .short patch, .unsigned extensions] =>
      some ⟨⟨magic, major, minor, patch⟩, extensions⟩
    | _ => none
  else none

/-- Reading back what was written gives the same record. -/
@[simp] theorem ofRecord?_toRecord (record : VersionRecord) :
    ofRecord? record.toRecord = some record := by
  simp [ofRecord?, toRecord]

end VersionRecord

/-- A report of how many events have been taken since the last one. -/
structure Acknowledgement where
  count : UInt32
  deriving DecidableEq

namespace Acknowledgement

/-- The fields of an acknowledgement. -/
def schema : Schema where
  name := "ack"
  eventType := EventType.acknowledgement
  routed := false
  fields := [("acknowledged_events", .unsigned)]

/-- An acknowledgement as an event record. -/
def toRecord (acknowledgement : Acknowledgement) : Record where
  schema := schema
  eventType := EventType.acknowledgement
  route := Route.none
  values := [.unsigned acknowledgement.count]
  kinds_eq := rfl
  route_eq := fun _ => rfl

/-- The acknowledgement that an event record is. -/
def ofRecord? (record : Record) : Option Acknowledgement :=
  if record.schema = schema then
    match record.values with
    | [.unsigned count] => some ⟨count⟩
    | _ => none
  else none

/-- Reading back what was written gives the same acknowledgement. -/
@[simp] theorem ofRecord?_toRecord (acknowledgement : Acknowledgement) :
    ofRecord? acknowledgement.toRecord = some acknowledgement := by
  simp [ofRecord?, toRecord]

end Acknowledgement

namespace Registry

/-- The registry of the protocol's own events. -/
def control : Noted Registry :=
  Registry.empty.registerAll
    [{ Entry.ofSchema VersionRecord.schema with
        blank := (VersionRecord.offering .none).toRecord },
      Entry.ofSchema Acknowledgement.schema]

end Registry

end EventWire
