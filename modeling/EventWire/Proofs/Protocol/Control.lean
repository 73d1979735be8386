import EventWire.Proofs.BigEndian
import EventWire.Proofs.Frame.Cutting
import EventWire.Protocol.Codec

namespace EventWire

/-!
# The events of the protocol itself on the wire

Control events have a body of a fixed shape, so whether they can be written and
what they are read back as depends on no registry of users.  Each fits into one
frame, which is the same under both termination policies.  The frame of a
negotiation record holds no smaller frame, so a decoder that has only part of
it returns nothing.
-/

namespace VersionRecord

/-- The body of a negotiation record. -/
def body (record : VersionRecord) : Bytes :=
  BigEndian.encode32 record.claim.magic ++ BigEndian.encode16 record.claim.major ++
    BigEndian.encode16 record.claim.minor ++ BigEndian.encode16 record.claim.patch ++
    BigEndian.encode32 record.extensions

/-- The parcel that carries a negotiation record. -/
def parcel (record : VersionRecord) : Frame.Parcel where
  identity := ⟨EventType.versionRecord, Route.none⟩
  body := record.body

theorem length_body (record : VersionRecord) : record.body.length = 14 :=
  rfl

theorem serialize_toRecord (record : VersionRecord) :
    (Registry.control.value.serialize (.record record.toRecord)).value = .ok record.body :=
  rfl

theorem deserialize_body (record : VersionRecord) :
    (Registry.control.value.deserialize EventType.versionRecord record.body).value =
      .ok record.toRecord := by
  have read :
      (Registry.control.value.deserialize EventType.versionRecord record.body).value =
        .ok
          (toRecord
            { claim :=
                ⟨BigEndian.decode32 _ _ _ _, BigEndian.decode16 _ _, BigEndian.decode16 _ _,
                  BigEndian.decode16 _ _⟩
              extensions := BigEndian.decode32 _ _ _ _ }) :=
    rfl
  rw [read]
  simp only [BigEndian.decode32_encode32, BigEndian.decode16_encode16]

/-- What a record says it offers is what its sender offered. -/
@[simp] theorem offered_offering (extensions : Extensions) :
    (offering extensions).offered = extensions := by
  obtain ⟨compression, coarse⟩ := extensions
  cases compression <;> cases coarse <;> rfl

/-- Every record that this library sends is accepted by it. -/
@[simp] theorem validate_offering (extensions : Extensions) :
    (offering extensions).validate = .ok () :=
  rfl

end VersionRecord

namespace Acknowledgement

/-- The parcel that carries an acknowledgement. -/
def parcel (acknowledgement : Acknowledgement) : Frame.Parcel where
  identity := ⟨EventType.acknowledgement, Route.none⟩
  body := BigEndian.encode32 acknowledgement.count

theorem serialize_toRecord (acknowledgement : Acknowledgement) :
    (Registry.control.value.serialize (.record acknowledgement.toRecord)).value =
      .ok acknowledgement.parcel.body :=
  rfl

theorem deserialize_body (acknowledgement : Acknowledgement) :
    (Registry.control.value.deserialize EventType.acknowledgement
        acknowledgement.parcel.body).value =
      .ok acknowledgement.toRecord := by
  have read :
      (Registry.control.value.deserialize EventType.acknowledgement
          acknowledgement.parcel.body).value =
        .ok (Acknowledgement.mk (BigEndian.decode32 _ _ _ _)).toRecord :=
    rfl
  rw [read, BigEndian.decode32_encode32]

end Acknowledgement

namespace Codec

variable {codec : Codec}

section Appending

variable {record : Record} {body : Bytes}

/-- A control event is written by the control registry, in one frame if its body is short. -/
theorem value_append_of_control
    (control : record.eventType.isControl = true)
    (serialized : (codec.control.serialize (.record record)).value = .ok body)
    (short : body.length < Frame.maxChunk)
    (written : Bytes) :
    ∃ count,
      (codec.append (.record record) written).value =
        (.ok count,
          written ++ Frame.Parcel.wire ⟨⟨record.eventType, record.route⟩, body⟩) := by
  have registryIsControl :
      codec.registryFor (Event.record record).eventType = codec.control := by
    rw [registryFor, Event.eventType, control]
    rfl
  rw [append, Noted.value_bind, registryIsControl, serialized,
    ← Frame.flatten_frames_of_lt short ⟨record.eventType, record.route⟩ codec.termination]
  exact ⟨_, rfl⟩

end Appending

variable (standard : codec.control = Registry.control.value)
include standard

theorem value_append_versionRecord (record : VersionRecord) (written : Bytes) :
    ∃ count,
      (codec.append (.record record.toRecord) written).value =
        (.ok count, written ++ record.parcel.wire) := by
  refine value_append_of_control (by rfl) ?_ ?_ written
  · rw [standard]
    exact record.serialize_toRecord
  · rw [record.length_body]
    decide

theorem value_append_acknowledgement (acknowledgement : Acknowledgement) (written : Bytes) :
    ∃ count,
      (codec.append (.record acknowledgement.toRecord) written).value =
        (.ok count, written ++ acknowledgement.parcel.wire) := by
  refine value_append_of_control (by rfl) ?_ ?_ written
  · rw [standard]
    exact acknowledgement.serialize_toRecord
  · exact (by decide : 4 < Frame.maxChunk)

theorem value_open?_versionRecord (record : VersionRecord) :
    (codec.open? record.parcel).value = some record.toRecord := by
  have registryIsControl :
      codec.registryFor record.parcel.identity.eventType = Registry.control.value :=
    standard
  rw [open?, Noted.value_bind, registryIsControl]
  rw [show (Registry.control.value.deserialize record.parcel.identity.eventType
    record.parcel.body).value = .ok record.toRecord from record.deserialize_body]
  rfl

theorem value_open?_acknowledgement (acknowledgement : Acknowledgement) :
    (codec.open? acknowledgement.parcel).value = some acknowledgement.toRecord := by
  have registryIsControl :
      codec.registryFor acknowledgement.parcel.identity.eventType = Registry.control.value :=
    standard
  rw [open?, Noted.value_bind, registryIsControl]
  rw [show (Registry.control.value.deserialize acknowledgement.parcel.identity.eventType
    acknowledgement.parcel.body).value = .ok acknowledgement.toRecord from
      acknowledgement.deserialize_body]
  rfl

end Codec

namespace VersionRecord

/-- The octets by which an end offers extensions to its peer. -/
def greeting (extensions : Extensions) : Bytes :=
  (offering extensions).parcel.wire

/-- The frame of a record that offers extensions. -/
def greetingFrame (extensions : Extensions) : Frame.Sealed :=
  .last (offering extensions).parcel.identity (offering extensions).body
    (by rw [length_body]; decide)

theorem greeting_eq (extensions : Extensions) :
    greeting extensions = (greetingFrame extensions).bytes :=
  Frame.Parcel.wire_of_lt _

theorem length_greeting (extensions : Extensions) : (greeting extensions).length = 30 := by
  rw [greeting_eq]
  rfl

/-- What has arrived of octets that open with a record is a part of it, or holds it as a whole. -/
theorem greeting_cases
    {extensions : Extensions}
    {arrived coming behind : Bytes}
    (sent : arrived ++ coming = greeting extensions ++ behind) :
    (arrived <+: greeting extensions ∧ arrived.length < 30 ∧ coming ≠ []) ∨
      ∃ extra, arrived = greeting extensions ++ extra ∧ extra ++ coming = behind := by
  have begins : arrived <+: greeting extensions ++ behind := sent ▸ List.prefix_append ..
  by_cases unfinished : arrived.length < 30
  · refine .inl ⟨?_, unfinished, ?_⟩
    · refine List.prefix_of_prefix_length_le begins (List.prefix_append _ behind) ?_
      rw [length_greeting]
      exact Nat.le_of_lt unfinished
    · rintro rfl
      have lengths := congrArg List.length sent
      rw [List.append_nil, List.length_append, length_greeting] at lengths
      omega
  · obtain ⟨extra, rfl⟩ : greeting extensions <+: arrived := by
      refine List.prefix_of_prefix_length_le (List.prefix_append _ behind) begins ?_
      rw [length_greeting]
      exact Nat.le_of_not_lt unfinished
    rw [List.append_assoc, List.append_cancel_left_eq] at sent
    exact .inr ⟨extra, rfl, sent⟩

/-- No frame stands inside a record that has not arrived as a whole. -/
theorem framesIn_take_greeting :
    ∀ (compression coarse : Bool) (length : Fin 30),
      Frame.framesIn ((greetingFrame ⟨compression, coarse⟩).bytes.take length) = [] := by
  decide +kernel

end VersionRecord

end EventWire
