import EventWire.Frame.Decoder
import EventWire.Proofs.Frame.Header

namespace EventWire

/-!
# Sealed frames among octets

A sealed frame is a header with the payload it announces and the checksum for
it.  Octets hold one at an offset when the header found there is followed by
its whole payload and verifies it, which is to say that the octets of the frame
stand there.
-/

namespace Frame

/-- A header with as many octets behind it as it announces, and their checksum. -/
structure Sealed where
  header : Header
  payload : Bytes
  /-- The payload is as long as the header says. -/
  length_payload : payload.length = header.payloadLength
  /-- The header carries the checksum for the payload. -/
  verifies : header.verifies payload = true
  deriving DecidableEq

namespace Sealed

/-- What ties the frame to the others of its event. -/
def identity (frame : Sealed) : Identity :=
  frame.header.identity

/-- Whether more frames of the same event follow. -/
def continues (frame : Sealed) : Bool :=
  frame.header.continues

/-- The octets of a frame. -/
def bytes (frame : Sealed) : Bytes :=
  frame.header.bytes ++ frame.payload

/-- The number of octets of a frame. -/
def length (frame : Sealed) : Nat :=
  frame.header.length

@[simp] theorem length_bytes (frame : Sealed) :
    frame.bytes.length = frame.length := by
  simp [bytes, length, Header.length, frame.length_payload]

theorem headerLength_le_length (frame : Sealed) :
    headerLength ≤ frame.length :=
  Nat.le_add_right _ _

theorem length_pos (frame : Sealed) :
    0 < frame.length :=
  frame.header.length_pos

/-- The frame that octets begin with. -/
def front? (octets : Bytes) : Option Sealed :=
  match Header.parse? octets with
  | none => none
  | some (header, behind) =>
    if whole : header.payloadLength ≤ behind.length ∧
        header.verifies (behind.take header.payloadLength) = true then
      some
        { header := header
          payload := behind.take header.payloadLength
          length_payload := by simp [whole.1]
          verifies := whole.2 }
    else none

/-- A frame is read back from its octets. -/
@[simp] theorem front?_bytes_append
    (frame : Sealed)
    (rest : Bytes) :
    front? (frame.bytes ++ rest) = some frame := by
  obtain ⟨header, payload, fits, verified⟩ := frame
  have taken : (payload ++ rest).take header.payloadLength = payload := by
    rw [← fits]
    exact List.take_left
  have enough : header.payloadLength ≤ (payload ++ rest).length := by
    rw [List.length_append, fits]
    exact Nat.le_add_right _ _
  simp only [front?, bytes, List.append_assoc, Header.parse?_bytes_append]
  rw [dif_pos ⟨enough, by rw [taken]; exact verified⟩]
  simp only [taken]

/-- Octets begin with a frame exactly when they begin with its octets. -/
theorem front?_eq_some_iff
    {octets : Bytes}
    {frame : Sealed} :
    front? octets = some frame ↔ ∃ rest, octets = frame.bytes ++ rest := by
  constructor
  · intro found
    unfold front? at found
    split at found
    · simp at found
    · next header behind parsed =>
        split at found
        · next whole =>
            cases Option.some.inj found
            refine ⟨behind.drop header.payloadLength, ?_⟩
            rw [Header.eq_append_of_parse? parsed, bytes, List.append_assoc,
              List.take_append_drop]
        · simp at found
  · rintro ⟨rest, rfl⟩
    exact front?_bytes_append frame rest

/-- A header whose payload has arrived and verifies begins a frame. -/
theorem exists_front?_of_parse?
    {octets behind : Bytes}
    {header : Header}
    (parsed : Header.parse? octets = some (header, behind))
    (arrived : header.payloadLength ≤ behind.length)
    (verified : header.verifies (behind.take header.payloadLength) = true) :
    ∃ frame, front? octets = some frame ∧ frame.header = header := by
  refine ⟨⟨header, behind.take header.payloadLength, by simp [arrived], verified⟩, ?_, rfl⟩
  simp only [front?, parsed]
  exact dif_pos ⟨arrived, verified⟩

/-- The header of the frame that octets begin with is the one read there, and it verifies. -/
theorem header_of_front?
    {octets behind : Bytes}
    {header : Header}
    {frame : Sealed}
    (parsed : Header.parse? octets = some (header, behind))
    (found : front? octets = some frame) :
    frame.header = header ∧ header.verifies (behind.take header.payloadLength) = true := by
  simp only [front?, parsed] at found
  split at found
  · next whole =>
      cases Option.some.inj found
      exact ⟨rfl, whole.2⟩
  · simp at found

end Sealed

/-- The frame that stands at an offset. -/
def frameAt? (octets : Bytes) (offset : Nat) : Option Sealed :=
  Sealed.front? (octets.drop offset)

@[simp] theorem frameAt?_zero (octets : Bytes) :
    frameAt? octets 0 = Sealed.front? octets :=
  rfl

@[simp] theorem frameAt?_drop
    (octets : Bytes)
    (dropped offset : Nat) :
    frameAt? (octets.drop dropped) offset = frameAt? octets (dropped + offset) := by
  rw [frameAt?, frameAt?, List.drop_drop]

/-- A frame lies within the octets it stands in. -/
theorem add_length_le_of_frameAt?
    {octets : Bytes}
    {offset : Nat}
    {frame : Sealed}
    (found : frameAt? octets offset = some frame) :
    offset + frame.length ≤ octets.length := by
  obtain ⟨rest, shape⟩ := Sealed.front?_eq_some_iff.mp found
  have lengths := congrArg List.length shape
  rw [List.length_drop, List.length_append, Sealed.length_bytes] at lengths
  have positive := frame.length_pos
  omega

/-- What stands behind the octets does not disturb a frame in them. -/
theorem frameAt?_append
    {octets : Bytes}
    {offset : Nat}
    {frame : Sealed}
    (found : frameAt? octets offset = some frame)
    (behind : Bytes) :
    frameAt? (octets ++ behind) offset = some frame := by
  have inside := add_length_le_of_frameAt? found
  obtain ⟨rest, shape⟩ := Sealed.front?_eq_some_iff.mp found
  refine Sealed.front?_eq_some_iff.mpr ⟨rest ++ behind, ?_⟩
  rw [List.drop_append_of_le_length (by omega), shape, List.append_assoc]

/-- A frame that lies within a front of the octets stands in the front. -/
theorem frameAt?_of_append
    {octets behind : Bytes}
    {offset : Nat}
    {frame : Sealed}
    (found : frameAt? (octets ++ behind) offset = some frame)
    (inside : offset + frame.length ≤ octets.length) :
    frameAt? octets offset = some frame := by
  obtain ⟨rest, shape⟩ := Sealed.front?_eq_some_iff.mp found
  rw [List.drop_append_of_le_length (by omega)] at shape
  have front : frame.bytes <+: octets.drop offset := by
    refine List.prefix_of_prefix_length_le ⟨rest, shape.symm⟩ (List.prefix_append _ _) ?_
    rw [Sealed.length_bytes, List.length_drop]
    omega
  obtain ⟨remainder, same⟩ := front
  exact Sealed.front?_eq_some_iff.mpr ⟨remainder, same.symm⟩

/-- All frames that stand in the octets, in the order of their offsets. -/
def framesIn : Bytes → List Sealed
  | [] => []
  | octet :: rest => (Sealed.front? (octet :: rest)).toList ++ framesIn rest

/-- Where no frame begins, none is passed over. -/
theorem framesIn_drop
    {octets : Bytes}
    {count : Nat}
    (empty : ∀ offset < count, frameAt? octets offset = none) :
    framesIn (octets.drop count) = framesIn octets := by
  induction octets generalizing count with
  | nil => simp
  | cons octet rest inductionHypothesis =>
      cases count with
      | zero => rfl
      | succ count =>
          have head : Sealed.front? (octet :: rest) = none := empty 0 (by omega)
          rw [List.drop_succ_cons, framesIn, head]
          apply inductionHypothesis
          intro offset before
          exact empty (offset + 1) (by omega)

theorem framesIn_eq_nil_iff
    {octets : Bytes} :
    framesIn octets = [] ↔ ∀ offset, frameAt? octets offset = none := by
  induction octets with
  | nil =>
      refine ⟨fun _ offset => ?_, fun _ => rfl⟩
      rw [frameAt?, List.drop_nil]
      rfl
  | cons octet rest inductionHypothesis =>
      rw [framesIn, List.append_eq_nil_iff, inductionHypothesis, Option.toList_eq_nil_iff]
      constructor
      · rintro ⟨front, behind⟩ offset
        cases offset with
        | zero => exact front
        | succ offset => exact behind offset
      · intro empty
        exact ⟨empty 0, fun offset => empty (offset + 1)⟩

/-- A frame at the front comes before those behind its octets, if none begins inside it. -/
theorem framesIn_of_front?
    {octets : Bytes}
    {frame : Sealed}
    (found : Sealed.front? octets = some frame)
    (whole : ∀ offset, 0 < offset → offset < frame.length → frameAt? octets offset = none) :
    framesIn octets = frame :: framesIn (octets.drop frame.length) := by
  have positive := frame.length_pos
  cases octets with
  | nil => simp [Sealed.front?, Header.parse?] at found
  | cons octet rest =>
      obtain ⟨length, lengthEq⟩ : ∃ length, frame.length = length + 1 :=
        ⟨frame.length - 1, by omega⟩
      have skipped : framesIn (rest.drop length) = framesIn rest := by
        apply framesIn_drop
        intro offset before
        exact whole (offset + 1) (by omega) (by omega)
      rw [framesIn, found, lengthEq, List.drop_succ_cons, skipped]
      rfl

/-- No two frames that stand in the octets share an octet. -/
def NonOverlapping (octets : Bytes) : Prop :=
  ∀ (first second : Nat) (frame other : Sealed),
    first < second →
    frameAt? octets first = some frame →
    frameAt? octets second = some other →
    first + frame.length ≤ second

namespace NonOverlapping

/-- Dropping octets leaves the frames behind them apart. -/
theorem drop
    {octets : Bytes}
    (apart : NonOverlapping octets)
    (count : Nat) :
    NonOverlapping (octets.drop count) := by
  intro first second frame other before atFirst atSecond
  rw [frameAt?_drop] at atFirst atSecond
  have separated := apart _ _ _ _ (by omega : count + first < count + second) atFirst atSecond
  omega

/-- Only the offsets within the octets have to be looked at. -/
theorem iff_forall_lt (octets : Bytes) :
    NonOverlapping octets ↔
      ∀ second < octets.length, ∀ first < second,
        ∀ frame ∈ frameAt? octets first, ∀ _other ∈ frameAt? octets second,
          first + frame.length ≤ second := by
  constructor
  · intro apart second _ first before frame atFirst other atSecond
    exact apart first second frame other before atFirst atSecond
  · intro bounded first second frame other before atFirst atSecond
    have inside := add_length_le_of_frameAt? atSecond
    have positive := other.length_pos
    exact bounded second (by omega) first before frame atFirst other atSecond

instance (octets : Bytes) : Decidable (NonOverlapping octets) :=
  decidable_of_iff _ (iff_forall_lt octets).symm

end NonOverlapping

end Frame

end EventWire
