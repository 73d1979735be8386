import EventWire.Proofs.Frame.Checksum
import EventWire.Proofs.Frame.Sending
import EventWire.Proofs.Frame.Successive

namespace EventWire

/-!
# A flipped bit in a header

The checksum of a frame tells it from every octet string that differs from it in
one octet, so a frame of which one bit is flipped is a frame no more, as long as
its length is still read as it was.  What a decoder then takes are frames that
stand inside the damaged one, which its payload is free to hold, and the frame
behind it, unless one of those inside reaches into that.
-/

namespace Frame

/-- The octets with one bit flipped: octets count from the first, their bits from the lowest. -/
def flipBit (octets : Bytes) (bit : Nat) : Bytes :=
  octets.modify (bit / 8) (· ^^^ (1 <<< UInt8.ofNat (bit % 8)))

section FlipBit

variable {octets : Bytes} {bit : Nat}

theorem length_flipBit (octets : Bytes) (bit : Nat) :
    (flipBit octets bit).length = octets.length :=
  List.length_modify _ _ _

/-- Flipping a bit changes one octet and nothing else. -/
theorem exists_flipBit_eq (inside : bit / 8 < octets.length) :
    ∃ front octet another back,
      octets = front ++ octet :: back ∧
        front.length = bit / 8 ∧
        flipBit octets bit = front ++ another :: back ∧
        octet ≠ another := by
  obtain ⟨front, octet, back, shape, position, flipped⟩ :=
    List.exists_of_modify (· ^^^ ((1 : UInt8) <<< UInt8.ofNat (bit % 8))) inside
  have masks : ∀ place < 8, (1 : UInt8) <<< UInt8.ofNat place ≠ 0 := by decide
  refine ⟨front, octet, _, back, shape, position, flipped, fun same => ?_⟩
  refine masks (bit % 8) (Nat.mod_lt _ (by decide)) ?_
  exact (UInt8.xor_right_inj octet).mp ((UInt8.xor_zero).trans same).symm

/-- The two octets in which a frame gives its chunk size. -/
def sizeOctets (octets : Bytes) : Bytes :=
  (octets.drop 2).take 2

theorem sizeOctets_append
    (long : 4 ≤ octets.length)
    (behind : Bytes) :
    sizeOctets (octets ++ behind) = sizeOctets octets := by
  rw [sizeOctets, List.drop_append_of_le_length (by omega),
    List.take_append_of_le_length (by rw [List.length_drop]; omega)]
  rfl

theorem sizeOctets_flipBit (outside : bit / 8 ≠ 2 ∧ bit / 8 ≠ 3) :
    sizeOctets (flipBit octets bit) = sizeOctets octets := by
  rw [sizeOctets, sizeOctets, flipBit]
  rcases Nat.lt_or_ge (bit / 8) 2 with before | behind
  · rw [List.drop_modify_of_lt _ _ _ _ before]
  · have short : (octets.take (2 + 2)).length ≤ bit / 8 := by
      rw [List.length_take]
      omega
    rw [List.take_drop, List.take_drop, List.take_modify, List.modify_eq_self short]

end FlipBit

/-- A header verifies a payload exactly when the octets of both are checked. -/
theorem Header.verifies_iff_checked
    {header : Header}
    {payload : Bytes} :
    header.verifies payload = true ↔ Checked (header.bytes ++ payload) := by
  have checksum : header.expectedChecksum payload =
      Checksum.ofBytes ((header.bytes ++ payload).drop 2) := by
    rw [Header.expectedChecksum, ← Checksum.feed_append]
    rfl
  rw [Header.verifies, beq_iff_eq, checksum]
  exact ⟨congrArg BigEndian.encode16, BigEndian.eq_of_encode16_eq⟩

namespace Sealed

theorem checked_bytes (frame : Sealed) : Checked frame.bytes :=
  Header.verifies_iff_checked.mp frame.verifies

theorem sizeOctets_bytes (frame : Sealed) :
    sizeOctets frame.bytes = BigEndian.encode16 frame.header.chunkSize :=
  rfl

theorem four_le_length_bytes (frame : Sealed) : 4 ≤ frame.bytes.length := by
  rw [length_bytes]
  exact Nat.le_trans (by decide) frame.headerLength_le_length

/-- No two frames differ in one octet alone. -/
theorem eq_of_bytes_eq
    {one other : Sealed}
    {front back : Bytes}
    {octet another : UInt8}
    (oneShape : one.bytes = front ++ octet :: back)
    (otherShape : other.bytes = front ++ another :: back) :
    octet = another := by
  have oneChecked := one.checked_bytes
  have otherChecked := other.checked_bytes
  rw [oneShape, List.append_cons] at oneChecked
  rw [otherShape, List.append_cons] at otherChecked
  have place : front.length + 1 ≤ 2 ∨ 2 ≤ front.length := by omega
  have same : [octet] = [another] :=
    oneChecked.eq_of_append otherChecked rfl (Nat.le_succ 1) place
  exact (List.cons.inj same).1

/-- Frames that give the same chunk size are of the same length. -/
theorem length_eq_of_sizeOctets_eq
    {one other : Sealed}
    (same : sizeOctets one.bytes = sizeOctets other.bytes) :
    one.length = other.length := by
  rw [sizeOctets_bytes, sizeOctets_bytes] at same
  rw [length, length, Header.length, Header.length, Header.payloadLength, Header.payloadLength,
    BigEndian.eq_of_encode16_eq same]

/-- A frame of which a bit outside the chunk size is flipped is a frame no more. -/
theorem front?_flipBit
    {bit : Nat}
    (frame : Sealed)
    (inside : bit / 8 < frame.length)
    (outside : bit / 8 ≠ 2 ∧ bit / 8 ≠ 3)
    (behind : Bytes) :
    front? (flipBit frame.bytes bit ++ behind) = none := by
  cases found : front? (flipBit frame.bytes bit ++ behind) with
  | none => rfl
  | some other =>
      obtain ⟨rest, shape⟩ := front?_eq_some_iff.mp found
      have size : sizeOctets frame.bytes = sizeOctets other.bytes := by
        rw [← sizeOctets_flipBit outside, ← sizeOctets_append other.four_le_length_bytes rest,
          ← shape, sizeOctets_append]
        rw [length_flipBit]
        exact frame.four_le_length_bytes
      have flipped : flipBit frame.bytes bit = other.bytes := by
        refine (List.append_inj shape ?_).1
        rw [length_flipBit, length_bytes, length_bytes, length_eq_of_sizeOctets_eq size]
      rw [← length_bytes] at inside
      obtain ⟨front, octet, another, back, original, -, changed, different⟩ :=
        exists_flipBit_eq inside
      exact absurd (eq_of_bytes_eq original (flipped.symm.trans changed)) different

/-- The event of a frame that carries all of it. -/
def parcel (frame : Sealed) : Parcel :=
  ⟨frame.identity, frame.payload⟩

theorem continues_of_length_lt
    {frame : Sealed}
    (short : frame.length < headerLength + maxChunk) :
    frame.continues = false := by
  refine beq_eq_false_iff_ne.mpr fun more => ?_
  rw [length, Header.length, Header.payloadLength, more] at short
  exact absurd short (by decide)

end Sealed

/-- Frames that carry an event each deliver those events that are not too long. -/
theorem Reassembly.completed_of_final
    {termination : Termination}
    {limit : Nat}
    {frames : List Sealed}
    (final : ∀ frame ∈ frames, frame.continues = false) :
    completed termination limit none frames =
      fitting limit (frames.map Sealed.parcel) := by
  induction frames with
  | nil => rfl
  | cons frame rest inductionHypothesis =>
      rw [List.forall_mem_cons] at final
      have taken :
          take termination limit none frame =
            (if frame.payload.length ≤ limit then [frame.parcel] else [], none) := by
        rw [take, interrupt, absorb, final.1, Option.getD_none, Partial.delivered_grow_fresh]
        rfl
      have others := inductionHypothesis final.2
      rw [completed] at others ⊢
      simp only [run, taken, List.append_assoc, others, List.map_cons, fitting_cons]
      rfl

/-- Octets too few for a full chunk hold no frame behind which more follow. -/
theorem continues_of_mem_successive
    {octets : Bytes}
    (short : octets.length < headerLength + maxChunk) :
    ∀ frame ∈ successive octets, frame.continues = false := fun _ member =>
  Sealed.continues_of_length_lt (Nat.lt_of_le_of_lt (length_le_of_mem_successive member) short)

theorem successive_wire
    {parcel : Parcel}
    (short : parcel.body.length < maxChunk) :
    successive parcel.wire = [.last parcel.identity parcel.body short] := by
  have front := Sealed.front?_bytes_append (.last parcel.identity parcel.body short) []
  rw [List.append_nil] at front
  rw [Parcel.wire_of_lt short, successive_of_front? front, ← Sealed.length_bytes,
    List.drop_length, successive]

section Behind

variable {front : Bytes} {second : Parcel} {limit : Nat}
  (shortFront : front.length < headerLength + maxChunk)
  (short : second.body.length < maxChunk)
  (small : second.body.length ≤ limit)
  (termination : Termination)
include shortFront short small

/-- A frame behind octets that hold none reaching into it is found behind those they hold. -/
theorem drain_push_append_wire (apart : Apart front second.wire) :
    (((Decoder.fresh termination limit).push (front ++ second.wire)).drain true).value.1 =
      fitting limit ((successive front).map Sealed.parcel) ++ [second] := by
  have final :
      ∀ frame ∈ successive front ++ [.last second.identity second.body short],
        frame.continues = false :=
    List.forall_mem_append.mpr
      ⟨continues_of_mem_successive shortFront,
        List.forall_mem_singleton.mpr (Sealed.continues_last short)⟩
  have found : successive (front ++ second.wire) = _ := successive_append apart
  rw [successive_wire short] at found
  have kept : fitting limit [second] = [second] :=
    fitting_of_forall (List.forall_mem_singleton.mpr small)
  have law := @Decoder.drain_atEnd_eq
    ((Decoder.fresh termination limit).push (front ++ second.wire)) rfl
  refine law.trans ?_
  change Reassembly.completed termination limit none (successive (front ++ second.wire)) = _
  rw [found, Reassembly.completed_of_final final, List.map_append, fitting_append]
  exact congrArg (_ ++ ·) kept

/-- A frame behind octets in which none stands is all that is found. -/
theorem drain_push_append_wire_of_none
    (empty : ∀ offset < front.length, frameAt? (front ++ second.wire) offset = none) :
    (((Decoder.fresh termination limit).push (front ++ second.wire)).drain true).value.1 =
      [second] := by
  have apart : Apart front second.wire := fun offset inside frame stands =>
    nomatch (empty offset inside).symm.trans stands
  have nothing : successive front = [] := by
    refine successive_eq_nil fun offset inside => ?_
    cases stands : frameAt? front offset with
    | none => rfl
    | some frame => exact nomatch (empty offset inside).symm.trans (frameAt?_append stands _)
  rw [drain_push_append_wire shortFront short small termination apart, nothing]
  rfl

end Behind

/--
A bit is flipped in the header of a frame, and another frame follows.  Unless the
bit is in the chunk size, no frame stands where the damaged one stood.  Unless a
frame that stands in the damaged octets reaches beyond them, the event of the
other is decoded behind those of the frames that are found in them; and it alone
is decoded if none stands there.
-/
theorem drain_flipBit
    {first second : Parcel}
    {bit limit : Nat}
    (shortFirst : first.body.length < maxChunk)
    (shortSecond : second.body.length < maxChunk)
    (small : second.body.length ≤ limit)
    (inHeader : bit < 8 * headerLength)
    (termination : Termination) :
    let damaged := flipBit first.wire bit
    let decoded :=
      (((Decoder.fresh termination limit).push (damaged ++ second.wire)).drain true).value.1
    (bit / 8 ≠ 2 ∧ bit / 8 ≠ 3 → frameAt? (damaged ++ second.wire) 0 = none) ∧
      (Apart damaged second.wire →
        decoded =
          fitting limit ((successive damaged).map Sealed.parcel) ++ [second]) ∧
      ((∀ offset < damaged.length, frameAt? (damaged ++ second.wire) offset = none) →
        decoded = [second]) := by
  intro damaged decoded
  have octets := Parcel.wire_of_lt shortFirst
  let frame := Sealed.last first.identity first.body shortFirst
  have shortDamaged : damaged.length < headerLength + maxChunk := by
    rw [length_flipBit, octets, Sealed.bytes, List.length_append, Header.length_bytes]
    exact Nat.add_lt_add_left shortFirst _
  have inFrame : bit / 8 < frame.length :=
    Nat.lt_of_lt_of_le (Nat.div_lt_of_lt_mul inHeader) frame.headerLength_le_length
  refine ⟨fun outside => ?_, drain_push_append_wire shortDamaged shortSecond small termination,
    drain_push_append_wire_of_none shortDamaged shortSecond small termination⟩
  change Sealed.front? (flipBit first.wire bit ++ second.wire) = none
  rw [octets]
  exact frame.front?_flipBit inFrame outside _

theorem wire_without_body :
    Parcel.wire ⟨⟨⟨5, 6⟩, ⟨7, 8⟩⟩, []⟩ =
      [0xBA, 0x25, 0, 0, 0, 5, 0, 6, 0, 0, 0, 7, 0, 0, 0, 8] :=
  (Parcel.wire_of_lt (by decide)).trans (by decide +kernel)

theorem wire_of_seven :
    Parcel.wire ⟨⟨⟨1, 2⟩, ⟨3, 4⟩⟩, [7]⟩ =
      [0x80, 0xDE, 0, 1, 0, 1, 0, 2, 0, 0, 0, 3, 0, 0, 0, 4, 7] :=
  (Parcel.wire_of_lt (by decide)).trans (by decide +kernel)

/--
The lowest bit of a frame is flipped whose payload holds another frame, which is
then found.  The lowest bit of a chunk size is flipped, and nothing is found until
the frame behind.
-/
theorem drain_flipBit_sample :
    let identity : Identity := ⟨⟨1, 2⟩, ⟨3, 4⟩⟩
    let inner : Parcel := ⟨⟨⟨5, 6⟩, ⟨7, 8⟩⟩, []⟩
    let second : Parcel := ⟨identity, [7]⟩
    let nested := flipBit (Parcel.wire ⟨identity, inner.wire⟩) 0
    let shortened := flipBit (Parcel.wire ⟨identity, [5]⟩) 24
    let decoded (damaged : Bytes) : List Parcel :=
      (((Decoder.fresh .emptyFrame Decoder.defaultMaxEventSize).push
        (damaged ++ second.wire)).drain true).value.1
    frameAt? (nested ++ second.wire) 0 = none ∧
      Apart nested second.wire ∧
      decoded nested = [inner, second] ∧
      (∀ offset < shortened.length, frameAt? (shortened ++ second.wire) offset = none) ∧
      decoded shortened = [second] := by
  intro identity inner second nested shortened decoded
  have innerWire : inner.wire = _ := wire_without_body
  have secondWire : second.wire = _ := wire_of_seven
  have nestedShort : inner.wire.length < maxChunk := by
    rw [innerWire]
    decide
  have apart : Apart nested second.wire := by
    dsimp only [nested]
    rw [innerWire, Parcel.wire_of_lt (by decide), secondWire]
    decide +kernel
  have inside : successive nested = [.last inner.identity inner.body (by decide)] := by
    dsimp only [nested]
    rw [innerWire, Parcel.wire_of_lt (by decide)]
    decide +kernel
  have empty :
      ∀ offset < shortened.length, frameAt? (shortened ++ second.wire) offset = none := by
    dsimp only [shortened]
    rw [Parcel.wire_of_lt (by decide), secondWire]
    decide +kernel
  obtain ⟨rejected, found, -⟩ :=
    @drain_flipBit ⟨identity, inner.wire⟩ second 0 Decoder.defaultMaxEventSize nestedShort
      (by decide) (by decide) (by decide) .emptyFrame
  obtain ⟨-, -, alone⟩ :=
    @drain_flipBit ⟨identity, [5]⟩ second 24 Decoder.defaultMaxEventSize (by decide) (by decide)
      (by decide) (by decide) .emptyFrame
  refine ⟨rejected (by decide), apart, (found apart).trans ?_, empty, alone empty⟩
  rw [show successive (flipBit _ 0) = _ from inside]
  decide +kernel

/--
A frame in the payload of a damaged frame is decoded, and so is what is left of a
frame whose chunk size is damaged when its checksum happens to be that of the rest.
-/
theorem decodes_inside_damaged :
    let identity : Identity := ⟨⟨1, 2⟩, ⟨3, 4⟩⟩
    let inner : Parcel := ⟨⟨⟨5, 6⟩, ⟨7, 8⟩⟩, []⟩
    let second : Parcel := ⟨identity, [7]⟩
    let decoded (damaged : Bytes) : List Parcel :=
      (((Decoder.fresh .emptyFrame Decoder.defaultMaxEventSize).push
        (damaged ++ second.wire)).drain true).value.1
    decoded (flipBit (Parcel.wire ⟨identity, inner.wire⟩) 0) = [inner, second] ∧
      decoded (flipBit (Parcel.wire ⟨identity, [79, 198]⟩) 25) = [⟨identity, []⟩, second] := by
  intro identity inner second decoded
  have innerWire : inner.wire = _ := wire_without_body
  have secondWire : second.wire = _ := wire_of_seven
  have decoded_eq
      (damaged : Bytes)
      (short : damaged.length < headerLength + maxChunk)
      (apart : Apart damaged second.wire) :
      decoded damaged =
        fitting Decoder.defaultMaxEventSize ((successive damaged).map Sealed.parcel) ++
          [second] :=
    drain_push_append_wire short (by decide) (by decide) .emptyFrame apart
  constructor
  · rw [innerWire, Parcel.wire_of_lt (by decide), decoded_eq _ (by decide +kernel)]
    · decide +kernel
    · rw [secondWire]
      decide +kernel
  · rw [Parcel.wire_of_lt (by decide), decoded_eq _ (by decide +kernel)]
    · decide +kernel
    · rw [secondWire]
      decide +kernel

end Frame

end EventWire
