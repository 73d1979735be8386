import EventWire.Proofs.Frame.Sending
import Mathlib.Algebra.Order.Floor.Div

namespace EventWire

/-!
# How a body lies on the wire

The frames of a body are appended to what has been written before.  A reader that
knows nothing but headers takes the frames off again and finds the body in them:
full chunks in front, and a last one whose length and mark depend on the
termination policy only where the body fills its chunks.
-/

namespace Frame

/--
Take octets apart into headers and as many octets behind each as it announces,
whatever their checksums say.  There is no answer unless this uses up all octets.
-/
def readFrames? (octets : Bytes) : Option (List (Header × Bytes)) :=
  match Header.parse? octets with
  | none => if octets = [] then some [] else none
  | some (header, behind) =>
    if _whole : header.length ≤ octets.length then
      (readFrames? (octets.drop header.length)).map
        ((header, behind.take header.payloadLength) :: ·)
    else none
termination_by octets.length
decreasing_by
  have positive := header.length_pos
  rw [List.length_drop]
  omega

/-- What a reader of headers makes of a frame. -/
def Sealed.parts (frame : Sealed) : Header × Bytes :=
  (frame.header, frame.payload)

theorem readFrames?_bytes_append
    (frame : Sealed)
    (rest : Bytes) :
    readFrames? (frame.bytes ++ rest) = (readFrames? rest).map (frame.parts :: ·) := by
  have parsed :
      Header.parse? (frame.bytes ++ rest) = some (frame.header, frame.payload ++ rest) := by
    rw [Sealed.bytes, List.append_assoc, Header.parse?_bytes_append]
  have whole : frame.header.length ≤ (frame.bytes ++ rest).length := by
    rw [List.length_append, Sealed.length_bytes]
    exact Nat.le_add_right _ _
  have behind : (frame.bytes ++ rest).drop frame.header.length = rest :=
    List.drop_left' frame.length_bytes
  rw [readFrames?, parsed]
  dsimp only
  rw [dif_pos whole, behind, List.take_left' frame.length_payload]
  rfl

/-- Frames one after the other are read as they are. -/
theorem readFrames?_flatMap_bytes (frames : List Sealed) :
    readFrames? (frames.flatMap Sealed.bytes) = some (frames.map Sealed.parts) := by
  induction frames with
  | nil =>
      rw [List.flatMap_nil, readFrames?]
      rfl
  | cons frame rest inductionHypothesis =>
      rw [List.flatMap_cons, readFrames?_bytes_append, inductionHypothesis, Option.map_some,
        List.map_cons]

/-- The number of frames of a body of some length. -/
def frameCount : Termination → Nat → Nat
  | .emptyFrame, length => length / maxChunk + 1
  | .implicit, length => max length 1 ⌈/⌉ maxChunk

section Count

variable {termination : Termination} {length : Nat}

theorem frameCount_of_lt (short : length < maxChunk) :
    frameCount termination length = 1 := by
  cases termination with
  | emptyFrame => rw [frameCount, Nat.div_eq_of_lt short]
  | implicit =>
      rw [frameCount, Nat.ceilDiv_eq_add_pred_div]
      simp only [maxChunk] at short ⊢
      omega

/-- A full chunk that is not the last takes one frame more than the rest. -/
theorem frameCount_of_le
    (long : maxChunk ≤ length)
    (more : ¬ (length = maxChunk ∧ termination = .implicit)) :
    frameCount termination length = frameCount termination (length - maxChunk) + 1 := by
  cases termination with
  | emptyFrame => rw [frameCount, frameCount, Nat.div_eq_sub_div (by decide) long]
  | implicit =>
      have longer : length ≠ maxChunk := fun exact => more ⟨exact, rfl⟩
      rw [frameCount, frameCount, Nat.ceilDiv_eq_add_pred_div, Nat.ceilDiv_eq_add_pred_div]
      simp only [maxChunk] at long longer ⊢
      omega

end Count

/-- The frames of a body as a reader of headers finds them: those in front, and the last. -/
structure LaidOut
    (termination : Termination)
    (identity : Identity)
    (body : Bytes)
    (front : List (Header × Bytes))
    (last : Header × Bytes) : Prop where
  count : (front ++ [last]).length = frameCount termination body.length
  /-- Every frame is sealed, carries the identity, and is as long as it says. -/
  valid :
    ∀ frame ∈ front ++ [last],
      frame.1.verifies frame.2 = true ∧
        frame.1.identity = identity ∧ frame.1.chunkSize.toNat = frame.2.length
  full : ∀ frame ∈ front, frame.1.chunkSize = moreFollow ∧ frame.2.length = maxChunk
  /-- The last frame looks like one of the others only if nothing is to show the end. -/
  unmarked_iff : last.1.chunkSize = moreFollow ↔ termination = .implicit ∧ Fills body
  length_last :
    last.2.length =
      if termination = .implicit ∧ Fills body then maxChunk else body.length % maxChunk
  payloads : (front ++ [last]).flatMap Prod.snd = body

namespace LaidOut

variable {termination : Termination} {identity : Identity} {body : Bytes}

theorem valid_parts (frame : Sealed) :
    frame.parts.1.verifies frame.parts.2 = true ∧
      frame.parts.1.identity = frame.identity ∧
      frame.parts.1.chunkSize.toNat = frame.parts.2.length :=
  ⟨frame.verifies, rfl, frame.length_payload.symm⟩

/-- A body shorter than a chunk. -/
theorem of_lt (short : body.length < maxChunk) :
    LaidOut termination identity body [] (Sealed.last identity body short).parts where
  count := (frameCount_of_lt short).symm
  valid := List.forall_mem_singleton.mpr (valid_parts _)
  full := List.forall_mem_nil _
  unmarked_iff := by
    have marked : (Sealed.last identity body short).continues = false :=
      Sealed.continues_last short
    refine iff_of_false (fun unmarked => ?_) fun filled => filled.2.not_lt short
    rw [Sealed.continues, Header.continues, beq_eq_false_iff_ne] at marked
    exact marked unmarked
  length_last := by
    rw [if_neg fun filled => filled.2.not_lt short, Nat.mod_eq_of_lt short]
    rfl
  payloads := List.flatMap_singleton _ _

/-- A body that is one chunk, with nothing behind it. -/
theorem of_length_eq
    (exact : body.length = maxChunk)
    (filled : (body.take maxChunk).length = maxChunk) :
    LaidOut .implicit identity body []
      (Sealed.full identity (body.take maxChunk) filled).parts where
  count := by
    rw [exact]
    rfl
  valid := List.forall_mem_singleton.mpr (valid_parts _)
  full := List.forall_mem_nil _
  unmarked_iff := iff_of_true rfl ⟨rfl, .of_length_eq exact⟩
  length_last := by
    rw [if_pos ⟨rfl, .of_length_eq exact⟩]
    exact filled
  payloads := (List.flatMap_singleton _ _).trans (List.take_of_length_le (Nat.le_of_eq exact))

/-- A full chunk in front of the rest of a body. -/
theorem cons
    {front : List (Header × Bytes)}
    {last : Header × Bytes}
    (long : ¬ body.length < maxChunk)
    (more : ¬ (body.length = maxChunk ∧ termination = .implicit))
    (filled : (body.take maxChunk).length = maxChunk)
    (rest : LaidOut termination identity (body.drop maxChunk) front last) :
    LaidOut termination identity body
      ((Sealed.full identity (body.take maxChunk) filled).parts :: front) last where
  count := by
    rw [List.cons_append, List.length_cons, rest.count, List.length_drop,
      ← frameCount_of_le (Nat.le_of_not_lt long) more]
  valid := List.forall_mem_cons.mpr ⟨valid_parts _, rest.valid⟩
  full := List.forall_mem_cons.mpr ⟨⟨rfl, filled⟩, rest.full⟩
  unmarked_iff := rest.unmarked_iff.trans (Fills.unmarked_drop_iff long more)
  length_last := by
    rw [rest.length_last, List.length_drop, ← Nat.mod_eq_sub_mod (Nat.le_of_not_lt long)]
    simp only [Fills.unmarked_drop_iff long more]
  payloads := by
    rw [List.cons_append, List.flatMap_cons, rest.payloads]
    exact List.take_append_drop maxChunk body

end LaidOut

/-- The frames of a body are laid out as the policy says. -/
theorem exists_laidOut
    (termination : Termination)
    (identity : Identity)
    (body : Bytes) :
    ∃ front last,
      (carriersOf termination identity body).map Sealed.parts = front ++ [last] ∧
        LaidOut termination identity body front last := by
  fun_induction carriersOf termination identity body with
  | case1 body short => exact ⟨[], _, rfl, .of_lt short⟩
  | case2 body long inductionHypothesis =>
      have filled : (body.take maxChunk).length = maxChunk :=
        List.length_take.trans (Nat.min_eq_left (Nat.le_of_not_lt long))
      by_cases final : body.length = maxChunk ∧ termination = .implicit
      · obtain ⟨exact, rfl⟩ := final
        rw [if_pos ⟨exact, rfl⟩]
        exact ⟨[], _, rfl, .of_length_eq exact filled⟩
      · obtain ⟨front, last, shape, rest⟩ := inductionHypothesis
        rw [if_neg final, List.map_cons, shape]
        exact ⟨_, last, rfl, rest.cons long final filled⟩

/-- The frames of a body, read one after the other by their headers, are laid out so. -/
theorem exists_readFrames?_frames
    (termination : Termination)
    (identity : Identity)
    (body : Bytes) :
    ∃ front last,
      readFrames? (frames identity termination body).flatten = some (front ++ [last]) ∧
        (front ++ [last]).length = (frames identity termination body).length ∧
        LaidOut termination identity body front last := by
  obtain ⟨front, last, shape, laidOut⟩ := exists_laidOut termination identity body
  refine ⟨front, last, ?_, ?_, laidOut⟩
  · rw [← map_bytes_carriersOf, ← List.flatMap_def, readFrames?_flatMap_bytes, shape]
  · rw [← shape, List.length_map, ← map_bytes_carriersOf, List.length_map]

/--
Encoding a body leaves what has been written before and appends as many frames as it
counts.  Read one after the other by their headers they use up all that was appended,
and they are laid out as the policy says.
-/
theorem appendFrames_laidOut
    (identity : Identity)
    (termination : Termination)
    (written body : Bytes) :
    let encoded := appendFrames identity termination written 0 body
    let appended := (frames identity termination body).flatten
    encoded = (written ++ appended, (frames identity termination body).length) ∧
      encoded.2 = frameCount termination body.length ∧
      ∃ front last,
        readFrames? appended = some (front ++ [last]) ∧
          (front ++ [last]).length = encoded.2 ∧
          LaidOut termination identity body front last := by
  intro encoded appended
  have same : encoded = (written ++ appended, (frames identity termination body).length) := by
    rw [show encoded = _ from appendFrames_eq identity termination written 0 body, Nat.zero_add]
  obtain ⟨front, last, readBack, count, laidOut⟩ :=
    exists_readFrames?_frames termination identity body
  have counted : (front ++ [last]).length = encoded.2 := count.trans (congrArg Prod.snd same).symm
  exact ⟨same, counted.symm.trans laidOut.count, front, last, readBack, counted, laidOut⟩

end Frame

end EventWire
