import EventWire.Proofs.Frame.Isolation
import EventWire.Proofs.Frame.Sending

namespace EventWire

/-!
# Cutting a stream of whole frames

A search looks behind a candidate that has not fully arrived, so a frame inside
the payload of another is found when it has arrived and the outer one has not.
That is the only way in which the cuts of an undamaged stream matter: where no
cut exposes a frame inside an unfinished one, the decoder waits in front of the
unfinished frame, and otherwise it passes over octets.
-/

namespace Frame

/-- Whether the arrived part of the frame that is unfinished holds a whole frame. -/
def exposes : List Sealed → Nat → Bool
  | [], _ => false
  | frame :: rest, arrived =>
    if arrived < frame.length then !(framesIn (frame.bytes.take arrived)).isEmpty
    else exposes rest (arrived - frame.length)

theorem exposes_append
    (done rest : List Sealed)
    (arrived : Nat) :
    exposes (done ++ rest) (totalLength done + arrived) = exposes rest arrived := by
  induction done with
  | nil => rw [List.nil_append, totalLength_nil, Nat.zero_add]
  | cons frame done inductionHypothesis =>
      have arrivedWhole :
          ¬ frame.length + (totalLength done + arrived) < frame.length :=
        Nat.not_lt.mpr (Nat.le_add_right _ _)
      rw [List.cons_append, exposes, totalLength_cons, Nat.add_assoc, if_neg arrivedWhole,
        Nat.add_sub_cancel_left, inductionHypothesis]

theorem length_flatMap_bytes (frames : List Sealed) :
    (frames.flatMap Sealed.bytes).length = totalLength frames := by
  induction frames with
  | nil => rfl
  | cons frame rest inductionHypothesis =>
      rw [List.flatMap_cons, List.length_append, frame.length_bytes, inductionHypothesis,
        totalLength_cons]

/-- Octets that have arrived of frames none of which is whole among them. -/
structure Unfinished (frames : List Sealed) (part later : Bytes) : Prop where
  shape : part ++ later = frames.flatMap Sealed.bytes
  short : ∀ frame ∈ frames.head?, part.length < frame.length

namespace Unfinished

/-- Octets of frames are those of whole frames and of an unfinished rest. -/
theorem exists_of_append
    {frames : List Sealed}
    {octets later : Bytes}
    (shape : octets ++ later = frames.flatMap Sealed.bytes) :
    ∃ done rest part,
      frames = done ++ rest ∧
        octets = done.flatMap Sealed.bytes ++ part ∧
        Unfinished rest part later := by
  induction frames generalizing octets with
  | nil => exact ⟨[], [], octets, rfl, rfl, shape, by simp⟩
  | cons frame others inductionHypothesis =>
      by_cases short : octets.length < frame.length
      · exact ⟨[], frame :: others, octets, rfl, rfl, shape, by simpa using short⟩
      · rw [List.flatMap_cons] at shape
        obtain ⟨behind, octetsShape⟩ : frame.bytes <+: octets := by
          refine List.prefix_of_prefix_length_le ⟨_, rfl⟩ (shape ▸ List.prefix_append _ _) ?_
          rw [Sealed.length_bytes]
          exact Nat.le_of_not_lt short
        rw [← octetsShape, List.append_assoc, List.append_cancel_left_eq] at shape
        obtain ⟨done, rest, part, rfl, rfl, unfinished⟩ := inductionHypothesis shape
        refine ⟨frame :: done, rest, part, rfl, ?_, unfinished⟩
        rw [← octetsShape, List.flatMap_cons, List.append_assoc]

variable {frames : List Sealed} {part later : Bytes}

theorem shortage_pos (unfinished : Unfinished frames part later) :
    0 < shortage part := by
  obtain ⟨shape, short⟩ := unfinished
  refine Nat.pos_of_ne_zero fun complete => ?_
  have judged := front?_append_of_shortage_eq_zero complete later
  cases frames with
  | nil =>
      obtain ⟨rfl, rfl⟩ := List.append_eq_nil_iff.mp shape
      exact absurd complete (by decide)
  | cons frame rest =>
      rw [shape, List.flatMap_cons, Sealed.front?_bytes_append] at judged
      have inside : 0 + frame.length ≤ part.length := add_length_le_of_frameAt? judged.symm
      have outside := short frame rfl
      omega

theorem exposes_length (unfinished : Unfinished frames part later) :
    exposes frames part.length = !(framesIn part).isEmpty := by
  obtain ⟨shape, short⟩ := unfinished
  cases frames with
  | nil =>
      obtain ⟨rfl, rfl⟩ := List.append_eq_nil_iff.mp shape
      rfl
  | cons frame rest =>
      have within := short frame rfl
      have arrived : frame.bytes.take part.length = part := by
        rw [List.flatMap_cons] at shape
        have fronts := congrArg (List.take part.length) shape
        rw [List.take_left, List.take_append_of_le_length] at fronts
        · exact fronts.symm
        · rw [Sealed.length_bytes]
          exact Nat.le_of_lt within
      rw [exposes, if_pos within, arrived]

theorem frames_eq_nil (unfinished : Unfinished frames part []) :
    frames = [] := by
  obtain ⟨shape, short⟩ := unfinished
  cases frames with
  | nil => rfl
  | cons frame rest =>
      have within := short frame rfl
      have lengths := congrArg List.length shape
      rw [List.append_nil, List.flatMap_cons, List.length_append, Sealed.length_bytes] at lengths
      omega

end Unfinished

/-- Cuts behind a piece see the same of the frames that the piece leaves. -/
theorem exposes_take_succ
    {done rest : List Sealed}
    {piece : Bytes}
    {before after : Nat}
    (lengths : totalLength done + after = before + piece.length)
    (pieces : List Bytes)
    (count : Nat) :
    exposes (done ++ rest) (before + ((piece :: pieces).take (count + 1)).flatten.length) =
      exposes rest (after + (pieces.take count).flatten.length) := by
  rw [List.take_succ_cons, List.flatten_cons, List.length_append, ← Nat.add_assoc, ← lengths,
    Nat.add_assoc, exposes_append]

namespace Decoder

/-- A decoder waits for the rest of an unfinished frame and sees no frame inside it. -/
structure Waits
    (decoder : Decoder)
    (frames : List Sealed)
    (later : Bytes) : Prop where
  unfinished : Unfinished frames decoder.buffer later
  covered : decoder.verified ≤ decoder.buffer.length
  hidden : framesIn decoder.buffer = []

theorem Sound.of_framesIn_eq_nil
    {decoder : Decoder}
    (covered : decoder.verified ≤ decoder.buffer.length)
    (hidden : framesIn decoder.buffer = []) :
    decoder.Sound where
  covered := covered
  unsearched := by
    intro offset frame stands
    rw [framesIn_eq_nil_iff.mp hidden offset] at stands
    simp at stands

/-- Draining never takes back that octets were passed over. -/
theorem skipped_le_drain
    (atEnd : Bool)
    (decoder : Decoder) :
    decoder.skipped ≤ (decoder.drain atEnd).value.2.skipped := by
  induction length : decoder.buffer.length using Nat.strongRecOn generalizing decoder with
  | ind length inductionHypothesis =>
      match searched : rescan decoder.buffer atEnd decoder.verified with
      | .incomplete skipped needed =>
          rw [value_drain_of_incomplete searched]
          exact Nat.le_add_right _ _
      | .exhausted =>
          have ended := atEnd_of_rescan_exhausted searched
          subst ended
          obtain ⟨phase, finished⟩ := value_drain_of_exhausted searched
          rw [finished]
          exact Nat.le_add_right _ _
      | .found skipped header =>
          obtain ⟨frame, rfl, stands, -⟩ := exists_frameAt?_of_rescan searched
          have inside := add_length_le_of_frameAt? stands
          have positive := frame.length_pos
          rw [value_drain_of_found searched stands]
          refine Nat.le_trans ?_ (inductionHypothesis _ ?_ _ rfl)
          · exact Nat.le_add_right _ _
          · simp only [behind, List.length_drop]
            omega

theorem skipped_le_deliver
    (decoder : Decoder)
    (pieces : List Bytes) :
    decoder.skipped ≤ (decoder.deliver pieces).value.2.skipped := by
  induction pieces generalizing decoder with
  | nil => exact Nat.le_refl _
  | cons piece rest inductionHypothesis =>
      exact Nat.le_trans (skipped_le_drain false (decoder.push piece)) (inductionHypothesis _)

section Unfinished

variable {decoder : Decoder} {frames : List Sealed} {later : Bytes}

/-- In front of an unfinished frame that hides no other a decoder waits. -/
theorem value_drain_of_hidden
    (unfinished : Unfinished frames decoder.buffer later)
    (hidden : framesIn decoder.buffer = []) :
    (decoder.drain false).value = ([], (decoder.await 0).value) := by
  match searched : rescan decoder.buffer false decoder.verified with
  | .found skipped header =>
      obtain ⟨frame, rfl, stands, -⟩ := exists_frameAt?_of_rescan searched
      rw [framesIn_eq_nil_iff.mp hidden skipped] at stands
      simp at stands
  | .exhausted => exact absurd (atEnd_of_rescan_exhausted searched) Bool.false_ne_true
  | .incomplete skipped needed =>
      obtain ⟨-, -, -, arrived⟩ := lacking_of_rescan searched
      rw [value_drain_of_incomplete searched]
      cases skipped with
      | zero => rfl
      | succ skipped =>
          have complete := arrived 0 (Nat.le_refl _) (Nat.zero_lt_succ _)
          rw [List.drop_zero] at complete
          exact absurd unfinished.shortage_pos (by rw [complete]; exact Nat.lt_irrefl 0)

/-- A frame that has arrived inside an unfinished one is taken in its place. -/
theorem skipped_lt_drain_of_exposed
    (unfinished : Unfinished frames decoder.buffer later)
    (sound : decoder.Sound)
    (exposed : framesIn decoder.buffer ≠ []) :
    decoder.skipped < (decoder.drain false).value.2.skipped := by
  match searched : rescan decoder.buffer false decoder.verified with
  | .found skipped header =>
      obtain ⟨frame, rfl, stands, -⟩ := exists_frameAt?_of_rescan searched
      have passed : 0 < skipped := by
        refine Nat.pos_of_ne_zero fun atFront => ?_
        rw [atFront, frameAt?_zero,
          front?_eq_none_of_shortage_pos unfinished.shortage_pos] at stands
        simp at stands
      rw [value_drain_of_found searched stands]
      exact Nat.lt_of_lt_of_le (Nat.lt_add_of_pos_right passed)
        (skipped_le_drain false (decoder.behind skipped frame _))
  | .exhausted => exact absurd (atEnd_of_rescan_exhausted searched) Bool.false_ne_true
  | .incomplete skipped needed =>
      obtain ⟨searchedBefore, -, -, -⟩ := lacking_of_rescan searched
      refine absurd (framesIn_eq_nil_iff.mpr fun offset => ?_) exposed
      by_cases inside : offset < decoder.buffer.length
      · exact sound.frameAt?_eq_none searchedBefore inside
      · rw [frameAt?, List.drop_eq_nil_of_le (Nat.le_of_not_lt inside)]
        rfl

end Unfinished

/-- A piece lets a decoder take the frames it completes and come to an unfinished one. -/
theorem exists_unfinished_of_push
    {decoder : Decoder}
    {frames : List Sealed}
    {piece later : Bytes}
    (waits : decoder.Waits frames (piece ++ later)) :
    ∃ done rest parcels left,
      frames = done ++ rest ∧
        decoder.Follows done parcels left ∧
        left.skipped = decoder.skipped ∧
        totalLength done + left.buffer.length = decoder.buffer.length + piece.length ∧
        Unfinished rest left.buffer later ∧
        left.Sound ∧
        ((decoder.push piece).drain false).value =
          (parcels ++ (left.drain false).value.1, (left.drain false).value.2) := by
  have shape : (decoder.buffer ++ piece) ++ later = frames.flatMap Sealed.bytes := by
    rw [List.append_assoc, waits.unfinished.shape]
  obtain ⟨done, rest, part, rfl, arrived, unfinished⟩ := Unfinished.exists_of_append shape
  have unsearched :
      ∀ frame ∈ done.head?, (decoder.push piece).verified < frame.length := by
    intro frame first
    refine Nat.lt_of_le_of_lt waits.covered (waits.unfinished.short frame ?_)
    rw [List.head?_append, first]
    rfl
  have lengths := congrArg List.length arrived
  rw [List.length_append, List.length_append, length_flatMap_bytes] at lengths
  let followed := Reassembly.run decoder.termination decoder.maxEventSize decoder.held done
  refine ⟨done, rest, followed.1,
    { decoder with
      buffer := part
      held := followed.2
      verified := if done = [] then decoder.verified else 0 },
    rfl, ⟨rfl, rfl, rfl⟩, rfl, lengths.symm, unfinished, ?_,
    value_drain_of_frames arrived unsearched⟩
  cases done with
  | nil =>
      have sound := (Sound.of_framesIn_eq_nil waits.covered waits.hidden).push piece
      rw [List.flatMap_nil, List.nil_append] at arrived
      subst arrived
      exact ⟨sound.covered, sound.unsearched⟩
  | cons frame others => exact .of_verified_eq_zero rfl

/-- A piece that exposes no frame leaves the decoder in front of the next unfinished one. -/
theorem exists_waits_of_push
    {decoder : Decoder}
    {frames : List Sealed}
    {piece later : Bytes}
    (waits : decoder.Waits frames (piece ++ later))
    (hidden : exposes frames (decoder.buffer.length + piece.length) = false) :
    let drained := ((decoder.push piece).drain false).value
    ∃ done rest,
      frames = done ++ rest ∧
        decoder.Follows done drained.1 drained.2 ∧
        drained.2.skipped = decoder.skipped ∧
        totalLength done + drained.2.buffer.length = decoder.buffer.length + piece.length ∧
        drained.2.Waits rest later := by
  obtain ⟨done, rest, parcels, left, rfl, follows, skipped, lengths, unfinished, -, drained⟩ :=
    exists_unfinished_of_push waits
  rw [← lengths, exposes_append, unfinished.exposes_length, Bool.not_eq_false',
    List.isEmpty_iff] at hidden
  rw [drained, value_drain_of_hidden unfinished hidden, List.append_nil]
  refine ⟨done, rest, rfl, ⟨follows.termination, follows.maxEventSize, follows.followed⟩,
    skipped, lengths, ?_⟩
  exact ⟨unfinished, Nat.le_refl _, hidden⟩

/-- A piece that exposes a frame makes the decoder pass over octets. -/
theorem skipped_lt_push_of_exposes
    {decoder : Decoder}
    {frames : List Sealed}
    {piece later : Bytes}
    (waits : decoder.Waits frames (piece ++ later))
    (exposed : exposes frames (decoder.buffer.length + piece.length) = true) :
    decoder.skipped < ((decoder.push piece).drain false).value.2.skipped := by
  obtain ⟨done, rest, parcels, left, rfl, -, skipped, lengths, unfinished, sound, drained⟩ :=
    exists_unfinished_of_push waits
  rw [← lengths, exposes_append, unfinished.exposes_length, Bool.not_eq_true',
    Bool.eq_false_iff, ne_eq, List.isEmpty_iff] at exposed
  rw [drained, ← skipped]
  exact skipped_lt_drain_of_exposed unfinished sound exposed

/-- Where no cut exposes a frame, the pieces come to what all the frames come to. -/
theorem deliver_of_hidden
    {decoder : Decoder}
    {frames : List Sealed}
    {pieces : List Bytes}
    (waits : decoder.Waits frames pieces.flatten)
    (hidden :
      ∀ count ≤ pieces.length,
        exposes frames (decoder.buffer.length + (pieces.take count).flatten.length) = false) :
    let delivered := (decoder.deliver pieces).value
    decoder.Follows frames delivered.1.flatten delivered.2 ∧
      delivered.2.skipped = decoder.skipped := by
  induction pieces generalizing decoder frames with
  | nil =>
      have empty := waits.unfinished.frames_eq_nil
      subst empty
      exact ⟨.refl, rfl⟩
  | cons piece pieces inductionHypothesis =>
      have hiddenNow : exposes frames (decoder.buffer.length + piece.length) = false := by
        simpa using hidden 1 (Nat.succ_le_succ (Nat.zero_le _))
      obtain ⟨done, rest, rfl, follows, skipped, lengths, waitsNext⟩ :=
        exists_waits_of_push waits hiddenNow
      obtain ⟨followsRest, skippedRest⟩ := inductionHypothesis waitsNext fun count inside => by
        rw [← exposes_take_succ lengths]
        exact hidden (count + 1) (Nat.succ_le_succ inside)
      exact ⟨follows.trans followsRest, skippedRest.trans skipped⟩

/-- Where a cut exposes a frame, octets are passed over. -/
theorem skipped_lt_deliver_of_exposes
    {decoder : Decoder}
    {frames : List Sealed}
    {pieces : List Bytes}
    (waits : decoder.Waits frames pieces.flatten)
    {count : Nat}
    (inside : count ≤ pieces.length)
    (exposed :
      exposes frames (decoder.buffer.length + (pieces.take count).flatten.length) = true) :
    decoder.skipped < (decoder.deliver pieces).value.2.skipped := by
  induction pieces generalizing decoder frames count with
  | nil =>
      rw [List.take_nil, List.flatten_nil, List.length_nil, Nat.add_zero,
        waits.unfinished.exposes_length, waits.hidden] at exposed
      exact Bool.noConfusion exposed
  | cons piece pieces inductionHypothesis =>
      by_cases exposedNow : exposes frames (decoder.buffer.length + piece.length) = true
      · exact Nat.lt_of_lt_of_le (skipped_lt_push_of_exposes waits exposedNow)
          (skipped_le_deliver _ pieces)
      · obtain ⟨done, rest, rfl, -, skipped, lengths, waitsNext⟩ :=
          exists_waits_of_push waits (Bool.eq_false_iff.mpr exposedNow)
        cases count with
        | zero =>
            rw [List.take_zero, List.flatten_nil, List.length_nil, Nat.add_zero,
              waits.unfinished.exposes_length, waits.hidden] at exposed
            exact Bool.noConfusion exposed
        | succ count =>
            rw [exposes_take_succ lengths] at exposed
            rw [← skipped]
            exact inductionHypothesis waitsNext (Nat.le_of_succ_le_succ inside) exposed

theorem waits_fresh
    (termination : Termination)
    (maxEventSize : Nat)
    {frames : List Sealed}
    {octets : Bytes}
    (shape : octets = frames.flatMap Sealed.bytes) :
    (fresh termination maxEventSize).Waits frames octets where
  unfinished := ⟨shape, fun frame _ => frame.length_pos⟩
  covered := Nat.le_refl _
  hidden := rfl

end Decoder

/--
Parcels come out of a stream of nothing else exactly as they were sent, and no
octet is passed over, if and only if no cut exposes a frame inside the payload
of an unfinished one.
-/
theorem deliver_wire_iff
    (maxEventSize : Nat)
    {parcels : List Parcel}
    (small : ∀ parcel ∈ parcels, parcel.body.length ≤ maxEventSize)
    {pieces : List Bytes}
    (cut : pieces.flatten = parcels.flatMap Parcel.wire) :
    let delivered := ((Decoder.fresh .emptyFrame maxEventSize).deliver pieces).value
    delivered.1.flatten = parcels ∧ delivered.2.skipped = 0 ↔
      ∀ count ≤ pieces.length,
        exposes (parcels.flatMap Parcel.carriers) (pieces.take count).flatten.length = false := by
  have waits := Decoder.waits_fresh .emptyFrame maxEventSize
    (cut.trans (Parcel.flatMap_carriers parcels).symm)
  constructor
  · rintro ⟨-, untouched⟩ count inside
    refine Bool.eq_false_iff.mpr fun exposed => ?_
    have passed := Decoder.skipped_lt_deliver_of_exposes waits inside
      (by rwa [Decoder.fresh, List.length_nil, Nat.zero_add])
    rw [untouched] at passed
    exact Nat.not_lt_zero _ passed
  · intro hidden
    obtain ⟨follows, skipped⟩ := Decoder.deliver_of_hidden waits fun count inside => by
      rw [Decoder.fresh, List.length_nil, Nat.zero_add]
      exact hidden count inside
    have followed :
        Reassembly.run .emptyFrame maxEventSize none (parcels.flatMap Parcel.carriers) = _ :=
      follows.followed
    rw [Reassembly.run_flatMap_carriers small] at followed
    exact ⟨(congrArg Prod.fst followed).symm, skipped⟩

theorem deliver_wire_iff_cut_in_header :
    let parcel : Parcel := ⟨⟨⟨1, 2⟩, ⟨3, 4⟩⟩, [5, 6]⟩
    let octets := write parcel.identity 2 [5, 6]
    let pieces := [octets.take 7, octets.drop 7]
    let delivered := ((Decoder.fresh .emptyFrame 16).deliver pieces).value
    ((∀ sent ∈ [parcel], sent.body.length ≤ 16) ∧
        pieces.flatten = [parcel].flatMap Parcel.wire) ∧
      delivered.1.flatten = [parcel] ∧
      delivered.2.skipped = 0 := by
  intro parcel octets pieces delivered
  have small : ∀ sent ∈ [parcel], sent.body.length ≤ 16 := by decide
  have cut : pieces.flatten = [parcel].flatMap Parcel.wire := by
    rw [List.flatMap_singleton, Parcel.wire, frames_of_lt (by decide)]
    decide +kernel
  have carriers :
      [parcel].flatMap Parcel.carriers = [.last parcel.identity [5, 6] (by decide)] := by
    rw [List.flatMap_singleton, Parcel.carriers, carriersOf_of_lt]
  refine ⟨⟨small, cut⟩, (deliver_wire_iff 16 small cut).mpr ?_⟩
  rw [carriers]
  decide +kernel

/-- Cut behind a frame inside its payload, a frame gives way to the one it carries. -/
theorem deliver_forged :
    let forged : Identity := ⟨⟨5, 6⟩, ⟨7, 8⟩⟩
    let parcel : Parcel := ⟨⟨⟨1, 2⟩, ⟨3, 4⟩⟩, write forged 0 [] ++ [0]⟩
    let octets := write parcel.identity 17 parcel.body
    let pieces := [octets.take 32, octets.drop 32]
    let delivered :=
      ((Decoder.fresh .emptyFrame Decoder.defaultMaxEventSize).deliver pieces).value
    (∀ sent ∈ [parcel], sent.body.length ≤ Decoder.defaultMaxEventSize) ∧
      pieces.flatten = [parcel].flatMap Parcel.wire ∧
      delivered.1.flatten = [⟨forged, []⟩] ∧
      delivered.2.skipped = 16 := by
  intro forged parcel octets pieces delivered
  let inner := Sealed.last forged [] (by decide)
  let decoder := (Decoder.fresh .emptyFrame Decoder.defaultMaxEventSize).push (octets.take 32)
  let behind := decoder.behind 16 inner none
  let waiting := (behind.await 0).value
  have found : rescan decoder.buffer false decoder.verified = .found 16 inner.header := by
    decide +kernel
  have stands : frameAt? decoder.buffer 16 = some inner := by decide +kernel
  have spent : rescan behind.buffer false behind.verified = .incomplete 0 16 := by
    decide +kernel
  have short :
      rescan (waiting.push (octets.drop 32)).buffer false waiting.verified =
        .incomplete 0 15 := by
    decide +kernel
  have first : (decoder.drain false).value = ([⟨forged, []⟩], waiting) := by
    rw [Decoder.value_drain_of_found found stands]
    exact congrArg (fun rest => (⟨forged, []⟩ :: rest.1, rest.2))
      (Decoder.value_drain_of_incomplete spent)
  have second :
      ((waiting.push (octets.drop 32)).drain false).value =
        ([], ((waiting.push (octets.drop 32)).await 0).value) :=
    Decoder.value_drain_of_incomplete short
  have ended :
      delivered =
        ([[⟨forged, []⟩], []], ((waiting.push (octets.drop 32)).await 0).value) := by
    simp only [delivered, pieces, Decoder.deliver, Noted.value_bind, Noted.value_pure,
      Noted.value_silent]
    rw [first, second]
  rw [ended]
  refine ⟨by decide, ?_, rfl, rfl⟩
  rw [List.flatMap_singleton, Parcel.wire, frames_of_lt (by decide)]
  decide +kernel

end Frame

end EventWire
