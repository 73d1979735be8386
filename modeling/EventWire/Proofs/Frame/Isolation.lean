import EventWire.Proofs.Frame.Draining

namespace EventWire

/-!
# Damage stays where it is

When no two frames of a stream overlap, a decoder takes exactly the frames that
stand in it, in order, however the stream is cut into pieces and whatever stands
between the frames.  A frame that was found never hides an earlier one whose end
has not arrived, for the two would overlap; and what is dropped while waiting
has fully arrived, so it cannot become a frame later.
-/

namespace Frame

/-- The number of octets of all the frames. -/
def totalLength : List Sealed → Nat
  | [] => 0
  | frame :: rest => frame.length + totalLength rest

@[simp] theorem totalLength_nil :
    totalLength [] = 0 :=
  rfl

@[simp] theorem totalLength_cons (frame : Sealed) (rest : List Sealed) :
    totalLength (frame :: rest) = frame.length + totalLength rest :=
  rfl

@[simp] theorem totalLength_append
    (front back : List Sealed) :
    totalLength (front ++ back) = totalLength front + totalLength back := by
  induction front with
  | nil =>
      rw [List.nil_append, totalLength_nil, Nat.zero_add]
  | cons frame rest inductionHypothesis =>
      rw [List.cons_append, totalLength_cons, totalLength_cons, inductionHypothesis,
        Nat.add_assoc]

@[simp] theorem totalLength_singleton (frame : Sealed) :
    totalLength [frame] = frame.length :=
  Nat.add_zero frame.length

namespace Decoder

/-- No frame ends within the front of the buffer that was searched before. -/
structure Sound (decoder : Decoder) : Prop where
  covered : decoder.verified ≤ decoder.buffer.length
  unsearched :
    ∀ (offset : Nat) (frame : Sealed),
      frameAt? decoder.buffer offset = some frame →
      decoder.verified < offset + frame.length

namespace Sound

variable {decoder : Decoder}

theorem of_verified_eq_zero
    (unverified : decoder.verified = 0) :
    decoder.Sound where
  covered := by
    rw [unverified]
    exact Nat.zero_le _
  unsearched offset frame _ := by
    have positive := frame.length_pos
    omega

theorem push
    (sound : decoder.Sound)
    (piece : Bytes) :
    (decoder.push piece).Sound where
  covered := by
    have covered := sound.covered
    simp only [Decoder.push, List.length_append]
    omega
  unsearched := by
    intro offset frame stands
    change decoder.verified < offset + frame.length
    by_cases inside : offset + frame.length ≤ decoder.buffer.length
    · exact sound.unsearched offset frame (frameAt?_of_append stands inside)
    · have covered := sound.covered
      omega

/-- Where the search says that all frames were searched before, there is none. -/
theorem frameAt?_eq_none
    {stop : Nat}
    (sound : decoder.Sound)
    (searched : AllSearched decoder.buffer decoder.verified 0 stop)
    {offset : Nat}
    (before : offset < stop) :
    frameAt? decoder.buffer offset = none :=
  searched.frameAt?_eq_none_of_unsearched sound.unsearched before

section Await

variable {atEnd : Bool} {skipped needed : Nat}

/-- A decoder that waits holds no frame. -/
theorem frameAt?_await
    (sound : decoder.Sound)
    (searched : rescan decoder.buffer atEnd decoder.verified = .incomplete skipped needed)
    (offset : Nat) :
    frameAt? (decoder.await skipped).value.buffer offset = none := by
  obtain ⟨searchedBefore, -, -, -⟩ := lacking_of_rescan searched
  cases stands : frameAt? (decoder.await skipped).value.buffer offset with
  | none => rfl
  | some frame =>
      have inBuffer : frameAt? decoder.buffer (skipped + offset) = some frame := by
        rw [← frameAt?_drop]
        exact stands
      have bound := add_length_le_of_frameAt? inBuffer
      have positive := frame.length_pos
      rw [sound.frameAt?_eq_none searchedBefore (by omega)] at inBuffer
      exact nomatch inBuffer

theorem await
    (sound : decoder.Sound)
    (searched : rescan decoder.buffer atEnd decoder.verified = .incomplete skipped needed) :
    (decoder.await skipped).value.Sound where
  covered := Nat.le_refl _
  unsearched offset frame stands := by
    rw [sound.frameAt?_await searched] at stands
    exact nomatch stands

end Await

end Sound

/-- A decoder takes frames and delivers parcels by the rules. -/
structure Follows
    (decoder : Decoder)
    (frames : List Sealed)
    (parcels : List Parcel)
    (next : Decoder) : Prop where
  termination : next.termination = decoder.termination
  maxEventSize : next.maxEventSize = decoder.maxEventSize
  followed :
    Reassembly.run decoder.termination decoder.maxEventSize decoder.held frames =
      (parcels, next.held)

namespace Follows

variable {decoder : Decoder}

theorem refl : decoder.Follows [] [] decoder where
  termination := rfl
  maxEventSize := rfl
  followed := rfl

theorem trans
    {middle last : Decoder}
    {frames others : List Sealed}
    {parcels rest : List Parcel}
    (first : decoder.Follows frames parcels middle)
    (second : middle.Follows others rest last) :
    decoder.Follows (frames ++ others) (parcels ++ rest) last where
  termination := second.termination.trans first.termination
  maxEventSize := second.maxEventSize.trans first.maxEventSize
  followed := by
    have followed := second.followed
    rw [first.termination, first.maxEventSize] at followed
    simp only [Reassembly.run_append, first.followed, followed]

end Follows

/-- A decoder follows the rules while part of the octets still to come arrive. -/
structure Reaches
    (decoder : Decoder)
    (coming : Bytes)
    (frames : List Sealed)
    (parcels : List Parcel)
    (next : Decoder)
    (later : Bytes) : Prop
    extends decoder.Follows frames parcels next where
  taken : framesIn (decoder.buffer ++ coming) = frames ++ framesIn (next.buffer ++ later)
  accounted :
    next.skipped + totalLength frames + (next.buffer ++ later).length =
      decoder.skipped + (decoder.buffer ++ coming).length
  sound : next.Sound
  apart : NonOverlapping (next.buffer ++ later)

namespace Reaches

variable {decoder : Decoder} {coming : Bytes}

theorem refl
    (sound : decoder.Sound)
    (apart : NonOverlapping (decoder.buffer ++ coming)) :
    decoder.Reaches coming [] [] decoder coming where
  toFollows := .refl
  taken := rfl
  accounted := rfl
  sound := sound
  apart := apart

theorem trans
    {middle last : Decoder}
    {between later : Bytes}
    {frames others : List Sealed}
    {parcels rest : List Parcel}
    (first : decoder.Reaches coming frames parcels middle between)
    (second : middle.Reaches between others rest last later) :
    decoder.Reaches coming (frames ++ others) (parcels ++ rest) last later where
  toFollows := first.toFollows.trans second.toFollows
  taken := by
    rw [first.taken, second.taken, List.append_assoc]
  accounted := by
    have before := first.accounted
    have behind := second.accounted
    rw [totalLength_append]
    omega
  sound := second.sound
  apart := second.apart

/-- A piece arrives. -/
theorem push
    {piece : Bytes}
    (sound : decoder.Sound)
    (apart : NonOverlapping (decoder.buffer ++ (piece ++ coming))) :
    decoder.Reaches (piece ++ coming) [] [] (decoder.push piece) coming where
  termination := rfl
  maxEventSize := rfl
  followed := rfl
  taken := by
    simp only [Decoder.push, List.append_assoc, List.nil_append]
  accounted := by
    simp only [Decoder.push, List.append_assoc, totalLength_nil, Nat.add_zero]
  sound := sound.push piece
  apart := by
    simpa only [Decoder.push, List.append_assoc] using apart

/-- The frame that a search finds is the first one, also among the octets still to come. -/
theorem of_found
    {skipped : Nat}
    {frame : Sealed}
    (sound : decoder.Sound)
    (apart : NonOverlapping (decoder.buffer ++ coming))
    (first : AllSearched decoder.buffer decoder.verified 0 skipped)
    (stands : frameAt? decoder.buffer skipped = some frame) :
    let taken := Reassembly.take decoder.termination decoder.maxEventSize decoder.held frame
    decoder.Reaches coming [frame] taken.1 (decoder.behind skipped frame taken.2) coming := by
  have inside := add_length_le_of_frameAt? stands
  have standsStill := frameAt?_append stands coming
  have empty : ∀ offset < skipped, frameAt? (decoder.buffer ++ coming) offset = none := by
    intro offset before
    cases other : frameAt? (decoder.buffer ++ coming) offset with
    | none => rfl
    | some earlier =>
        have separated := apart offset skipped earlier frame before other standsStill
        have inBuffer := frameAt?_of_append other (by omega)
        rw [sound.frameAt?_eq_none first before] at inBuffer
        simp at inBuffer
  have whole :
      ∀ offset, 0 < offset → offset < frame.length →
        frameAt? ((decoder.buffer ++ coming).drop skipped) offset = none := by
    intro offset positive within
    cases other : frameAt? ((decoder.buffer ++ coming).drop skipped) offset with
    | none => rfl
    | some later =>
        rw [frameAt?_drop] at other
        have separated :=
          apart skipped (skipped + offset) frame later (by omega) standsStill other
        omega
  have behindFrame :
      ((decoder.buffer ++ coming).drop skipped).drop frame.length =
        decoder.buffer.drop (skipped + frame.length) ++ coming := by
    rw [List.drop_drop, List.drop_append_of_le_length inside]
  exact
    { termination := rfl
      maxEventSize := rfl
      followed := by
        simp only [Reassembly.run, List.append_nil, behind]
      taken := by
        rw [← framesIn_drop empty, framesIn_of_front? standsStill whole, behindFrame]
        rfl
      accounted := by
        simp only [behind, totalLength_singleton, List.length_append, List.length_drop]
        omega
      sound := .of_verified_eq_zero rfl
      apart := by
        have apartBehind := (apart.drop skipped).drop frame.length
        rw [behindFrame] at apartBehind
        exact apartBehind }

/-- What is dropped while waiting has fully arrived, so it never becomes a frame. -/
theorem of_incomplete
    {skipped needed : Nat}
    (sound : decoder.Sound)
    (apart : NonOverlapping (decoder.buffer ++ coming))
    (searched : rescan decoder.buffer false decoder.verified = .incomplete skipped needed) :
    decoder.Reaches coming [] [] (decoder.await skipped).value coming := by
  obtain ⟨searchedBefore, inside, lacking, arrived⟩ := lacking_of_rescan searched
  have behindSkipped :
      (decoder.buffer ++ coming).drop skipped = decoder.buffer.drop skipped ++ coming :=
    List.drop_append_of_le_length inside
  have empty : ∀ offset < skipped, frameAt? (decoder.buffer ++ coming) offset = none := by
    intro offset before
    have complete := arrived offset (Nat.zero_le _) before
    rw [frameAt?, List.drop_append_of_le_length (by omega),
      front?_append_of_shortage_eq_zero complete]
    exact sound.frameAt?_eq_none searchedBefore (by omega)
  exact
    { termination := rfl
      maxEventSize := rfl
      followed := rfl
      taken := by
        rw [← framesIn_drop empty, behindSkipped]
        rfl
      accounted := by
        simp only [await, skip, Noted.value_bind, Noted.value_pure, totalLength_nil,
          List.length_append, List.length_drop]
        omega
      sound := sound.await searched
      apart := by
        have apartBehind := apart.drop skipped
        rw [behindSkipped] at apartBehind
        exact apartBehind }

end Reaches

/-- No frame is left to be found. -/
def Stopped (atEnd : Bool) (decoder : Decoder) : Prop :=
  ∀ (skipped : Nat) (header : Header),
    rescan decoder.buffer atEnd decoder.verified ≠ .found skipped header

/-- Draining takes frames until none is left to be found, and goes on from there. -/
theorem exists_stopped
    (atEnd : Bool)
    {decoder : Decoder}
    {coming : Bytes}
    (sound : decoder.Sound)
    (apart : NonOverlapping (decoder.buffer ++ coming)) :
    ∃ frames parcels stop,
      decoder.Reaches coming frames parcels stop coming ∧
        stop.Stopped atEnd ∧
        (decoder.drain atEnd).value =
          (parcels ++ (stop.drain atEnd).value.1, (stop.drain atEnd).value.2) := by
  induction length : decoder.buffer.length using Nat.strongRecOn generalizing decoder with
  | ind length inductionHypothesis =>
      by_cases stopped : decoder.Stopped atEnd
      · exact ⟨[], [], decoder, .refl sound apart, stopped, rfl⟩
      · simp only [Stopped, ne_eq, Classical.not_forall, Classical.not_not] at stopped
        obtain ⟨skipped, header, searched⟩ := stopped
        obtain ⟨frame, rfl, stands, first⟩ := exists_frameAt?_of_rescan searched
        have step := Reaches.of_found sound apart first stands
        have inside := add_length_le_of_frameAt? stands
        have positive := frame.length_pos
        obtain ⟨frames, parcels, stop, reached, stopped, drained⟩ :=
          inductionHypothesis _ (by simp only [behind, List.length_drop]; omega)
            step.sound step.apart rfl
        refine ⟨_, _, stop, step.trans reached, stopped, ?_⟩
        rw [value_drain_of_found searched stands]
        simp only [drained, List.append_assoc]

/-- Draining an open stream takes the frames that have arrived and waits for more. -/
theorem exists_reaches_drain
    {decoder : Decoder}
    {coming : Bytes}
    (sound : decoder.Sound)
    (apart : NonOverlapping (decoder.buffer ++ coming)) :
    ∃ frames,
      decoder.Reaches coming frames (decoder.drain false).value.1
        (decoder.drain false).value.2 coming := by
  obtain ⟨frames, parcels, stop, reached, stopped, drained⟩ :=
    exists_stopped false sound apart
  match searched : rescan stop.buffer false stop.verified with
  | .found skipped header => exact absurd searched (stopped skipped header)
  | .exhausted => exact absurd (atEnd_of_rescan_exhausted searched) Bool.false_ne_true
  | .incomplete skipped needed =>
      rw [drained, value_drain_of_incomplete searched]
      have waits := Reaches.of_incomplete reached.sound reached.apart searched
      exact ⟨_, reached.trans waits⟩

/-- Pieces that arrive are taken apart into the frames that stand in all of them. -/
theorem exists_reaches_deliver
    {decoder : Decoder}
    {coming : Bytes}
    (pieces : List Bytes)
    (sound : decoder.Sound)
    (apart : NonOverlapping (decoder.buffer ++ (pieces.flatten ++ coming))) :
    ∃ frames,
      decoder.Reaches (pieces.flatten ++ coming) frames
        (decoder.deliver pieces).value.1.flatten (decoder.deliver pieces).value.2 coming := by
  induction pieces generalizing decoder with
  | nil => exact ⟨[], .refl sound apart⟩
  | cons piece rest inductionHypothesis =>
      rw [List.flatten_cons, List.append_assoc] at apart ⊢
      have arrives := Reaches.push sound apart
      obtain ⟨frames, drains⟩ := exists_reaches_drain arrives.sound arrives.apart
      obtain ⟨others, delivers⟩ := inductionHypothesis drains.sound drains.apart
      exact ⟨_, arrives.trans (drains.trans delivers)⟩

/-- The end of the stream takes the frames that are left and releases the held event. -/
theorem drain_atEnd
    {decoder : Decoder}
    (sound : decoder.Sound)
    (apart : NonOverlapping decoder.buffer) :
    let drained := (decoder.drain true).value
    let left := framesIn decoder.buffer
    let followed :=
      Reassembly.run decoder.termination decoder.maxEventSize decoder.held left
    drained.1 = followed.1 ++ Reassembly.close decoder.termination followed.2 ∧
      drained.2.skipped + totalLength left = decoder.skipped + decoder.buffer.length ∧
      drained.2.buffer = [] := by
  rw [← List.append_nil decoder.buffer] at apart
  obtain ⟨frames, parcels, stop, reached, stopped, drained⟩ :=
    exists_stopped true sound apart
  match searched : rescan stop.buffer true stop.verified with
  | .found skipped header => exact absurd searched (stopped skipped header)
  | .incomplete skipped needed =>
      exact absurd (atEnd_of_rescan_incomplete searched) (by decide)
  | .exhausted =>
      obtain ⟨phase, finished⟩ := value_drain_of_exhausted searched
      have none : framesIn stop.buffer = [] := by
        have empty : ∀ offset < stop.buffer.length, frameAt? stop.buffer offset = Option.none :=
          fun offset before =>
            reached.sound.frameAt?_eq_none (allSearched_of_rescan_exhausted searched) before
        rw [← framesIn_drop empty, List.drop_length]
        rfl
      have taken := reached.taken
      simp only [List.append_nil, none] at taken
      have accounted := reached.accounted
      simp only [List.append_nil] at accounted
      simp only [drained, finished, taken, reached.followed, reached.termination, true_and,
        and_true]
      omega

/-- Pieces and then the end of the stream take all the frames. -/
theorem drain_deliver
    {decoder : Decoder}
    (pieces : List Bytes)
    (sound : decoder.Sound)
    (apart : NonOverlapping (decoder.buffer ++ pieces.flatten)) :
    let delivered := (decoder.deliver pieces).value
    let ended := (delivered.2.drain true).value
    let frames := framesIn (decoder.buffer ++ pieces.flatten)
    let followed :=
      Reassembly.run decoder.termination decoder.maxEventSize decoder.held frames
    delivered.1.flatten ++ ended.1 =
        followed.1 ++ Reassembly.close decoder.termination followed.2 ∧
      ended.2.skipped + totalLength frames =
        decoder.skipped + (decoder.buffer ++ pieces.flatten).length ∧
      ended.2.buffer = [] := by
  rw [← List.append_nil pieces.flatten] at apart
  obtain ⟨frames, reached⟩ := exists_reaches_deliver pieces sound apart
  have apartLast := reached.apart
  have taken := reached.taken
  have accounted := reached.accounted
  rw [List.append_nil, List.append_nil] at taken accounted
  rw [List.append_nil] at apartLast
  obtain ⟨parcels, skipped, empty⟩ := drain_atEnd reached.sound apartLast
  refine ⟨?_, ?_, empty⟩
  · rw [parcels, reached.termination, reached.maxEventSize, taken]
    simp only [Reassembly.run_append, reached.followed, List.append_assoc]
  · rw [taken, totalLength_append]
    omega

end Decoder

/--
However octets are cut into pieces, a decoder delivers what the frames standing
in them come to, passes over exactly the octets of no frame, and keeps none.
-/
theorem deliver_of_nonOverlapping
    (termination : Termination)
    (maxEventSize : Nat)
    {octets : Bytes}
    (apart : NonOverlapping octets)
    {pieces : List Bytes}
    (cut : pieces.flatten = octets) :
    let delivered := ((Decoder.fresh termination maxEventSize).deliver pieces).value
    let ended := (delivered.2.drain true).value
    delivered.1.flatten ++ ended.1 =
        Reassembly.parcels termination maxEventSize (framesIn octets) ∧
      ended.2.skipped + totalLength (framesIn octets) = octets.length ∧
      ended.2.buffer = [] := by
  subst cut
  have sound : (Decoder.fresh termination maxEventSize).Sound := .of_verified_eq_zero rfl
  obtain ⟨parcels, skipped, empty⟩ := Decoder.drain_deliver pieces sound apart
  exact ⟨parcels, skipped.trans (Nat.zero_add _), empty⟩

theorem deliver_of_nonOverlapping_damaged :
    let identity : Identity := ⟨⟨1, 2⟩, ⟨3, 4⟩⟩
    let octets := [0xAB, 0xCD] ++ write identity 2 [1, 2] ++ [7] ++ write identity 0 []
    let pieces := [octets.take 9, octets.drop 9]
    let delivered := ((Decoder.fresh .emptyFrame 16).deliver pieces).value
    let ended := (delivered.2.drain true).value
    (NonOverlapping octets ∧ pieces.flatten = octets) ∧
      delivered.1.flatten ++ ended.1 = [⟨identity, [1, 2]⟩, ⟨identity, []⟩] ∧
      ended.2.skipped = 3 ∧
      ended.2.buffer = [] := by
  intro identity octets pieces
  have apart : NonOverlapping octets := by decide +kernel
  have cut : pieces.flatten = octets := by decide +kernel
  have frames :
      Reassembly.parcels .emptyFrame 16 (framesIn octets) =
        [⟨identity, [1, 2]⟩, ⟨identity, []⟩] := by
    decide +kernel
  have total : totalLength (framesIn octets) = 34 := by decide +kernel
  have length : octets.length = 37 := by decide +kernel
  obtain ⟨delivered, skipped, empty⟩ := deliver_of_nonOverlapping .emptyFrame 16 apart cut
  exact ⟨⟨apart, cut⟩, delivered.trans frames, by omega, empty⟩

end Frame

end EventWire
