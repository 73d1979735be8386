import EventWire.Frame.Draining
import EventWire.Proofs.Frame.Reassembly
import EventWire.Proofs.Frame.Search

namespace EventWire

/-!
# Draining follows the rules

Draining a decoder is a search for the next frame, one step of the rules of
reassembly, and draining what is left.  The three outcomes of a search give
three equations, and nothing else about the decoder's loop is needed later.
-/

namespace Frame

namespace Decoder

/-- A decoder's step behind a frame: what stood before it is passed over, it is used up. -/
def behind
    (decoder : Decoder)
    (skipped : Nat)
    (frame : Sealed)
    (held : Option Partial) :
    Decoder :=
  { decoder with
    buffer := decoder.buffer.drop (skipped + frame.length)
    held := held
    skipped := decoder.skipped + skipped
    verified := 0 }

theorem value_append
    (decoder : Decoder)
    (event : Partial)
    (payload : Bytes) :
    (decoder.append event payload).value = event.grow decoder.maxEventSize payload := by
  unfold append Partial.grow
  split
  · rfl
  · split <;> rfl

theorem complete_eq
    (decoder : Decoder)
    (event : Partial) :
    ∃ phase,
      decoder.complete event = (event.delivered.head?, { decoder with phase := phase }) := by
  unfold complete Partial.delivered
  split
  · exact ⟨.scanning, rfl⟩
  · exact ⟨.done, rfl⟩

/-- Taking a frame off the front delivers what the rules say and holds what they say. -/
theorem accept_eq
    {decoder : Decoder}
    {frame : Sealed}
    (stands : Sealed.front? decoder.buffer = some frame) :
    let absorbed := Reassembly.absorb decoder.maxEventSize decoder.held frame
    ∃ phase,
      (decoder.accept frame.header).value =
        (absorbed.1.head?,
          { decoder with
            buffer := decoder.buffer.drop frame.length
            held := absorbed.2
            phase := phase }) := by
  obtain ⟨rest, shape⟩ := Sealed.front?_eq_some_iff.mp stands
  have payload :
      (decoder.buffer.drop headerLength).take frame.header.payloadLength = frame.payload := by
    rw [shape, Sealed.bytes, List.append_assoc,
      ← Header.length_bytes frame.header, List.drop_left, ← frame.length_payload, List.take_left]
  simp only [accept, Noted.value_bind, value_append, payload, Reassembly.absorb]
  cases continues : frame.header.continues with
  | true =>
      simp only [Sealed.continues, continues, ↓reduceIte]
      exact ⟨.reassembling, rfl⟩
  | false =>
      simp only [Sealed.continues, continues, Bool.false_eq_true, ↓reduceIte]
      exact complete_eq _ _

/-- A decoder whose front frame is known, behind what its search passed over. -/
def aligned (decoder : Decoder) (skipped : Nat) : Decoder :=
  { decoder with
    buffer := decoder.buffer.drop skipped
    skipped := decoder.skipped + skipped
    verified := 0 }

/-- Releasing the held event for a frame delivers and holds what the rules say. -/
theorem releaseFor_eq
    (decoder : Decoder)
    (identity : Identity) :
    let interrupted := Reassembly.interrupt decoder.termination identity decoder.held
    ∃ phase,
      (decoder.releaseFor identity).value =
        (interrupted.1.head?, { decoder with held := interrupted.2, phase := phase }) := by
  obtain ⟨termination, maxEventSize, buffer, held, phase, skipped, verified⟩ := decoder
  cases held with
  | none => exact ⟨phase, rfl⟩
  | some event =>
      by_cases same : event.identity = identity
      · simp only [releaseFor, Reassembly.interrupt, same, ↓reduceIte]
        exact ⟨phase, rfl⟩
      · simp only [releaseFor, Reassembly.interrupt, same, ↓reduceIte, release]
        cases termination with
        | implicit => exact complete_eq _ _
        | emptyFrame => exact ⟨phase, rfl⟩

theorem value_takeFrame
    (decoder : Decoder)
    (skipped : Nat)
    (header : Header) :
    (decoder.takeFrame skipped header).value =
      let released := ((decoder.aligned skipped).releaseFor header.identity).value
      if released.1.isSome then released else (released.2.accept header).value := by
  simp only [takeFrame, skip, Noted.value_bind, Noted.value_pure, aligned]
  split
  · next released =>
      simp only [released, Option.isSome_some, ↓reduceIte]
      exact Prod.ext released.symm rfl
  · next released => simp [released]

theorem takeFrame_of_released
    {decoder ready : Decoder}
    {skipped : Nat}
    {header : Header}
    {parcel : Parcel}
    (released :
      ((decoder.aligned skipped).releaseFor header.identity).value = (some parcel, ready)) :
    (decoder.takeFrame skipped header).value = (some parcel, ready) := by
  rw [value_takeFrame, released]
  rfl

theorem takeFrame_of_kept
    {decoder ready : Decoder}
    {skipped : Nat}
    {header : Header}
    (released :
      ((decoder.aligned skipped).releaseFor header.identity).value = (none, ready)) :
    (decoder.takeFrame skipped header).value = (ready.accept header).value := by
  rw [value_takeFrame, released]
  rfl

section Phase

variable (decoder : Decoder) (atEnd : Bool) (phase : Phase)

theorem value_accept_phase (header : Header) :
    ({ decoder with phase := phase }.accept header).value = (decoder.accept header).value := by
  simp only [accept, Noted.value_bind, value_append]
  split
  · rfl
  · simp only [complete]

/-- A release that returns nothing may keep the phase; one that returns an event sets it. -/
theorem value_releaseFor_phase (identity : Identity) :
    let plain := (decoder.releaseFor identity).value
    let other := ({ decoder with phase := phase }.releaseFor identity).value
    other = plain ∨
      plain.1 = none ∧ other.1 = none ∧ ∃ kept, other.2 = { plain.2 with phase := kept } := by
  obtain ⟨termination, maxEventSize, buffer, held, before, skipped, verified⟩ := decoder
  cases held with
  | none => exact .inr ⟨rfl, rfl, phase, rfl⟩
  | some event =>
      by_cases same : event.identity = identity
      · simp only [releaseFor, same, ↓reduceIte]
        exact .inr ⟨rfl, rfl, phase, rfl⟩
      · simp only [releaseFor, same, ↓reduceIte, release]
        cases termination with
        | implicit =>
            left
            simp only [Noted.value_silent, complete]
        | emptyFrame => exact .inr ⟨rfl, rfl, phase, rfl⟩

/-- Where a decoder says it stands does not influence what it returns next. -/
theorem value_decode_phase :
    (decode atEnd { decoder with phase := phase }).value = (decode atEnd decoder).value := by
  match searched : rescan decoder.buffer atEnd decoder.verified with
  | .incomplete skipped needed =>
      rw [decode_of_incomplete searched,
        @decode_of_incomplete _ { decoder with phase := phase } _ _ searched]
      rfl
  | .exhausted =>
      rw [decode_of_exhausted searched,
        @decode_of_exhausted _ { decoder with phase := phase } searched]
      rfl
  | .found skipped header =>
      have taken :
          ({ decoder with phase := phase }.takeFrame skipped header).value =
            (decoder.takeFrame skipped header).value := by
        rw [value_takeFrame, value_takeFrame]
        rcases value_releaseFor_phase (decoder.aligned skipped) phase header.identity with
          same | ⟨plain, other, kept, next⟩
        · have same' : ((aligned { decoder with phase := phase } skipped).releaseFor
              header.identity).value =
              ((decoder.aligned skipped).releaseFor header.identity).value := same
          simp only [same']
        · have other' : ((aligned { decoder with phase := phase } skipped).releaseFor
              header.identity).value.1 = none := other
          have next' : ((aligned { decoder with phase := phase } skipped).releaseFor
              header.identity).value.2 = _ := next
          simp only [plain, other', next', Option.isSome_none, Bool.false_eq_true, ↓reduceIte,
            value_accept_phase]
      rw [decode_of_found searched,
        @decode_of_found _ { decoder with phase := phase } _ _ searched, taken]

end Phase

/-- A decoder that has just returned nothing returns nothing again and stays as it is. -/
theorem decode_again
    {decoder next : Decoder}
    (returned : (decoder.decode false).value = (none, next)) :
    (next.decode false).value = (none, next) := by
  match searched : rescan decoder.buffer false decoder.verified with
  | .incomplete skipped needed =>
      rw [decode_of_incomplete searched] at returned
      obtain ⟨further, again⟩ := rescan_drop_of_incomplete searched
      cases returned
      rw [@decode_of_incomplete false (decoder.await skipped).value 0 further again]
      rfl
  | .exhausted => exact nomatch atEnd_of_rescan_exhausted searched
  | .found skipped header =>
      have used := weight_takeFrame_lt (Scan.le_of_rescan_eq_found searched)
      rw [decode_of_found searched] at returned
      split at returned
      · next completed =>
          rw [returned] at completed
          exact nomatch completed
      · exact decode_again returned
termination_by decoder.weight

/-- Draining goes on from what the next call returns. -/
theorem value_drain
    (decoder : Decoder)
    (atEnd : Bool) :
    (decoder.drain atEnd).value =
      match (decoder.decode atEnd).value with
      | (none, next) => ([], next)
      | (some parcel, next) =>
        (parcel :: (next.drain atEnd).value.1, (next.drain atEnd).value.2) := by
  rw [drain]
  split
  · next returned => rw [show (decoder.decode atEnd).value = _ from returned]
  · next returned => rw [show (decoder.decode atEnd).value = _ from returned]

theorem value_drain_congr
    {decoder other : Decoder}
    {atEnd : Bool}
    (same : (decoder.decode atEnd).value = (other.decode atEnd).value) :
    (decoder.drain atEnd).value = (other.drain atEnd).value := by
  rw [value_drain, value_drain, same]

theorem value_drain_phase
    (decoder : Decoder)
    (atEnd : Bool)
    (phase : Phase) :
    ({ decoder with phase := phase }.drain atEnd).value = (decoder.drain atEnd).value :=
  value_drain_congr (value_decode_phase decoder atEnd phase)

/-- A found frame is dealt with, and draining goes on. -/
private theorem value_drain_of_takeFrame
    {decoder : Decoder}
    {atEnd : Bool}
    {skipped : Nat}
    {header : Header}
    (searched : rescan decoder.buffer atEnd decoder.verified = .found skipped header) :
    (decoder.drain atEnd).value =
      let taken := (decoder.takeFrame skipped header).value
      let rest := (taken.2.drain atEnd).value
      (taken.1.toList ++ rest.1, rest.2) := by
  have decoded := decode_of_found searched
  cases returned : (decoder.takeFrame skipped header).value.1 with
  | some parcel =>
      rw [returned, Option.isSome_some, if_pos rfl] at decoded
      rw [value_drain, decoded, ← Prod.eta (decoder.takeFrame skipped header).value, returned]
      rfl
  | none =>
      rw [returned, Option.isSome_none, if_neg Bool.false_ne_true] at decoded
      simp only [value_drain_congr decoded, returned, Option.toList_none, List.nil_append]

/-- A frame that ends no other event is absorbed, and draining goes on behind it. -/
private theorem value_drain_of_absorb
    {decoder : Decoder}
    {atEnd : Bool}
    {skipped : Nat}
    {frame : Sealed}
    {kept : Option Partial}
    (searched :
      rescan decoder.buffer atEnd decoder.verified = .found skipped frame.header)
    (stands : frameAt? decoder.buffer skipped = some frame)
    (continued :
      Reassembly.interrupt decoder.termination frame.identity decoder.held = ([], kept)) :
    (decoder.drain atEnd).value =
      let absorbed := Reassembly.absorb decoder.maxEventSize kept frame
      let rest := ((decoder.behind skipped frame absorbed.2).drain atEnd).value
      (absorbed.1 ++ rest.1, rest.2) := by
  obtain ⟨phase, released⟩ := releaseFor_eq (decoder.aligned skipped) frame.identity
  have interrupted : Reassembly.interrupt (decoder.aligned skipped).termination frame.identity
      (decoder.aligned skipped).held = ([], kept) := continued
  simp only [interrupted, List.head?_nil] at released
  obtain ⟨after, accepted⟩ :=
    @accept_eq { decoder.aligned skipped with held := kept, phase := phase } frame stands
  rw [value_drain_of_takeFrame searched, takeFrame_of_kept released, accepted]
  dsimp only [aligned]
  rw [← value_drain_phase (decoder.behind skipped frame _) atEnd after]
  simp only [behind, List.drop_drop, Reassembly.toList_head?_absorb]

/-- A found frame delivers what the rules say, and draining goes on behind it. -/
theorem value_drain_of_found
    {decoder : Decoder}
    {atEnd : Bool}
    {skipped : Nat}
    {frame : Sealed}
    (searched :
      rescan decoder.buffer atEnd decoder.verified = .found skipped frame.header)
    (stands : frameAt? decoder.buffer skipped = some frame) :
    (decoder.drain atEnd).value =
      let taken :=
        Reassembly.take decoder.termination decoder.maxEventSize decoder.held frame
      let rest := ((decoder.behind skipped frame taken.2).drain atEnd).value
      (taken.1 ++ rest.1, rest.2) := by
  rcases Reassembly.interrupt_cases decoder.termination frame.identity decoder.held with
    ⟨kept, continued⟩ | ⟨parcel, ended⟩
  · rw [value_drain_of_absorb searched stands continued]
    simp only [Reassembly.take, continued, List.nil_append]
  · obtain ⟨phase, released⟩ := releaseFor_eq (decoder.aligned skipped) frame.identity
    have interrupted : Reassembly.interrupt (decoder.aligned skipped).termination
        frame.identity (decoder.aligned skipped).held = ([parcel], none) := ended
    simp only [interrupted, List.head?_cons] at released
    -- The frame that ended the held event is still at the front, and is found once more.
    have again :=
      @value_drain_of_absorb { decoder.aligned skipped with held := none, phase := phase }
        atEnd 0 frame none (rescan_of_front? stands frame.length_pos) stands rfl
    rw [value_drain_of_takeFrame searched, takeFrame_of_released released]
    simp only [again, Reassembly.take, ended]
    rw [← value_drain_phase (decoder.behind skipped frame _) atEnd phase]
    simp only [behind, aligned, List.drop_drop, Nat.zero_add, Nat.add_zero,
      Option.toList_some, List.append_assoc]

/-- Frames at the front are taken one after the other, whatever is in their payloads. -/
theorem value_drain_of_frames
    {decoder : Decoder}
    {atEnd : Bool}
    {frames : List Sealed}
    {rest : Bytes}
    (shape : decoder.buffer = frames.flatMap Sealed.bytes ++ rest)
    (unsearched : ∀ frame ∈ frames.head?, decoder.verified < frame.length) :
    (decoder.drain atEnd).value =
      let followed :=
        Reassembly.run decoder.termination decoder.maxEventSize decoder.held frames
      let behind :=
        { decoder with
          buffer := rest
          held := followed.2
          verified := if frames = [] then decoder.verified else 0 }
      let later := (behind.drain atEnd).value
      (followed.1 ++ later.1, later.2) := by
  induction frames generalizing decoder with
  | nil =>
      obtain ⟨termination, maxEventSize, buffer, held, phase, skipped, verified⟩ := decoder
      cases shape
      rfl
  | cons frame others inductionHypothesis =>
      rw [List.flatMap_cons, List.append_assoc] at shape
      have stands : Sealed.front? decoder.buffer = some frame := by
        rw [shape]
        exact Sealed.front?_bytes_append frame _
      have behindFrame :
          decoder.buffer.drop frame.length = others.flatMap Sealed.bytes ++ rest := by
        rw [shape, ← Sealed.length_bytes, List.drop_left]
      rw [value_drain_of_found (rescan_of_front? stands (unsearched frame rfl)) stands]
      simp only [behind, Nat.zero_add, Nat.add_zero, behindFrame]
      rw [inductionHypothesis rfl fun next _ => next.length_pos]
      simp only [Reassembly.run, List.append_assoc, ite_self, reduceCtorEq, ↓reduceIte]

/-- A decoder that waits has dropped what cannot begin a frame and searched the rest. -/
theorem value_drain_of_incomplete
    {decoder : Decoder}
    {atEnd : Bool}
    {skipped needed : Nat}
    (searched :
      rescan decoder.buffer atEnd decoder.verified = .incomplete skipped needed) :
    (decoder.drain atEnd).value = ([], (decoder.await skipped).value) := by
  rw [value_drain, decode_of_incomplete searched]

/-- The end of the stream delivers what the rules say and empties the decoder. -/
theorem finish_eq (decoder : Decoder) :
    ∃ phase,
      decoder.finish.value =
        ((Reassembly.close decoder.termination decoder.held).head?,
          { decoder with
            buffer := []
            held := none
            phase := phase
            skipped := decoder.skipped + decoder.buffer.length
            verified := 0 }) := by
  obtain ⟨termination, maxEventSize, buffer, held, phase, skipped, verified⟩ := decoder
  simp only [finish, Noted.value_bind, release, Reassembly.close]
  cases held with
  | none => exact ⟨.scanning, rfl⟩
  | some event =>
      cases termination with
      | implicit => exact complete_eq _ _
      | emptyFrame => exact ⟨.scanning, rfl⟩

/-- A decoder that has returned nothing at the end of the stream returns nothing again. -/
theorem fst_decode_again
    {decoder next : Decoder}
    (returned : (decoder.decode true).value = (none, next)) :
    (next.decode true).value.1 = none := by
  match searched : rescan decoder.buffer true decoder.verified with
  | .incomplete _ _ => exact nomatch atEnd_of_rescan_incomplete searched
  | .exhausted =>
      obtain ⟨phase, finished⟩ := finish_eq decoder
      rw [decode_of_exhausted searched, finished] at returned
      obtain ⟨_, finishedAgain⟩ := finish_eq next
      obtain rfl := congrArg Prod.snd returned
      rw [decode_of_exhausted rfl, finishedAgain]
      rfl
  | .found skipped header =>
      have used := weight_takeFrame_lt (Scan.le_of_rescan_eq_found searched)
      rw [decode_of_found searched] at returned
      split at returned
      · next completed =>
          rw [returned] at completed
          exact nomatch completed
      · exact fst_decode_again returned
termination_by decoder.weight

private theorem value_drain_of_close_eq_nil
    {decoder : Decoder}
    (searched : rescan decoder.buffer true decoder.verified = .exhausted)
    (silent : Reassembly.close decoder.termination decoder.held = []) :
    ∃ phase,
      (decoder.drain true).value =
        ([],
          { decoder with
            buffer := []
            held := none
            phase := phase
            skipped := decoder.skipped + decoder.buffer.length
            verified := 0 }) := by
  obtain ⟨phase, finished⟩ := finish_eq decoder
  refine ⟨phase, ?_⟩
  rw [value_drain, decode_of_exhausted searched, finished, silent]
  rfl

/-- Draining at the end of the stream, when no frame is left, empties the decoder. -/
theorem value_drain_of_exhausted
    {decoder : Decoder}
    (searched : rescan decoder.buffer true decoder.verified = .exhausted) :
    ∃ phase,
      (decoder.drain true).value =
        (Reassembly.close decoder.termination decoder.held,
          { decoder with
            buffer := []
            held := none
            phase := phase
            skipped := decoder.skipped + decoder.buffer.length
            verified := 0 }) := by
  rcases Reassembly.close_cases decoder.termination decoder.held with silent | ⟨parcel, ended⟩
  · rw [silent]
    exact value_drain_of_close_eq_nil searched silent
  · obtain ⟨phase, finished⟩ := finish_eq decoder
    -- Behind the released event nothing is left, neither octets nor an event.
    obtain ⟨last, rest⟩ :=
      @value_drain_of_close_eq_nil
        { decoder with
          buffer := []
          held := none
          phase := phase
          skipped := decoder.skipped + decoder.buffer.length
          verified := 0 }
        rfl rfl
    refine ⟨last, ?_⟩
    rw [value_drain, decode_of_exhausted searched, finished, ended]
    simp only [List.head?_cons, rest]
    rfl

section WholeFrames

variable (termination : Termination) (maxEventSize : Nat) (frames : List Sealed)

theorem value_drain_push_frames (atEnd : Bool) :
    (((fresh termination maxEventSize).push (frames.flatMap Sealed.bytes)).drain atEnd).value =
      let followed := Reassembly.run termination maxEventSize none frames
      let later := ({ fresh termination maxEventSize with held := followed.2 }.drain atEnd).value
      (followed.1 ++ later.1, later.2) := by
  have shape :
      ((fresh termination maxEventSize).push (frames.flatMap Sealed.bytes)).buffer =
        frames.flatMap Sealed.bytes ++ [] :=
    (List.append_nil _).symm
  rw [value_drain_of_frames shape fun frame _ => frame.length_pos]
  simp only [push, fresh, ite_self]

/-- Whole frames come to what the rules say, and nothing is left of them or passed over. -/
theorem drain_push_frames :
    let drained :=
      (((fresh termination maxEventSize).push (frames.flatMap Sealed.bytes)).drain false).value
    drained.1 = (Reassembly.run termination maxEventSize none frames).1 ∧
      drained.2.skipped = 0 ∧
      drained.2.buffer = [] := by
  have searched : rescan [] false 0 = .incomplete 0 headerLength := rfl
  rw [value_drain_push_frames]
  dsimp only
  rw [value_drain_of_incomplete searched]
  exact ⟨List.append_nil _, rfl, rfl⟩

theorem drain_push_frames_atEnd :
    let drained :=
      (((fresh termination maxEventSize).push (frames.flatMap Sealed.bytes)).drain true).value
    drained.1 = Reassembly.parcels termination maxEventSize frames ∧
      drained.2.skipped = 0 ∧
      drained.2.buffer = [] := by
  let followed := Reassembly.run termination maxEventSize none frames
  obtain ⟨phase, finished⟩ :=
    @value_drain_of_exhausted { fresh termination maxEventSize with held := followed.2 } rfl
  rw [value_drain_push_frames]
  dsimp only
  rw [finished]
  exact ⟨rfl, rfl, rfl⟩

/-- Whole frames are taken while the stream is open, and its end releases what they leave held. -/
theorem drain_push_frames_then_atEnd :
    let waiting :=
      (((fresh termination maxEventSize).push (frames.flatMap Sealed.bytes)).drain false).value
    let ended := (waiting.2.drain true).value
    waiting.1 ++ ended.1 = Reassembly.completed termination maxEventSize none frames ∧
      ended.2.skipped = 0 ∧
      ended.2.buffer = [] := by
  have searched : rescan [] false 0 = .incomplete 0 headerLength := rfl
  let followed := Reassembly.run termination maxEventSize none frames
  let waiting := ({ fresh termination maxEventSize with held := followed.2 }.await 0).value
  obtain ⟨phase, finished⟩ := @value_drain_of_exhausted waiting rfl
  rw [value_drain_push_frames]
  dsimp only
  rw [value_drain_of_incomplete searched, finished, List.append_nil]
  exact ⟨rfl, rfl, rfl⟩

end WholeFrames

end Decoder

end Frame

end EventWire
