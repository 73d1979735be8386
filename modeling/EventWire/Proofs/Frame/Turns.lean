import EventWire.Proofs.Frame.Draining

namespace EventWire

/-!
# The turns of a call

A call for an event searches the buffer and deals with what it finds, again and
again, until an event is complete or the search finds no frame.  A turn that is
not the last uses up a whole frame, so the octets that are buffered bound the
number of turns, and what the last turn leaves is what the call leaves.
-/

namespace Frame.Decoder

/-- What one turn of a call comes to. -/
inductive Turn where
  /-- The call is over: what it returns, and the decoder behind it. -/
  | ends (result : Option Parcel) (next : Decoder)
  /-- A frame has been taken that completes no event. -/
  | goesOn (next : Decoder)

/-- One turn of a call: a search, and what is made of its outcome. -/
def turn (atEnd : Bool) (decoder : Decoder) : Turn :=
  match rescan decoder.buffer atEnd decoder.verified with
  | .incomplete skipped _ => .ends none (decoder.await skipped).value
  | .exhausted => .ends decoder.finish.value.1 decoder.finish.value.2
  | .found skipped header =>
    match (decoder.takeFrame skipped header).value with
    | (some parcel, next) => .ends (some parcel) next
    | (none, next) => .goesOn next

/-- What a call comes to that may take only so many turns. -/
def turns (atEnd : Bool) : Nat → Decoder → Option (Option Parcel × Decoder)
  | 0, _ => none
  | count + 1, decoder =>
    match decoder.turn atEnd with
    | .ends result next => some (result, next)
    | .goesOn next => next.turns atEnd count

/-- The ways in which a turn can go. -/
inductive Turned (atEnd : Bool) (decoder : Decoder) : Turn → Prop where
  | waits
      {skipped needed : Nat}
      (searched : rescan decoder.buffer atEnd decoder.verified = .incomplete skipped needed) :
      Turned atEnd decoder (.ends none (decoder.await skipped).value)
  | finishes
      (searched : rescan decoder.buffer atEnd decoder.verified = .exhausted) :
      Turned atEnd decoder (.ends decoder.finish.value.1 decoder.finish.value.2)
  | completes
      {skipped : Nat}
      {header : Header}
      {parcel : Parcel}
      {next : Decoder}
      (searched : rescan decoder.buffer atEnd decoder.verified = .found skipped header)
      (taken : (decoder.takeFrame skipped header).value = (some parcel, next)) :
      Turned atEnd decoder (.ends (some parcel) next)
  | absorbs
      {skipped : Nat}
      {header : Header}
      {next : Decoder}
      (searched : rescan decoder.buffer atEnd decoder.verified = .found skipped header)
      (taken : (decoder.takeFrame skipped header).value = (none, next)) :
      Turned atEnd decoder (.goesOn next)

theorem turned_turn (atEnd : Bool) (decoder : Decoder) :
    Turned atEnd decoder (decoder.turn atEnd) := by
  rw [turn]
  split
  · next searched => exact .waits searched
  · next searched => exact .finishes searched
  · next searched =>
      split
      · next taken => exact .completes searched taken
      · next taken => exact .absorbs searched taken

section Calls

variable {atEnd : Bool} {decoder next : Decoder} {result : Option Parcel}

/-- The last turn says what the call comes to. -/
theorem Turned.value_decode_of_ends (turned : Turned atEnd decoder (.ends result next)) :
    (decoder.decode atEnd).value = (result, next) := by
  cases turned with
  | waits searched => exact decode_of_incomplete searched
  | finishes searched => rw [decode_of_exhausted searched]
  | completes searched taken =>
      rw [decode_of_found searched, taken]
      rfl

/-- Behind a turn that is not the last the call is one for what the turn has left. -/
theorem Turned.value_decode_of_goesOn (turned : Turned atEnd decoder (.goesOn next)) :
    (decoder.decode atEnd).value = (next.decode atEnd).value := by
  cases turned with
  | absorbs searched taken =>
      rw [decode_of_found searched, taken]
      rfl

/-- A turn that is not the last uses up a whole frame. -/
theorem Turned.length_buffer_of_goesOn (turned : Turned atEnd decoder (.goesOn next)) :
    next.buffer.length + headerLength ≤ decoder.buffer.length := by
  cases turned with
  | @absorbs skipped header _ searched taken =>
      have inside := Scan.le_of_rescan_eq_found searched
      have long : headerLength ≤ header.length := Nat.le_add_right _ _
      have left := buffer_takeFrame (congrArg Prod.fst taken)
      rw [taken] at left
      rw [show next.buffer = _ from left, List.length_drop]
      omega

/-- A call takes no more turns than there can be frames in the buffer, and the last one. -/
theorem turns_eq
    {count : Nat}
    (enough : decoder.buffer.length / headerLength < count) :
    decoder.turns atEnd count = some (decoder.decode atEnd).value := by
  induction count generalizing decoder with
  | zero => exact absurd enough (Nat.not_lt_zero _)
  | succ count inductionHypothesis =>
      have turned := turned_turn atEnd decoder
      rw [turns]
      cases outcome : decoder.turn atEnd with
      | ends result next =>
          rw [outcome] at turned
          rw [turned.value_decode_of_ends]
      | goesOn next =>
          rw [outcome] at turned
          have shorter := turned.length_buffer_of_goesOn
          rw [turned.value_decode_of_goesOn]
          apply inductionHypothesis
          rw [headerLength] at shorter enough ⊢
          omega

/-- Every call has a last turn. -/
theorem exists_last_turn (atEnd : Bool) (decoder : Decoder) :
    ∃ last,
      Turned atEnd last (.ends (decoder.decode atEnd).value.1 (decoder.decode atEnd).value.2) := by
  have turned := turned_turn atEnd decoder
  cases outcome : decoder.turn atEnd with
  | ends result next =>
      rw [outcome] at turned
      rw [turned.value_decode_of_ends]
      exact ⟨decoder, turned⟩
  | goesOn next =>
      rw [outcome] at turned
      have shorter := turned.length_buffer_of_goesOn
      rw [turned.value_decode_of_goesOn]
      exact exists_last_turn atEnd next
termination_by decoder.buffer.length
decreasing_by
  rw [headerLength] at shorter
  omega

end Calls

end Frame.Decoder

end EventWire
