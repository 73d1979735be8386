import EventWire.Frame.Chunking
import EventWire.Frame.Scan
import EventWire.Notice

namespace EventWire

/-!
# Putting frames together

A decoder holds the octets that have arrived and the event whose chunks it is
putting together.  Valid frames are taken in the order of their offsets.  A
frame that does not continue the held event ends it: under the implicit policy
the held event was complete, under the other it has lost its end.  An event that
outgrows the limit is dropped, but its frames are followed to its end.
-/

namespace Frame

def target : String := "vigil_protocol::decode"

/-- Where a decoder stands. -/
inductive Phase where
  /-- No header is buffered. -/
  | scanning
  /-- A header is buffered, but not all of its payload. -/
  | awaitingPayload
  /-- Chunks of an event have been taken and more must follow. -/
  | reassembling
  /-- The last call returned an event. -/
  | done
  deriving DecidableEq

/-- The event body that frames of one identity carried. -/
structure Parcel where
  identity : Identity
  body : Bytes
  deriving DecidableEq

/-- An event some of whose chunks have arrived. -/
structure Partial where
  identity : Identity
  body : Bytes
  oversized : Bool
  deriving DecidableEq

namespace Partial

/-- An event none of whose chunks has arrived. -/
def fresh (identity : Identity) : Partial :=
  ⟨identity, [], false⟩

end Partial

/-- The octets that have arrived, and the event being put together from them. -/
structure Decoder where
  termination : Termination
  maxEventSize : Nat
  buffer : Bytes
  held : Option Partial
  phase : Phase
  /-- The number of octets passed over so far. -/
  skipped : Nat
  /-- The length of the buffer's front that the last search without success covered. -/
  verified : Nat
  deriving DecidableEq

namespace Decoder

/-- The largest event body that a decoder accepts unless it is told otherwise. -/
def defaultMaxEventSize : Nat := 67108864

/-- A decoder to which nothing has arrived. -/
def fresh (termination : Termination) (maxEventSize : Nat) : Decoder where
  termination := termination
  maxEventSize := maxEventSize
  buffer := []
  held := none
  phase := .scanning
  skipped := 0
  verified := 0

def resynchronizedNotice (count : Nat) : Notice where
  level := .debug
  target := target
  message := "frame header integrity check failed, resynchronized"
  details := [("skipped", .count count)]

def interruptedNotice (event : Partial) : Notice where
  level := .warn
  target := target
  message := "discarding partially reassembled event, frame of another event arrived"
  details :=
    [("event_type", .text event.identity.eventType.text),
      ("bytes", .count event.body.length)]

def oversizedNotice (event : Partial) (limit : Nat) : Notice where
  level := .warn
  target := target
  message := "event exceeds maximum size, discarding it"
  details :=
    [("event_type", .text event.identity.eventType.text), ("limit", .count limit)]

def truncatedNotice (count : Nat) : Notice where
  level := .debug
  target := target
  message := "dropping truncated data at end of stream"
  details := [("bytes", .count count)]

def unfinishedNotice (event : Partial) : Notice where
  level := .warn
  target := target
  message := "discarding partially reassembled event at end of stream"
  details :=
    [("event_type", .text event.identity.eventType.text),
      ("bytes", .count event.body.length)]

/-- Octets arrive. -/
def push (decoder : Decoder) (octets : Bytes) : Decoder :=
  { decoder with buffer := decoder.buffer ++ octets }

/-- Hand over all octets that have arrived and not been used up. -/
def takeRemaining (decoder : Decoder) : Bytes × Decoder :=
  (decoder.buffer, { decoder with buffer := [], phase := .scanning, verified := 0 })

/-- Pass over the front of the buffer. -/
def skip (decoder : Decoder) (count : Nat) : Noted Decoder := do
  Noted.giveIf (count ≠ 0) (resynchronizedNotice count)
  return { decoder with
    buffer := decoder.buffer.drop count
    skipped := decoder.skipped + count }

/-- Return an event whose last chunk has been taken, unless it was dropped on the way. -/
def complete (decoder : Decoder) (event : Partial) : Option Parcel × Decoder :=
  if event.oversized then (none, { decoder with phase := .scanning })
  else (some ⟨event.identity, event.body⟩, { decoder with phase := .done })

/-- End the held event without its last chunk, as the termination policy says. -/
def release (decoder : Decoder) (loss : Partial → Notice) : Noted (Option Parcel × Decoder) :=
  match decoder.held with
  | none => .silent (none, decoder)
  | some event =>
    let emptied := { decoder with held := none }
    match decoder.termination with
    | .implicit => .silent (emptied.complete event)
    | .emptyFrame => do
      Noted.give (loss event)
      return (none, emptied)

/-- Release the held event if a frame of the given identity does not continue it. -/
def releaseFor (decoder : Decoder) (identity : Identity) : Noted (Option Parcel × Decoder) :=
  match decoder.held with
  | none => .silent (none, decoder)
  | some event =>
    if event.identity = identity then .silent (none, decoder)
    else decoder.release interruptedNotice

/-- Add a chunk to an event, dropping the event if it outgrows the limit. -/
def append (decoder : Decoder) (event : Partial) (payload : Bytes) : Noted Partial :=
  if event.oversized then .silent event
  else if decoder.maxEventSize < event.body.length + payload.length then do
    Noted.give (oversizedNotice event decoder.maxEventSize)
    return { event with oversized := true, body := [] }
  else .silent { event with body := event.body ++ payload }

/-- Take the frame with the given header off the front of the buffer. -/
def accept (decoder : Decoder) (header : Header) : Noted (Option Parcel × Decoder) := do
  let payload := (decoder.buffer.drop headerLength).take header.payloadLength
  let event ← decoder.append (decoder.held.getD (.fresh header.identity)) payload
  let rest := { decoder with buffer := decoder.buffer.drop header.length }
  if header.continues then
    return (none, { rest with held := some event, phase := .reassembling })
  else
    return { rest with held := none }.complete event

/-- Deal with the valid frame that a search has found. -/
def takeFrame
    (decoder : Decoder)
    (skipped : Nat)
    (header : Header) :
    Noted (Option Parcel × Decoder) := do
  let aligned ← decoder.skip skipped
  let (released, ready) ←
    { aligned with verified := 0 }.releaseFor header.identity
  match released with
  | some event => return (some event, ready)
  | none => ready.accept header

/-- Wait for more octets after a search without success. -/
def await (decoder : Decoder) (skipped : Nat) : Noted Decoder := do
  let aligned ← decoder.skip skipped
  let phase :=
    if aligned.held.isSome then .reassembling
    else if headerLength ≤ aligned.buffer.length then .awaitingPayload
    else .scanning
  return { aligned with verified := aligned.buffer.length, phase := phase }

/-- Drop what can no longer become a frame, and release the held event. -/
def finish (decoder : Decoder) : Noted (Option Parcel × Decoder) := do
  Noted.giveIf (decoder.buffer ≠ []) (truncatedNotice decoder.buffer.length)
  { decoder with
    buffer := []
    skipped := decoder.skipped + decoder.buffer.length
    verified := 0
    phase := .scanning }.release unfinishedNotice

/-- Releasing an event leaves the buffer alone. -/
theorem buffer_releaseFor (decoder : Decoder) (identity : Identity) :
    (decoder.releaseFor identity).value.2.buffer = decoder.buffer := by
  unfold releaseFor release complete
  split
  · rfl
  · split
    · rfl
    · split
      · rfl
      · split
        · simp only [Noted.value_silent]
          split <;> rfl
        · rfl

/-- Taking a frame off the buffer leaves what stood behind it. -/
theorem buffer_accept (decoder : Decoder) (header : Header) :
    (decoder.accept header).value.2.buffer = decoder.buffer.drop header.length := by
  simp only [accept, Noted.value_bind]
  split
  · rfl
  · simp only [Noted.value_pure, complete]
    split <;> rfl

/-- A frame that completes no event has left the buffer together with what stood before it. -/
theorem buffer_takeFrame
    {decoder : Decoder}
    {skipped : Nat}
    {header : Header}
    (incomplete : (decoder.takeFrame skipped header).value.1 = none) :
    (decoder.takeFrame skipped header).value.2.buffer =
      decoder.buffer.drop (skipped + header.length) := by
  simp only [takeFrame, skip, Noted.value_bind, Noted.value_pure] at incomplete ⊢
  split at incomplete
  · simp at incomplete
  · simp only [buffer_accept, buffer_releaseFor, List.drop_drop]

/--
The next event that the buffered octets complete.

Once the stream has ended nothing is waited for: what cannot become a frame is
dropped, and the held event is released.
-/
def decode (atEnd : Bool) (decoder : Decoder) : Noted (Option Parcel × Decoder) :=
  match _found : rescan decoder.buffer atEnd decoder.verified with
  | .incomplete skipped _ => do
    let waiting ← decoder.await skipped
    return (none, waiting)
  | .exhausted => decoder.finish
  | .found skipped header =>
    let taken := decoder.takeFrame skipped header
    match _incomplete : taken.value with
    | (some event, next) => ⟨(some event, next), taken.notices⟩
    | (none, next) => (decode atEnd next).after taken.notices
termination_by decoder.buffer.length
decreasing_by
  have bound := Scan.le_of_rescan_eq_found _found
  have positive := header.length_pos
  have left :
      (decoder.takeFrame skipped header).value.2.buffer =
        decoder.buffer.drop (skipped + header.length) :=
    buffer_takeFrame (by simp [taken] at _incomplete; simp [_incomplete])
  simp [taken] at _incomplete
  rw [_incomplete] at left
  simp only at left
  rw [left, List.length_drop]
  omega

/--
How much a decoder can still yield: every event it returns uses up octets of
the buffer or the held event.
-/
def weight (decoder : Decoder) : Nat :=
  decoder.buffer.length + if decoder.held.isSome then 1 else 0

/-- An event that is released was held, and is held no longer. -/
theorem weight_release_lt
    {decoder : Decoder}
    {loss : Partial → Notice}
    (released : (decoder.release loss).value.1 ≠ none) :
    (decoder.release loss).value.2.weight < decoder.weight := by
  unfold release complete weight at *
  split at released
  · simp at released
  · next held =>
      split at released
      · simp only [Noted.value_silent] at released ⊢
        split
        · simp_all
        · simp [held]
      · simp at released

/-- An event released for a frame was held, and is held no longer. -/
theorem weight_releaseFor_lt
    {decoder : Decoder}
    {identity : Identity}
    (released : (decoder.releaseFor identity).value.1 ≠ none) :
    (decoder.releaseFor identity).value.2.weight < decoder.weight := by
  unfold releaseFor at *
  split at released
  · simp at released
  · split at released
    · simp at released
    · next held different =>
        simp only [different, ↓reduceIte]
        exact weight_release_lt released

/-- Dealing with a frame uses up the frame or the event held before it. -/
theorem weight_takeFrame_lt
    {decoder : Decoder}
    {skipped : Nat}
    {header : Header}
    (inside : skipped + header.length ≤ decoder.buffer.length) :
    (decoder.takeFrame skipped header).value.2.weight < decoder.weight := by
  by_cases outcome : (decoder.takeFrame skipped header).value.1 = none
  · have left := buffer_takeFrame outcome
    have atMostOne :
        (if (decoder.takeFrame skipped header).value.2.held.isSome then 1 else 0) ≤ 1 := by
      split <;> omega
    have long : headerLength ≤ header.length := Nat.le_add_right _ _
    simp only [headerLength] at long
    unfold weight
    rw [left, List.length_drop]
    omega
  · simp only [takeFrame, skip, Noted.value_bind, Noted.value_pure] at outcome ⊢
    split at outcome
    · next event released =>
        refine Nat.lt_of_lt_of_le (weight_releaseFor_lt (by rw [released]; simp)) ?_
        unfold weight
        simp only [List.length_drop]
        omega
    · next released =>
        have left := buffer_accept
          ({ decoder with
            buffer := decoder.buffer.drop skipped
            skipped := decoder.skipped + skipped
            verified := 0 }.releaseFor header.identity).value.2
          header
        simp only [buffer_releaseFor, List.drop_drop] at left
        have long : headerLength ≤ header.length := Nat.le_add_right _ _
        simp only [headerLength] at long
        unfold weight
        rw [left, List.length_drop]
        split <;> split <;> omega

/-- A search that has to wait returns nothing. -/
theorem decode_of_incomplete
    {atEnd : Bool}
    {decoder : Decoder}
    {skipped needed : Nat}
    (searched : rescan decoder.buffer atEnd decoder.verified = .incomplete skipped needed) :
    (decode atEnd decoder).value = (none, (decoder.await skipped).value) := by
  rw [decode]
  split <;> simp_all

/-- A search that finds nothing at the end of the stream finishes it. -/
theorem decode_of_exhausted
    {atEnd : Bool}
    {decoder : Decoder}
    (searched : rescan decoder.buffer atEnd decoder.verified = .exhausted) :
    decode atEnd decoder = decoder.finish := by
  rw [decode]
  split <;> simp_all

/-- A search that finds a frame returns the event it ends, or goes on behind the frame. -/
theorem decode_of_found
    {atEnd : Bool}
    {decoder : Decoder}
    {skipped : Nat}
    {header : Header}
    (searched : rescan decoder.buffer atEnd decoder.verified = .found skipped header) :
    (decode atEnd decoder).value =
      if (decoder.takeFrame skipped header).value.1.isSome then
        (decoder.takeFrame skipped header).value
      else (decode atEnd (decoder.takeFrame skipped header).value.2).value := by
  rw [decode]
  split
  · simp_all
  · simp_all
  · next foundSkipped foundHeader found =>
      rw [searched] at found
      simp only [Scan.found.injEq] at found
      obtain ⟨rfl, rfl⟩ := found
      simp only
      split <;> simp_all

/-- Every event that a decoder returns uses up some of what it holds. -/
theorem weight_decode_lt
    {atEnd : Bool}
    {decoder : Decoder}
    (returned : (decode atEnd decoder).value.1 ≠ none) :
    (decode atEnd decoder).value.2.weight < decoder.weight := by
  match searched : rescan decoder.buffer atEnd decoder.verified with
  | .incomplete skipped needed =>
      simp [decode_of_incomplete searched] at returned
  | .exhausted =>
      rw [decode_of_exhausted searched] at returned ⊢
      simp only [finish, Noted.value_bind] at returned ⊢
      refine Nat.lt_of_lt_of_le (weight_release_lt returned) ?_
      simp [weight]
  | .found skipped header =>
      have used := weight_takeFrame_lt (Scan.le_of_rescan_eq_found searched)
      rw [decode_of_found searched] at returned ⊢
      split at returned
      · next completed =>
          simp only [completed, ↓reduceIte]
          exact used
      · next incomplete =>
          simp only [incomplete]
          exact Nat.lt_trans (weight_decode_lt returned) used
termination_by decoder.weight

end Decoder

end Frame

end EventWire
