import EventWire.Proofs.Transport.Filter
import EventWire.Stream.Traffic

namespace EventWire

/-!
# How waiting goes

Waiting decodes what has arrived and receives more until a parcel settles it.
One relation states every way in which it can go, together with the parcels
that the decoder completes meanwhile; a single induction along the loop shows
that it goes in one of these ways, and the relation leaves no choice.
-/

namespace Stream

section Awaited

variable {Value : Type}

/--
A stream waits, its decoder completes parcels one after the other, and the
waiting comes to an outcome and leaves the stream in a last state.
-/
inductive Awaited
    (judge : Frame.Parcel → Noted (Verdict Value))
    (ending : StreamError)
    (wait : Wait) :
    Stream → List Frame.Parcel → Outcome Value → Stream → Prop where
  | passed
      {stream last : Stream}
      {decoder : Frame.Decoder}
      {parcel : Frame.Parcel}
      {parcels : List Frame.Parcel}
      {outcome : Outcome Value}
      (returned : (stream.decoder.decode stream.ended).value = (some parcel, decoder))
      (judged : (judge parcel).value = .pass)
      (later : Awaited judge ending wait { stream with decoder := decoder } parcels outcome last) :
      Awaited judge ending wait stream (parcel :: parcels) outcome last
  | acknowledged
      {stream last : Stream}
      {decoder : Frame.Decoder}
      {parcel : Frame.Parcel}
      {parcels : List Frame.Parcel}
      {outcome : Outcome Value}
      {count : UInt32}
      (returned : (stream.decoder.decode stream.ended).value = (some parcel, decoder))
      (judged : (judge parcel).value = .acknowledged count)
      (later :
        Awaited judge ending wait
          { stream with
            decoder := decoder
            acknowledged := saturatingSum stream.acknowledged count }
          parcels outcome last) :
      Awaited judge ending wait stream (parcel :: parcels) outcome last
  | settled
      {stream : Stream}
      {decoder : Frame.Decoder}
      {parcel : Frame.Parcel}
      {result : Except StreamError Value}
      (returned : (stream.decoder.decode stream.ended).value = (some parcel, decoder))
      (judged : (judge parcel).value = .settled result) :
      Awaited judge ending wait stream [parcel] (settle result) { stream with decoder := decoder }
  | ended
      {stream : Stream}
      {decoder : Frame.Decoder}
      (returned : (stream.decoder.decode stream.ended).value = (none, decoder))
      (atEnd : stream.ended = true) :
      Awaited judge ending wait stream [] (.failed ending) { stream with decoder := decoder }
  | arrived
      {stream last : Stream}
      {decoder : Frame.Decoder}
      {filter : Filter}
      {octets : Bytes}
      {parcels : List Frame.Parcel}
      {outcome : Outcome Value}
      (returned : (stream.decoder.decode stream.ended).value = (none, decoder))
      (running : stream.ended = false)
      (received : stream.filter.receive.value = (.data octets, filter))
      (later :
        Awaited judge ending wait
          { stream with filter := filter, decoder := decoder.push octets }
          parcels outcome last) :
      Awaited judge ending wait stream parcels outcome last
  | closed
      {stream last : Stream}
      {decoder : Frame.Decoder}
      {filter : Filter}
      {parcels : List Frame.Parcel}
      {outcome : Outcome Value}
      (returned : (stream.decoder.decode stream.ended).value = (none, decoder))
      (running : stream.ended = false)
      (received : stream.filter.receive.value = (.closed, filter))
      (later :
        Awaited judge ending wait
          { stream with filter := filter, decoder := decoder, ended := true }
          parcels outcome last) :
      Awaited judge ending wait stream parcels outcome last
  | failed
      {stream : Stream}
      {decoder : Frame.Decoder}
      {filter : Filter}
      {error : TransportError}
      (returned : (stream.decoder.decode stream.ended).value = (none, decoder))
      (running : stream.ended = false)
      (received : stream.filter.receive.value = (.failed error, filter)) :
      Awaited judge ending wait stream [] (.failed (.transport error))
        { stream with filter := filter, decoder := decoder }
  | blocked
      {stream : Stream}
      {decoder : Frame.Decoder}
      {filter : Filter}
      (returned : (stream.decoder.decode stream.ended).value = (none, decoder))
      (running : stream.ended = false)
      (received : stream.filter.receive.value = (.blocked, filter)) :
      Awaited judge ending wait stream [] (.blocked wait)
        { stream with filter := filter, decoder := decoder }

variable (judge : Frame.Parcel → Noted (Verdict Value)) (ending : StreamError) (wait : Wait)

/-- Waiting goes in one of the ways there are. -/
theorem exists_awaited (stream : Stream) :
    ∃ parcels outcome last, Awaited judge ending wait stream parcels outcome last := by
  fun_induction await judge ending wait stream with
  | case1 stream _ parcel decoder returned _ _ judged inductionHypothesis =>
      obtain ⟨parcels, outcome, last, later⟩ := inductionHypothesis
      exact ⟨_, _, _, .passed returned judged later⟩
  | case2 stream _ parcel decoder returned _ _ count judged inductionHypothesis =>
      obtain ⟨parcels, outcome, last, later⟩ := inductionHypothesis
      exact ⟨_, _, _, .acknowledged returned judged later⟩
  | case3 stream _ parcel decoder returned _ _ result judged =>
      exact ⟨_, _, _, .settled returned judged⟩
  | case4 stream _ decoder returned atEnd => exact ⟨_, _, _, .ended returned atEnd⟩
  | case5 stream _ decoder returned running _ _ octets filter received inductionHypothesis =>
      obtain ⟨parcels, outcome, last, later⟩ := inductionHypothesis
      exact ⟨_, _, _, .arrived returned (Bool.eq_false_iff.mpr running) received later⟩
  | case6 stream _ decoder returned running _ _ filter received inductionHypothesis =>
      obtain ⟨parcels, outcome, last, later⟩ := inductionHypothesis
      exact ⟨_, _, _, .closed returned (Bool.eq_false_iff.mpr running) received later⟩
  | case7 stream _ decoder returned running _ _ error filter received =>
      exact ⟨_, _, _, .failed returned (Bool.eq_false_iff.mpr running) received⟩
  | case8 stream _ decoder returned running _ _ filter received =>
      exact ⟨_, _, _, .blocked returned (Bool.eq_false_iff.mpr running) received⟩

variable {judge ending wait}
variable {stream last : Stream} {parcels : List Frame.Parcel} {outcome : Outcome Value}

/-- A stream whose decoder has nothing to return depends on what it receives next. -/
private theorem value_await_of_none
    {decoder : Frame.Decoder}
    (returned : (stream.decoder.decode stream.ended).value = (none, decoder))
    (running : stream.ended = false) :
    (stream.await judge ending wait).value =
      match stream.filter.receive.value with
      | (.data octets, filter) =>
        (await judge ending wait
          { stream with filter := filter, decoder := decoder.push octets }).value
      | (.closed, filter) =>
        (await judge ending wait
          { stream with filter := filter, decoder := decoder, ended := true }).value
      | (.failed error, filter) =>
        (.failed (.transport error), { stream with filter := filter, decoder := decoder })
      | (.blocked, filter) =>
        (.blocked wait, { stream with filter := filter, decoder := decoder }) := by
  rw [await]
  split
  · simp_all
  · next found =>
      rw [returned] at found
      cases found
      rw [if_neg (Bool.eq_false_iff.mp running)]
      dsimp only
      split <;> simp_all

/-- The ways of waiting leave no choice. -/
theorem Awaited.value_await
    (awaited : Awaited judge ending wait stream parcels outcome last) :
    (stream.await judge ending wait).value = (outcome, last) := by
  induction awaited with
  | passed returned judged _ inductionHypothesis =>
      rw [await, ← inductionHypothesis]
      split <;> simp_all
  | acknowledged returned judged _ inductionHypothesis =>
      rw [await, ← inductionHypothesis]
      split <;> simp_all
  | settled returned judged =>
      rw [await]
      split <;> simp_all
  | ended returned atEnd =>
      rw [await]
      split <;> simp_all
  | arrived returned running received _ inductionHypothesis =>
      rw [value_await_of_none returned running, received, ← inductionHypothesis]
  | closed returned running received _ inductionHypothesis =>
      rw [value_await_of_none returned running, received, ← inductionHypothesis]
  | failed returned running received =>
      rw [value_await_of_none returned running, received]
  | blocked returned running received =>
      rw [value_await_of_none returned running, received]

theorem hearing_of_received
    {filter next : Filter}
    {arrival : Arrival}
    (received : filter.receive.value = (arrival, next)) :
    ∃ inbox counters received, next = filter.hearing inbox counters received := by
  have heard := filter.exists_hearing_of_receive
  rwa [received] at heard

/-- Waiting changes nothing but what has arrived and what was made of it. -/
theorem Awaited.exists_hearing
    (awaited : Awaited judge ending wait stream parcels outcome last) :
    ∃ inbox counters received decoder ended acknowledged,
      last =
        { stream with
          filter := stream.filter.hearing inbox counters received
          decoder := decoder
          ended := ended
          acknowledged := acknowledged } := by
  induction awaited with
  | passed _ _ _ inductionHypothesis =>
      obtain ⟨inbox, counters, received, decoder, ended, acknowledged, rfl⟩ := inductionHypothesis
      exact ⟨_, _, _, _, _, _, rfl⟩
  | acknowledged _ _ _ inductionHypothesis =>
      obtain ⟨inbox, counters, received, decoder, ended, acknowledged, rfl⟩ := inductionHypothesis
      exact ⟨_, _, _, _, _, _, rfl⟩
  | @settled stream => exact ⟨stream.filter.connection.inbox, _, _, _, _, _, rfl⟩
  | @ended stream => exact ⟨stream.filter.connection.inbox, _, _, _, _, _, rfl⟩
  | arrived _ _ received _ inductionHypothesis =>
      obtain ⟨_, _, _, _, _, _, rfl⟩ := inductionHypothesis
      obtain ⟨_, _, _, rfl⟩ := hearing_of_received received
      exact ⟨_, _, _, _, _, _, rfl⟩
  | closed _ _ received _ inductionHypothesis =>
      obtain ⟨_, _, _, _, _, _, rfl⟩ := inductionHypothesis
      obtain ⟨_, _, _, rfl⟩ := hearing_of_received received
      exact ⟨_, _, _, _, _, _, rfl⟩
  | failed _ _ received =>
      obtain ⟨_, _, _, rfl⟩ := hearing_of_received received
      exact ⟨_, _, _, _, _, _, rfl⟩
  | blocked _ _ received =>
      obtain ⟨_, _, _, rfl⟩ := hearing_of_received received
      exact ⟨_, _, _, _, _, _, rfl⟩

end Awaited

end Stream

end EventWire
