import EventWire.Proofs.Frame.Calls
import EventWire.Proofs.Frame.Standing

namespace EventWire

/-!
# Draining ends

An event that is returned has used up a whole frame of the buffer, or the event
that was held.  A decoder therefore yields at most one event for every sixteen
octets that it has buffered, and one more.  Once a call has returned nothing,
the same call returns nothing for good, and changes nothing.
-/

namespace Frame.Decoder

/-- Room for one event for each header's length of octets that is buffered, and the held one. -/
def room (decoder : Decoder) : Nat :=
  decoder.buffer.length / headerLength + if decoder.held.isSome then 1 else 0

theorem room_of_idle
    {decoder : Decoder}
    (idle : decoder.held = none) :
    decoder.room = decoder.buffer.length / headerLength := by
  rw [room, idle]
  rfl

theorem room_of_holding
    {decoder : Decoder}
    (holding : decoder.held.isSome) :
    decoder.room = decoder.buffer.length / headerLength + 1 := by
  rw [room, if_pos holding]

theorem room_le (decoder : Decoder) :
    decoder.room ≤ decoder.buffer.length / headerLength + 1 := by
  unfold room
  split <;> omega

section Room

variable {atEnd : Bool} {decoder last : Decoder} {deeds : List Deed} {result : Option Parcel}

/-- What is left behind a frame has less room than what stood before it, but for a held event. -/
theorem length_behind_lt
    {octets : Bytes}
    {skipped : Nat}
    {frame : Sealed}
    (stands : frameAt? octets skipped = some frame) :
    (octets.drop (skipped + frame.length)).length / headerLength <
      octets.length / headerLength := by
  have inside := add_length_le_of_frameAt? stands
  have long := frame.headerLength_le_length
  rw [List.length_drop]
  rw [headerLength] at long ⊢
  omega

section Held

variable {termination : Termination} {event : Option Partial}

/-- What is returned at the end of the stream was held. -/
theorem isSome_of_close
    {result : Option Parcel}
    (closed : Reassembly.close termination event = result.toList)
    (returned : result ≠ none) :
    event.isSome := by
  cases event with
  | none =>
      cases result with
      | none => exact absurd rfl returned
      | some parcel => exact nomatch closed
  | some event => rfl

/-- What is returned ahead of another event's frame was held. -/
theorem isSome_of_interrupt
    {identity : Identity}
    {parcel : Parcel}
    (ended : Reassembly.interrupt termination identity event = ([parcel], none)) :
    event.isSome := by
  cases event with
  | none => exact nomatch ended
  | some event => rfl

end Held

/-- Every event that is returned takes up room. -/
theorem Decodes.room_lt
    (decodes : Decodes atEnd decoder deeds result last)
    (returned : result ≠ none) :
    last.room < decoder.room := by
  induction decodes with
  | waits _ => exact absurd rfl returned
  | @ends decoder result _ _ closed =>
      rw [room_of_idle rfl, room_of_holding (isSome_of_close closed returned), List.length_nil,
        Nat.zero_div]
      exact Nat.succ_pos _
  | @releases decoder skipped _ _ _ _ _ ended =>
      rw [room_of_idle rfl, room_of_holding (isSome_of_interrupt ended), aligned,
        List.length_drop]
      exact Nat.lt_succ_of_le (Nat.div_le_div_right (Nat.sub_le _ _))
  | completes _ stands _ _ =>
      rw [room_of_idle rfl]
      exact Nat.lt_of_lt_of_le (length_behind_lt stands) (Nat.le_add_right _ _)
  | @absorbs decoder _ skipped frame _ held phase _ _ _ stands _ _ _ inductionHypothesis =>
      -- The frame that is used up makes room for the event that is held behind it.
      have held := room_le { decoder.behind skipped frame held with phase := phase }
      have shorter := length_behind_lt stands
      refine Nat.lt_of_lt_of_le (inductionHypothesis returned) ?_
      exact Nat.le_trans held (Nat.le_trans shorter (Nat.le_add_right _ _))

end Room

/-- Calls in a row return these events, and then nothing. -/
inductive Drains (atEnd : Bool) : Decoder → List Parcel → Decoder → Prop where
  | stops
      {decoder next : Decoder}
      (returned : (decoder.decode atEnd).value = (none, next)) :
      Drains atEnd decoder [] next
  | goesOn
      {decoder next last : Decoder}
      {parcel : Parcel}
      {parcels : List Parcel}
      (returned : (decoder.decode atEnd).value = (some parcel, next))
      (later : Drains atEnd next parcels last) :
      Drains atEnd decoder (parcel :: parcels) last

theorem drains_drain (atEnd : Bool) (decoder : Decoder) :
    Drains atEnd decoder (decoder.drain atEnd).value.1 (decoder.drain atEnd).value.2 := by
  have used := @weight_decode_lt atEnd decoder
  rw [value_drain]
  generalize returned : (decoder.decode atEnd).value = decoded at used
  obtain ⟨result, next⟩ := decoded
  cases result with
  | none => exact .stops returned
  | some parcel =>
      have shorter : next.weight < decoder.weight := used nofun
      exact .goesOn returned (drains_drain atEnd next)
termination_by decoder.weight

/-- The call returns nothing, reports nothing and changes nothing. -/
def Settled (atEnd : Bool) (decoder : Decoder) : Prop :=
  decoder.decode atEnd = .silent (none, decoder)

section Settling

variable {atEnd : Bool} {decoder next : Decoder}

/-- A decoder that has waited in vain waits again, and passes over nothing. -/
theorem settled_await
    {skipped needed : Nat}
    (searched : rescan decoder.buffer false decoder.verified = .incomplete skipped needed) :
    Settled false (decoder.await skipped).value := by
  obtain ⟨further, again⟩ := rescan_drop_of_incomplete searched
  have waits :
      rescan (decoder.await skipped).value.buffer false (decoder.await skipped).value.verified =
        .incomplete 0 further :=
    again
  rw [Settled, decode]
  split
  · next searchedAgain =>
      rw [waits] at searchedAgain
      cases searchedAgain
      rfl
  · next searchedAgain =>
      rw [waits] at searchedAgain
      exact nomatch searchedAgain
  · next searchedAgain =>
      rw [waits] at searchedAgain
      exact nomatch searchedAgain

/-- Nothing comes out of a decoder that holds nothing. -/
theorem Emptied.settled (emptied : decoder.Emptied) : Settled true decoder := by
  obtain ⟨termination, maxEventSize, buffer, held, phase, skipped, verified⟩ := decoder
  obtain ⟨rfl, rfl, rfl, rfl⟩ := emptied
  exact decode_of_exhausted rfl

/-- A call that has returned nothing has settled the decoder. -/
theorem settled_decode (nothing : (decoder.decode atEnd).value.1 = none) :
    Settled atEnd (decoder.decode atEnd).value.2 := by
  obtain ⟨last, turned⟩ := exists_last_turn atEnd decoder
  rw [nothing] at turned
  cases atEnd with
  | true => exact turned.emptied.settled
  | false =>
      generalize returned : (none : Option Parcel) = result at turned
      generalize (decoder.decode false).value.2 = next at turned ⊢
      cases turned with
      | waits searched => exact settled_await searched
      | finishes searched => exact nomatch atEnd_of_rescan_exhausted searched
      | completes _ _ => exact nomatch returned

theorem Settled.performAll_replicate (settled : Settled atEnd decoder) (count : Nat) :
    decoder.performAll (.replicate count (.decode atEnd)) =
      (.replicate count (.decoded none), decoder) := by
  induction count with
  | zero => rfl
  | succ count inductionHypothesis =>
      rw [List.replicate_succ, performAll]
      simp only [perform, show decoder.decode atEnd = _ from settled, Noted.value_silent,
        inductionHypothesis]
      rfl

end Settling

section Drained

variable {atEnd : Bool} {decoder last : Decoder} {parcels : List Parcel}

/-- There is room for every event that is returned. -/
theorem Drains.length_le (drains : Drains atEnd decoder parcels last) :
    parcels.length ≤ decoder.room := by
  induction drains with
  | stops _ => exact Nat.zero_le _
  | @goesOn decoder next _ parcel parcels returned _ inductionHypothesis =>
      obtain ⟨_, decodes⟩ := exists_decodes atEnd decoder
      rw [returned] at decodes
      exact Nat.lt_of_le_of_lt inductionHypothesis (decodes.room_lt nofun)

/-- Draining goes on until the decoder has settled. -/
theorem Drains.settled (drains : Drains atEnd decoder parcels last) : Settled atEnd last := by
  induction drains with
  | @stops decoder next returned =>
      have settled := @settled_decode atEnd decoder (by rw [returned])
      rwa [returned] at settled
  | goesOn _ _ inductionHypothesis => exact inductionHypothesis

/-- Behind the calls that drain a decoder there are only calls that return nothing. -/
theorem Drains.performAll_replicate
    (drains : Drains atEnd decoder parcels last)
    (further : Nat) :
    decoder.performAll (.replicate (parcels.length + 1 + further) (.decode atEnd)) =
      (parcels.map (.decoded ∘ some) ++ .replicate (1 + further) (.decoded none), last) := by
  induction drains with
  | stops returned =>
      have settled := (Drains.stops returned).settled
      rw [List.length_nil, Nat.zero_add, Nat.add_comm 1, List.replicate_succ, performAll]
      simp only [perform, returned, settled.performAll_replicate]
      rfl
  | @goesOn decoder next last parcel parcels returned _ inductionHypothesis =>
      rw [show (parcel :: parcels).length + 1 + further = parcels.length + 1 + further + 1 by
          rw [List.length_cons]; omega,
        List.replicate_succ, performAll]
      simp only [perform, returned, inductionHypothesis]
      rfl

end Drained

/--
Draining ends.  A call is over after one turn for each header's length of
octets that are buffered, and one more.  Calls without a push in between return
an event at most as often, and then nothing; the decoder has then settled, so
that it reports nothing and does not change, however often the call is repeated.
-/
theorem drain_ends (decoder : Decoder) (atEnd : Bool) :
    let drained := (decoder.drain atEnd).value
    decoder.turns atEnd (decoder.buffer.length / headerLength + 1) =
        some (decoder.decode atEnd).value ∧
      drained.1.length ≤ decoder.buffer.length / headerLength + 1 ∧
      drained.2.decode atEnd = .silent (none, drained.2) ∧
      ∀ further,
        decoder.performAll (.replicate (drained.1.length + 1 + further) (.decode atEnd)) =
          (drained.1.map (.decoded ∘ some) ++ .replicate (1 + further) (.decoded none),
            drained.2) := by
  intro drained
  have drains := drains_drain atEnd decoder
  exact ⟨turns_eq (Nat.lt_succ_self _), Nat.le_trans drains.length_le (room_le decoder),
    drains.settled, drains.performAll_replicate⟩

end Frame.Decoder

end EventWire
