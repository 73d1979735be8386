import EventWire.Proofs.Stream.Accounts
import EventWire.Proofs.Stream.Stages

namespace EventWire

/-!
# Streams that have not been used

At a stream that has not been used nothing is received, gathered or counted.
When two such streams negotiate with each other, nothing is left of the
handshake at either end but the extensions that are in force.
-/

open EventWire.Frame VersionRecord

namespace Stream

/-- A stream that has received nothing of what is in its inbox, and has counted no events. -/
structure Rests (inbox outbox : List Bytes) (stream : Stream) : Prop where
  standard : stream.codec.control = Registry.control.value
  writable : stream.filter.connection.Writable
  attended : stream.filter.connection.peerFinished = false
  running : stream.ended = false
  inbox : stream.filter.connection.inbox = inbox
  outbox : stream.filter.connection.outbox = outbox
  gathered : stream.filter.gathered = []
  received : stream.filter.received = []
  buffer : stream.decoder.buffer = []
  held : stream.decoder.held = none
  unsearched : stream.decoder.verified = 0
  accepts : 14 ≤ stream.decoder.maxEventSize
  unacknowledged : stream.unacknowledged = 0
  acknowledged : stream.acknowledged = 0

/-- A stream on which events can be exchanged under the given extensions, and none have been. -/
structure Unused (agreed : Extensions) (stream : Stream) : Prop where
  inForce : stream.InForce agreed
  rests : stream.Rests [] []

/-- What two unused streams exchange reaches either as whole frames, and none is on its way. -/
theorem Unused.supplies
    {agreed : Extensions}
    {sender receiver : Stream}
    (sends : sender.Unused agreed)
    (receives : receiver.Unused agreed)
    (lossless :
      ∀ octets,
        receiver.filter.compressor.decompress (sender.filter.compressor.compress octets) =
          some octets) :
    sender.Supplies receiver ∧ sender.inFlight receiver = 0 := by
  have nothing :
      receiver.filter.connection.inbox ++ sender.filter.connection.outbox = [] := by
    rw [receives.rests.inbox, sends.rests.outbox, List.append_nil]
  refine ⟨{
    standard := receives.rests.standard
    orderly := ⟨?_, receives.rests.unsearched, ?_, Nat.le_trans (by decide) receives.rests.accepts⟩
    running := receives.rests.running
    attended := receives.rests.attended
    clear := receives.rests.received
    chunks := ?_
    gathered := ?_
    atOnce := fun _ => sends.rests.gathered
    agreed := sends.inForce.compressing.trans receives.inForce.compressing.symm
    lossless := lossless }, ?_⟩
  · rw [receives.rests.buffer]
    exact .nil
  · rw [receives.rests.held]
    exact nofun
  · rw [nothing]
    exact nofun
  · rw [sends.rests.gathered]
    exact .nil
  · rw [inFlight, coming, nothing, receives.rests.received, receives.rests.buffer,
      List.flatten_nil, List.append_nil, Filter.unpacked_nil, List.append_nil, reportedIn_nil]

/-- Where nothing has been returned nothing is acknowledged. -/
theorem Unused.accounts
    {agreed : Extensions}
    {reader writer : Stream}
    (framed : agreed.coarse = false)
    (reads : reader.Unused agreed)
    (writes : writer.Unused agreed)
    (lossless :
      ∀ octets,
        writer.filter.compressor.decompress (reader.filter.compressor.compress octets) =
          some octets) :
    reader.Accounts writer 0 0 := by
  obtain ⟨supplies, nothing⟩ := reads.supplies writes lossless
  refine ⟨⟨?_, reads.inForce.unframed.trans framed, reads.rests.standard⟩, reads.rests.writable,
    supplies, ?_, fun _ => ?_⟩
  · rw [reads.inForce.negotiated]
    rfl
  · rw [reads.rests.gathered, reportedIn_nil]
  · rw [nothing, reads.rests.unacknowledged, writes.rests.acknowledged]
    rfl

theorem Unused.prompt
    {agreed : Extensions}
    {stream : Stream}
    (unused : stream.Unused agreed) :
    stream.Prompt := by
  intro positive
  rw [unused.rests.unacknowledged]
  exact positive

section Handshake

variable {stream left right : Stream} {inbox outbox : List Bytes}

theorem Rests.expects
    (rests : stream.Rests inbox outbox)
    (plain : stream.filter.enabled = false)
    (offered : Extensions) :
    stream.Expects offered [] where
  hears :=
    ⟨rests.buffer, rests.held, Nat.le_of_eq rests.unsearched, rests.accepts, List.nil_prefix,
      by decide⟩
  running := rests.running
  plain := plain
  standard := rests.standard

/-- A stream that has received all there is, and has not kept any of it. -/
theorem Rests.emptied
    {held : Option Partial}
    (rests : stream.Rests inbox outbox)
    (released : held = none)
    (counters : Counters)
    (phase : Phase) :
    Rests [] outbox
      { stream with
        filter := stream.filter.hearing [] counters stream.filter.received
        decoder :=
          { stream.decoder with buffer := [], held := held, phase := phase, verified := 0 } } where
  standard := rests.standard
  writable := ⟨rests.writable.unfinished, rests.writable.attended⟩
  attended := rests.attended
  running := rests.running
  inbox := rfl
  outbox := rests.outbox
  gathered := rests.gathered
  received := rests.received
  buffer := rfl
  held := released
  unsearched := rfl
  accepts := rests.accepts
  unacknowledged := rests.unacknowledged
  acknowledged := rests.acknowledged

theorem Rests.with_connection
    (rests : stream.Rests inbox outbox)
    (connection : Connection)
    (writable : connection.Writable)
    (attended : connection.peerFinished = false) :
    Rests connection.inbox connection.outbox
      { stream with filter := { stream.filter with connection := connection } } where
  standard := rests.standard
  writable := writable
  attended := attended
  running := rests.running
  inbox := rfl
  outbox := rfl
  gathered := rests.gathered
  received := rests.received
  buffer := rests.buffer
  held := rests.held
  unsearched := rests.unsearched
  accepts := rests.accepts
  unacknowledged := rests.unacknowledged
  acknowledged := rests.acknowledged

theorem Rests.greeted
    (rests : stream.Rests inbox [])
    (extensions : Extensions) :
    (stream.greeted extensions).Rests inbox [greeting extensions] := by
  have outbox :
      (stream.filter.connection.posted (greeting extensions)).outbox = [greeting extensions] := by
    change stream.filter.connection.outbox ++ [greeting extensions] = _
    rw [rests.outbox, List.nil_append]
  rw [← rests.inbox, ← outbox]
  exact rests.with_connection (stream.filter.connection.posted (greeting extensions))
    ⟨rests.writable.unfinished, rests.writable.attended⟩ rests.attended

/-- Nothing has arrived behind the record that could be handed over. -/
theorem Rests.settled
    (rests : stream.Rests inbox outbox)
    (agreed : Extensions) :
    (stream.settled agreed).Rests inbox outbox := by
  obtain ⟨standard, writable, attended, running, inbox, outbox, gathered, received, buffer, held,
    unsearched, accepts, unacknowledged, acknowledged⟩ := rests
  have handedOver : stream.decoder.buffer ++ stream.filter.received = [] := by
    rw [buffer, received, List.append_nil]
  rcases agreed with ⟨_ | _, _ | _⟩
  · exact ⟨standard, writable, attended, running, inbox, outbox, gathered, received, buffer, held,
      unsearched, accepts, unacknowledged, acknowledged⟩
  · exact ⟨standard, writable, attended, running, inbox, outbox, gathered, received, rfl, held,
      rfl, accepts, unacknowledged, acknowledged⟩
  · exact ⟨standard, writable, attended, running, inbox, outbox, gathered, handedOver, rfl, held,
      rfl, accepts, unacknowledged, acknowledged⟩
  · exact ⟨standard, writable, attended, running, inbox, outbox, gathered, handedOver, rfl, held,
      rfl, accepts, unacknowledged, acknowledged⟩

/-- What a stream has sent is carried away. -/
theorem Rests.sends
    (rests : stream.Rests inbox outbox)
    (receiver : Connection) :
    Rests inbox []
      { stream with
        filter :=
          { stream.filter with connection := (stream.filter.connection.carry receiver).1 } } := by
  rw [← rests.inbox]
  exact rests.with_connection (stream.filter.connection.carry receiver).1
    ⟨rests.writable.unfinished, rests.writable.attended⟩ rests.attended

/-- What the peer has sent is carried to a stream, and the peer may send more. -/
theorem Rests.receives
    {sender : Connection}
    (rests : stream.Rests [] outbox)
    (unfinished : sender.finished = false) :
    Rests sender.outbox outbox
      { stream with
        filter :=
          { stream.filter with connection := (sender.carry stream.filter.connection).2 } } := by
  have inbox : (sender.carry stream.filter.connection).2.inbox = sender.outbox := by
    change stream.filter.connection.inbox ++ sender.outbox = _
    rw [rests.inbox, List.nil_append]
  rw [← rests.outbox, ← inbox]
  exact rests.with_connection (sender.carry stream.filter.connection).2
    ⟨rests.writable.unfinished, rests.writable.attended⟩
    (Bool.or_eq_false_iff.mpr ⟨rests.attended, unfinished⟩)

/-- What each end has sent is carried to the other. -/
theorem Rests.exchange
    {thither hither : List Bytes}
    (restsLeft : left.Rests [] thither)
    (restsRight : right.Rests [] hither) :
    (exchange left right).1.Rests hither [] ∧ (exchange left right).2.Rests thither [] := by
  have sent := restsLeft.sends right.filter.connection
  have reached := restsRight.receives restsLeft.writable.unfinished
  have answered := sent.receives reached.writable.unfinished
  have left := reached.sends (left.filter.connection.carry right.filter.connection).1
  rw [reached.outbox] at answered
  rw [restsLeft.outbox] at left
  exact ⟨answered, left⟩

/-- An initiator sends its record, and waits. -/
theorem Undecided.calls
    (undecided : stream.Undecided)
    (rests : stream.Rests [] []) :
    ∃ next,
      (stream.negotiate .initiator).value = (.blocked .forRecord, next) ∧
        next.Undecided ∧
        next.Rests [] [greeting stream.config.advertised] ∧
        next.config = stream.config ∧
        next.filter.compressor = stream.filter.compressor := by
  have called := rests.greeted stream.config.advertised
  have waits : (stream.greeted stream.config.advertised).Undecided := undecided.of_standing rfl
  obtain ⟨counters, phase, expects, blocked⟩ :=
    (called.expects waits.plain .none).value_continueHandshake_of_part called.attended
      (by rw [called.inbox]; exact List.nil_prefix) (by rw [called.inbox]; decide) .initiator
  rw [called.inbox] at blocked
  exact ⟨_, (undecided.value_negotiate .initiator).trans blocked, waits.hearing _ _ _ _,
    called.emptied called.held counters phase, rfl, rfl⟩

/-- A stream that has received its peer's record puts into force what both offer. -/
theorem Undecided.concludes
    {offered : Extensions}
    (undecided : stream.Undecided)
    (rests : stream.Rests [greeting offered] [])
    (role : Role) :
    ∃ next,
      (stream.continueHandshake role).value =
          (.done (stream.config.advertised.inter offered), next) ∧
        next.InForce (stream.config.advertised.inter offered) ∧
        next.Rests [] (if role = .responder then [greeting stream.config.advertised] else []) ∧
        next.filter.compressor = stream.filter.compressor := by
  have arrived :
      ([] : Bytes) ++ stream.filter.connection.inbox.flatten = greeting offered ++ [] := by
    rw [rests.inbox, List.flatten_singleton, List.nil_append, List.append_nil]
  obtain ⟨extra, rest, counters, phase, nothing, left, concluded⟩ :=
    (rests.expects undecided.plain offered).value_continueHandshake_of_whole undecided arrived role
  obtain ⟨rfl, nothingMore⟩ := List.append_eq_nil_iff.mp nothing
  rw [rests.inbox] at left
  obtain rfl : rest = [] := by
    rcases List.suffix_cons_iff.mp left with rfl | none
    · rw [List.flatten_singleton] at nothingMore
      exact absurd nothingMore (Parcel.wire_ne_nil _)
    · exact List.suffix_nil.mp none
  have received := rests.emptied rfl counters phase
  have stands := undecided.hearing [] counters stream.filter.received
    { stream.decoder with buffer := [], held := none, phase := phase, verified := 0 }
  refine ⟨_, concluded, (stands.answered role).inForce_settled _, Rests.settled ?_ _, ?_⟩
  · cases role with
    | initiator => exact received
    | responder => exact received.greeted _
  · generalize stream.config.advertised.inter offered = agreed
    rcases agreed with ⟨_ | _, _⟩ <;> cases role <;> rfl

/--
When two streams that have not been used negotiate, what both offer comes into
force at both, and they still have not been used.
-/
theorem unused_of_negotiateBoth
    (undecidedLeft : left.Undecided)
    (undecidedRight : right.Undecided)
    (restsLeft : left.Rests [] [])
    (restsRight : right.Rests [] []) :
    let agreed := left.config.advertised.inter right.config.advertised
    ∃ leftEnd rightEnd,
      (negotiateBoth .initiator .responder left right).value =
          ((.done agreed, leftEnd), (.done agreed, rightEnd)) ∧
        leftEnd.Unused agreed ∧
        rightEnd.Unused agreed ∧
        leftEnd.filter.compressor = left.filter.compressor ∧
        rightEnd.filter.compressor = right.filter.compressor := by
  intro agreed
  obtain ⟨called, calls, stillUndecided, restsCalled, configCalled, compressorCalled⟩ :=
    undecidedLeft.calls restsLeft
  obtain ⟨emptied, reached⟩ := restsCalled.exchange restsRight
  have undecidedReached : (exchange called right).2.Undecided := undecidedRight.of_standing rfl
  obtain ⟨answered, answers, inForceAnswered, restsAnswered, compressorAnswered⟩ :=
    undecidedReached.concludes reached .responder
  obtain ⟨returned, restsThen⟩ := emptied.exchange restsAnswered
  have undecidedReturned : (exchange (exchange called right).1 answered).1.Undecided :=
    stillUndecided.of_standing rfl
  obtain ⟨concluded, concludes, inForceConcluded, restsConcluded, compressorConcluded⟩ :=
    undecidedReturned.concludes returned .initiator
  obtain ⟨leftRests, rightRests⟩ := restsConcluded.exchange restsThen
  obtain ⟨leftLast, rightLast⟩ := leftRests.exchange rightRests
  have agreedRight :
      (exchange called right).2.config.advertised.inter left.config.advertised = agreed :=
    Extensions.inter_comm _ _
  have agreedLeft :
      (exchange (exchange called right).1 answered).1.config.advertised.inter
        (exchange called right).2.config.advertised = agreed :=
    congrArg (fun config => config.advertised.inter right.config.advertised) configCalled
  rw [agreedRight] at answers inForceAnswered
  rw [agreedLeft] at concludes inForceConcluded
  have answering := (undecidedReached.value_negotiate .responder).trans answers
  refine ⟨_, _, ?_, ⟨?_, leftLast⟩, ⟨?_, rightLast⟩, compressorConcluded.trans compressorCalled,
    compressorAnswered⟩
  · rw [negotiateBoth, Noted.value_bind, calls]
    dsimp only
    rw [Noted.value_bind, answering]
    dsimp only
    rw [Noted.value_bind, resumeHandshake, concludes]
    rfl
  · exact ⟨inForceConcluded.negotiated, inForceConcluded.compressing, inForceConcluded.unframed⟩
  · exact ⟨inForceAnswered.negotiated, inForceAnswered.compressing, inForceAnswered.unframed⟩

end Handshake

section Arrival

variable {stream : Stream} {outbox : List Bytes} {parcel : Parcel}

/-- The one parcel that has arrived is the next to be decoded, and there is no other. -/
theorem Rests.exists_decoded
    (rests : stream.Rests [parcel.wire] outbox)
    (plain : stream.filter.enabled = false)
    (small : parcel.body.length ≤ stream.decoder.maxEventSize) :
    ∃ idle counters used,
      (stream.decoder.decode false).value = (none, idle) ∧
        stream.filter.receive.value =
          (.data parcel.wire, stream.filter.hearing [] counters stream.filter.received) ∧
        ((idle.push parcel.wire).decode false).value = (some parcel, used) ∧
        used.Holds [] := by
  have holds : stream.decoder.Holds [] := ⟨rests.buffer, rests.held, rests.unsearched, nofun⟩
  obtain ⟨idle, decoded, empty, sameLimit⟩ := holds.decode_nil false
  obtain ⟨used, returned, exhausted, -⟩ :=
    (@Decoder.Holds.push _ _ empty [parcel]
      (List.forall_mem_singleton.mpr (sameLimit ▸ small))).decode_cons false
  rw [List.flatMap_singleton] at returned
  have received := Filter.value_receive_of_disabled plain
  rw [rests.inbox] at received
  exact ⟨idle, _, used, decoded, received, returned, exhausted⟩

theorem Rests.exists_awaited_of_record
    {record : Record}
    (rests : stream.Rests [parcel.wire] outbox)
    (plain : stream.filter.enabled = false)
    (small : parcel.body.length ≤ stream.decoder.maxEventSize)
    (found : stream.codec.userRecord? parcel = some record) :
    ∃ last,
      Awaited (judgeEvent stream.codec) .closed .forEvent stream [parcel]
        (.done (.record record)) last := by
  obtain ⟨idle, counters, used, decoded, received, returned, -⟩ := rests.exists_decoded plain small
  rw [← rests.running] at decoded returned
  exact ⟨_, .arrived decoded rests.running received (.settled returned (judgeEvent_of_some found))⟩

theorem Rests.exists_awaited_of_acknowledgement
    {acknowledgement : Acknowledgement}
    (rests : stream.Rests [acknowledgement.parcel.wire] outbox)
    (plain : stream.filter.enabled = false) :
    ∃ last,
      Awaited (judgeEvent stream.codec) .closed .forEvent stream [acknowledgement.parcel]
          (.blocked .forEvent) last ∧
        last.acknowledged = acknowledgement.count ∧
        last.filter.connection.Writable := by
  have small : acknowledgement.parcel.body.length ≤ stream.decoder.maxEventSize :=
    Nat.le_trans (by decide : 4 ≤ 14) rests.accepts
  obtain ⟨idle, counters, used, decoded, received, returned, empty⟩ :=
    rests.exists_decoded plain small
  obtain ⟨drained, exhausted, -, -⟩ := empty.decode_nil false
  have attended := rests.attended
  have blocked :
      (stream.filter.hearing [] counters stream.filter.received).receive.value =
        (.blocked, stream.filter.hearing [] counters stream.filter.received) := by
    rw [@Filter.value_receive_of_empty (stream.filter.hearing [] counters stream.filter.received)
      rests.received rfl]
    exact congrArg (fun finished => (if finished then Arrival.closed else .blocked, _)) attended
  rw [← rests.running] at decoded returned exhausted
  refine ⟨_, .arrived decoded rests.running received
    (.acknowledged returned (judgeEvent_acknowledgement rests.standard acknowledgement)
      (.blocked exhausted rests.running blocked)), ?_, ?_⟩
  · change saturatingSum stream.acknowledged acknowledgement.count = acknowledgement.count
    rw [rests.acknowledged, ← UInt32.toNat_inj]
    exact (toNat_saturatingSum (by simpa using acknowledgement.count.toNat_lt)).trans
      (Nat.zero_add _)
  · exact ⟨rests.writable.unfinished, rests.writable.attended⟩

end Arrival

end Stream

namespace Equipment

open EventWire.Stream

variable {equipment : Equipment}

theorem rests_stream
    (accepts : 14 ≤ equipment.config.maxEventSize)
    (registry : Registry)
    (id : ConnectionId) :
    (equipment.stream registry (.fresh id)).Rests [] [] :=
  ⟨rfl, ⟨rfl, rfl⟩, rfl, rfl, rfl, rfl, rfl, rfl, rfl, rfl, rfl, accepts, rfl, rfl⟩

/-- A new stream that is spared the handshake can be used at once. -/
theorem unused_stream
    (spared : equipment.config.negotiate = false)
    (framed : equipment.config.coarse = false)
    (accepts : 14 ≤ equipment.config.maxEventSize)
    (registry : Registry)
    (id : ConnectionId) :
    (equipment.stream registry (.fresh id)).Unused .none where
  inForce := by
    refine ⟨?_, rfl, framed⟩
    change (if equipment.config.coarse then some _ else
      if equipment.config.negotiate then none else some Extensions.none) = _
    rw [framed, spared]
    rfl
  rests := rests_stream accepts registry id

end Equipment

end EventWire
