import EventWire.Proofs.Stream.Unused

namespace EventWire

/-!
# Streams that are too narrow for the handshake

The peer's record is an event like any other to a decoder.  A stream that takes
in no event as long as that drops the record, and goes on waiting for it.
-/

open EventWire.Frame VersionRecord

namespace Frame.Decoder

variable (termination : Termination)

theorem decode_fresh (maxEventSize : Nat) :
    ((fresh termination maxEventSize).decode false).value =
      (none, fresh termination maxEventSize) :=
  @decode_of_incomplete false (fresh termination maxEventSize) 0 headerLength rfl

/-- An event that is too long is dropped, and it is as if nothing had arrived. -/
theorem decode_push_of_long
    {maxEventSize : Nat}
    {parcel : Parcel}
    (long : maxEventSize < parcel.body.length) :
    (((fresh termination maxEventSize).push parcel.wire).decode false).value =
      (none, fresh termination maxEventSize) := by
  have dropped :
      Reassembly.run termination maxEventSize none parcel.carriers = ([], none) := by
    have followed := @Reassembly.run_flatMap_carriers_eq termination maxEventSize [parcel]
    rwa [List.flatMap_singleton, fitting_cons, if_neg (Nat.not_le_of_lt long)] at followed
  have drained := @value_drain_push_frames termination maxEventSize parcel.carriers false
  have nothing :
      ((fresh termination maxEventSize).drain false).value =
        ([], fresh termination maxEventSize) := by
    rw [value_drain, decode_fresh]
  rw [Parcel.flatMap_bytes_carriers, dropped, value_drain] at drained
  dsimp only at drained
  rw [show { fresh termination maxEventSize with held := none } = fresh termination maxEventSize
      from rfl, nothing] at drained
  rcases returned : (((fresh termination maxEventSize).push parcel.wire).decode false).value with
    ⟨_ | found, next⟩ <;> rw [returned] at drained
  · exact congrArg (Prod.mk none) (congrArg Prod.snd drained)
  · exact nomatch congrArg Prod.fst drained

end Frame.Decoder

/-- An end that has sent nothing and goes on leaves its peer as it is. -/
theorem Connection.carry_eq
    {sender : Connection}
    (nothing : sender.outbox = [])
    (unfinished : sender.finished = false)
    (receiver : Connection) :
    sender.carry receiver = (sender, receiver) := by
  obtain ⟨id, inbox, peerFinished, outbox, finished, peerDropped, counters⟩ := sender
  obtain rfl : outbox = [] := nothing
  obtain rfl : finished = false := unfinished
  rw [carry, List.append_nil, Bool.or_false]

namespace Stream

/-- A stream that is to negotiate and will not take in its peer's record. -/
structure Narrow (inbox outbox : List Bytes) (stream : Stream) : Prop where
  undecided : stream.Undecided
  narrow : stream.config.maxEventSize < 14
  decoder : stream.decoder = .fresh stream.config.termination stream.config.maxEventSize
  running : stream.ended = false
  attended : stream.filter.connection.peerFinished = false
  inbox : stream.filter.connection.inbox = inbox
  outbox : stream.filter.connection.outbox = outbox

section Waiting

variable {stream left right : Stream} {inbox outbox : List Bytes} {role : Role}

theorem Narrow.decode
    (narrow : stream.Narrow inbox outbox) :
    (stream.decoder.decode stream.ended).value = (none, stream.decoder) := by
  rw [narrow.running, narrow.decoder]
  exact Decoder.decode_fresh _ _

/-- With nothing in its inbox the stream waits for the record. -/
theorem Narrow.blocked
    (narrow : stream.Narrow [] outbox) :
    Awaited (judgeRecord stream.codec) (.protocol .incomplete) .forRecord stream []
      (.blocked .forRecord) stream := by
  have received := Filter.value_receive_of_disabled narrow.undecided.plain
  rw [narrow.inbox, narrow.attended] at received
  exact .blocked narrow.decode narrow.running received

theorem Narrow.stays
    (narrow : stream.Narrow [] outbox)
    (role : Role) :
    (stream.resumeHandshake role (.blocked .forRecord)).value = (.blocked .forRecord, stream) :=
  value_continueHandshake_of_blocked narrow.blocked role

/-- Whatever the peer's record offers, the stream drops it and waits. -/
theorem Narrow.drops
    {offered : Extensions}
    (narrow : stream.Narrow [greeting offered] outbox) :
    ∃ next,
      Awaited (judgeRecord stream.codec) (.protocol .incomplete) .forRecord stream []
          (.blocked .forRecord) next ∧
        next.Narrow [] outbox := by
  have long : stream.config.maxEventSize < (offering offered).parcel.body.length := narrow.narrow
  have dropped :
      ((stream.decoder.push (greeting offered)).decode stream.ended).value =
        (none, stream.decoder) := by
    rw [narrow.running, narrow.decoder]
    exact Decoder.decode_push_of_long _ long
  have received := Filter.value_receive_of_disabled narrow.undecided.plain
  rw [narrow.inbox] at received
  let emptied : Stream :=
    { stream with
      filter :=
        stream.filter.hearing []
          (stream.filter.connection.counters.received (UInt64.ofNat (greeting offered).length))
          stream.filter.received }
  have waits : emptied.Narrow [] outbox :=
    ⟨narrow.undecided.of_standing rfl, narrow.narrow, narrow.decoder, narrow.running,
      narrow.attended, rfl, narrow.outbox⟩
  have nothing := Filter.value_receive_of_disabled waits.undecided.plain
  rw [waits.inbox, waits.attended] at nothing
  exact ⟨emptied, .arrived narrow.decode narrow.running received
    (.blocked dropped narrow.running nothing), waits⟩

theorem Narrow.greeted
    (narrow : stream.Narrow inbox [])
    (extensions : Extensions) :
    (stream.greeted extensions).Narrow inbox [greeting extensions] where
  undecided := narrow.undecided.of_standing rfl
  narrow := narrow.narrow
  decoder := narrow.decoder
  running := narrow.running
  attended := narrow.attended
  inbox := narrow.inbox
  outbox := by
    change stream.filter.connection.outbox ++ [greeting extensions] = _
    rw [narrow.outbox, List.nil_append]

/-- What each end has sent is carried to the other. -/
theorem Narrow.exchange
    {thither hither : List Bytes}
    (narrowLeft : left.Narrow [] thither)
    (narrowRight : right.Narrow [] hither) :
    (exchange left right).1.Narrow hither [] ∧ (exchange left right).2.Narrow thither [] where
  left :=
    { undecided := narrowLeft.undecided.of_standing rfl
      narrow := narrowLeft.narrow
      decoder := narrowLeft.decoder
      running := narrowLeft.running
      attended :=
        Bool.or_eq_false_iff.mpr
          ⟨narrowLeft.attended, narrowRight.undecided.writable.unfinished⟩
      inbox := by
        change left.filter.connection.inbox ++ right.filter.connection.outbox = _
        rw [narrowLeft.inbox, narrowRight.outbox, List.nil_append]
      outbox := rfl }
  right :=
    { undecided := narrowRight.undecided.of_standing rfl
      narrow := narrowRight.narrow
      decoder := narrowRight.decoder
      running := narrowRight.running
      attended :=
        Bool.or_eq_false_iff.mpr
          ⟨narrowRight.attended, narrowLeft.undecided.writable.unfinished⟩
      inbox := by
        change right.filter.connection.inbox ++ left.filter.connection.outbox = _
        rw [narrowRight.inbox, narrowLeft.outbox, List.nil_append]
      outbox := rfl }

/-- Where nothing has been sent nothing is carried. -/
theorem Narrow.exchange_eq
    (narrowLeft : left.Narrow [] [])
    (narrowRight : right.Narrow [] []) :
    Stream.exchange left right = (left, right) := by
  have thither :=
    Connection.carry_eq narrowLeft.outbox narrowLeft.undecided.writable.unfinished
      right.filter.connection
  have hither :=
    Connection.carry_eq narrowRight.outbox narrowRight.undecided.writable.unfinished
      left.filter.connection
  rw [Stream.exchange, Connection.exchange, thither]
  dsimp only
  rw [hither]

/--
When two streams negotiate that are too narrow for each other's record, both
calls are blocked although all that was sent has been received.
-/
theorem blocked_of_negotiateBoth
    (narrowLeft : left.Narrow [] [])
    (narrowRight : right.Narrow [] []) :
    ∃ leftEnd rightEnd,
      (negotiateBoth .initiator .responder left right).value =
          ((.blocked .forRecord, leftEnd), (.blocked .forRecord, rightEnd)) ∧
        leftEnd.Narrow [] [] ∧
        rightEnd.Narrow [] [] := by
  let called := left.greeted left.config.advertised
  have narrowCalled : called.Narrow [] [greeting left.config.advertised] := narrowLeft.greeted _
  have calls : (left.negotiate .initiator).value = (.blocked .forRecord, called) :=
    (narrowLeft.undecided.value_negotiate .initiator).trans
      (value_continueHandshake_of_blocked narrowCalled.blocked .initiator)
  obtain ⟨sent, reached⟩ := narrowCalled.exchange narrowRight
  obtain ⟨dropped, awaited, narrowDropped⟩ := reached.drops
  have drops :
      ((exchange called right).2.negotiate .responder).value = (.blocked .forRecord, dropped) :=
    (reached.undecided.value_negotiate .responder).trans
      (value_continueHandshake_of_blocked awaited .responder)
  -- Neither end has anything left to send, so both stay blocked.
  obtain ⟨leftThen, rightThen⟩ := sent.exchange narrowDropped
  obtain ⟨leftLater, rightLater⟩ := leftThen.exchange rightThen
  obtain ⟨leftLast, rightLast⟩ := leftLater.exchange rightLater
  refine ⟨_, _, ?_, leftLast, rightLast⟩
  rw [negotiateBoth, Noted.value_bind, calls]
  dsimp only
  rw [Noted.value_bind, drops]
  dsimp only
  rw [Noted.value_bind, leftThen.stays]
  dsimp only
  rw [Noted.value_bind, rightLater.stays]
  rfl

end Waiting

end Stream

end EventWire
