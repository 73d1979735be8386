import EventWire.Proofs.Protocol.RoundTrip
import EventWire.Proofs.Stream.Sending
import EventWire.Proofs.Stream.Waiting

namespace EventWire

/-!
# Whether reading loses events

A read takes one event out of the decoder and then may have to acknowledge it.
While the connection can be written to this succeeds, so the reads return every
event that the decoder completes, once and in order.  Once it cannot, the event
is gone with the failing acknowledgement: the read reports the error in its
place, and no later read returns it.
-/

/-- The user's record that a parcel holds, if it holds one. -/
def Codec.userRecord? (codec : Codec) (parcel : Frame.Parcel) : Option Record :=
  (codec.open? parcel).value.filter fun record => !record.eventType.isControl

namespace Outcome

/-- The user's records that an outcome hands over. -/
def records : Outcome Event → List Record
  | done (.record record) => [record]
  | _ => []

end Outcome

namespace Stream

section Judging

variable {codec : Codec} {parcel : Frame.Parcel}

theorem judgeEvent_of_some
    {record : Record}
    (found : codec.userRecord? parcel = some record) :
    (judgeEvent codec parcel).value = .settled (.ok (.record record)) := by
  obtain ⟨opened, ordinary⟩ := Option.filter_eq_some_iff.mp found
  have uncontrolled : ¬ record.eventType.isControl = true := by
    simpa using ordinary
  rw [judgeEvent, Noted.value_bind, opened]
  dsimp only
  rw [if_neg uncontrolled]
  rfl

/-- What a control event means to a stream that reads is never an event. -/
theorem value_judgeControl (record : Record) :
    (judgeControl record).value = .pass ∨
      (∃ count, (judgeControl record).value = .acknowledged count) ∨
        ∃ error, (judgeControl record).value = .settled (.error error) := by
  rw [judgeControl]
  split
  · exact .inr (.inl ⟨_, rfl⟩)
  · split
    · exact .inl rfl
    · split
      · exact .inr (.inr ⟨_, rfl⟩)
      · exact .inl rfl

theorem judgeEvent_of_none
    (none : codec.userRecord? parcel = none) :
    (judgeEvent codec parcel).value = .pass ∨
      (∃ count, (judgeEvent codec parcel).value = .acknowledged count) ∨
        ∃ error, (judgeEvent codec parcel).value = .settled (.error error) := by
  rw [judgeEvent, Noted.value_bind]
  rw [Codec.userRecord?] at none
  split
  · exact .inl rfl
  · next record opened =>
      rw [opened, Option.filter_some] at none
      split at none
      · exact nomatch none
      · next controlled =>
          have control : record.eventType.isControl = true := by
            simpa using controlled
          rw [if_pos control]
          exact value_judgeControl record

theorem judgeEvent_of_unopened
    (unopened : (codec.open? parcel).value = none) :
    (judgeEvent codec parcel).value = .pass := by
  rw [judgeEvent, Noted.value_bind, unopened]
  rfl

/-- No event ends a read as the end of the stream does. -/
theorem judgeEvent_ne_closed (codec : Codec) (parcel : Frame.Parcel) :
    (judgeEvent codec parcel).value ≠ .settled (.error .closed) := by
  intro judged
  rw [judgeEvent, Noted.value_bind] at judged
  split at judged
  · cases judged
  · split at judged
    · rw [judgeControl] at judged
      split at judged
      · cases judged
      · split at judged
        · cases judged
        · split at judged <;> cases judged
    · cases judged

/-- An acknowledgement that arrives is added up, and nothing is returned for it. -/
theorem judgeEvent_acknowledgement
    (standard : codec.control = Registry.control.value)
    (acknowledgement : Acknowledgement) :
    (judgeEvent codec acknowledgement.parcel).value = .acknowledged acknowledgement.count := by
  rw [judgeEvent, Noted.value_bind, Codec.value_open?_acknowledgement standard]
  dsimp only
  rw [if_pos (show acknowledgement.toRecord.eventType.isControl = true from rfl), judgeControl,
    Acknowledgement.ofRecord?_toRecord]
  rfl

end Judging

/-- An event for a reader hands over the one user's record among the parcels it has seen. -/
theorem Awaited.records_eq
    {codec : Codec}
    {ending : StreamError}
    {wait : Wait}
    {stream last : Stream}
    {parcels : List Frame.Parcel}
    {outcome : Outcome Event}
    (awaited : Awaited (judgeEvent codec) ending wait stream parcels outcome last) :
    outcome.records = parcels.filterMap codec.userRecord? ∧
      ∀ event, outcome = .done event → ∃ record, event = .record record := by
  have unsettled
      {parcel : Frame.Parcel}
      {verdict : Verdict Event}
      (judged : (judgeEvent codec parcel).value = verdict)
      (other : ∀ event, verdict ≠ .settled (.ok event)) :
      codec.userRecord? parcel = none := by
    cases found : codec.userRecord? parcel with
    | none => rfl
    | some record => exact absurd (judged.symm.trans (judgeEvent_of_some found)) (other _)
  induction awaited with
  | passed _ judged _ inductionHypothesis =>
      rw [List.filterMap_cons_none (unsettled judged nofun)]
      exact inductionHypothesis
  | acknowledged _ judged _ inductionHypothesis =>
      rw [List.filterMap_cons_none (unsettled judged nofun)]
      exact inductionHypothesis
  | @settled _ _ parcel result _ judged =>
      cases result with
      | error error =>
          rw [List.filterMap_cons_none (unsettled judged nofun)]
          exact ⟨rfl, nofun⟩
      | ok event =>
          cases found : codec.userRecord? parcel with
          | none =>
              rcases judgeEvent_of_none found with same | ⟨_, same⟩ | ⟨_, same⟩ <;>
                exact nomatch judged.symm.trans same
          | some record =>
              cases judged.symm.trans (judgeEvent_of_some found)
              rw [List.filterMap_cons_some found]
              exact ⟨rfl, fun _ same => ⟨record, by cases same; rfl⟩⟩
  | ended _ _ => exact ⟨rfl, nofun⟩
  | arrived _ _ _ _ inductionHypothesis => exact inductionHypothesis
  | closed _ _ _ _ inductionHypothesis => exact inductionHypothesis
  | failed _ _ _ => exact ⟨rfl, nofun⟩
  | blocked _ _ _ => exact ⟨rfl, nofun⟩

section Framed

variable {stream received : Stream} {parcels : List Frame.Parcel}

/-- What a read comes to once its waiting has: an event is counted before it is returned. -/
def conclude (outcome : Outcome Event) (received : Stream) : Outcome Event × Stream :=
  match outcome with
  | .done event =>
    match (countRead.on received).value with
    | (.ok (), counted) => (.done event, counted)
    | (.error error, counted) => (.failed error, counted)
  | other => (other, received)

theorem snd_conclude_done (event : Event) (received : Stream) :
    (conclude (.done event) received).2 = (countRead.on received).value.2 := by
  rw [conclude]
  rcases (countRead.on received).value with ⟨_ | _, _⟩ <;> rfl

theorem value_readFramed
    {outcome : Outcome Event}
    (awaited :
      Awaited (judgeEvent stream.codec) .closed .forEvent stream parcels outcome received) :
    stream.readFramed.value = conclude outcome received := by
  rw [readFramed, Noted.value_bind, awaited.value_await]
  cases outcome with
  | done event =>
      rw [conclude]
      dsimp only
      rw [Noted.value_bind]
      rcases (countRead.on received).value with ⟨_ | _, _⟩ <;> rfl
  | failed error => rfl
  | blocked wait => rfl

/-- A stream whose handshake is over reads without negotiating. -/
theorem value_read_of_isSome
    (negotiated : stream.negotiated.isSome = true) :
    stream.read.value = stream.readNegotiated.value := by
  obtain ⟨_, settled⟩ := Option.isSome_iff_exists.mp negotiated
  rw [read, Noted.value_bind, negotiate, settled]
  rfl

/-- A stream on which events are read: it has negotiated, and not to carry opaque octets. -/
structure Framed (stream : Stream) : Prop where
  negotiated : stream.negotiated.isSome = true
  framed : stream.coarse = false
  standard : stream.codec.control = Registry.control.value

theorem Framed.value_read
    (framed : stream.Framed) :
    stream.read.value = stream.readFramed.value := by
  rw [value_read_of_isSome framed.negotiated, readNegotiated,
    if_neg (Bool.eq_false_iff.mp framed.framed)]

end Framed

/-- What became of the user's records that the decoder completed during one read. -/
inductive Accounted (records : List Record) : Outcome Event → Prop where
  /-- The read returned the record, if there was one. -/
  | returned
      {outcome : Outcome Event}
      (same : outcome.records = records) :
      Accounted records outcome
  /-- The read failed to acknowledge the record and did not return it. -/
  | lost
      {record : Record}
      {error : StreamError}
      (only : records = [record])
      (unwritable : Unwritable error) :
      Accounted records (.failed error)

/-- A stream that can acknowledge what it reads, or never does so of its own accord. -/
def Acknowledges (stream : Stream) : Prop :=
  stream.config.ackLimit = 0 ∨ stream.filter.connection.Writable

section Read

variable
  {stream received : Stream} {parcels : List Frame.Parcel} {outcome : Outcome Event}

/-- Reading an event changes only what is received, what is sent and the counts of events. -/
theorem exists_readFramed (stream : Stream) :
    ∃ inbox counters received gathered outbox sent decoder ended unacknowledged acknowledged,
      stream.readFramed.value.2 =
        { stream with
          filter := (stream.filter.hearing inbox counters received).speaking gathered outbox sent
          decoder := decoder
          ended := ended
          unacknowledged := unacknowledged
          acknowledged := acknowledged } := by
  obtain ⟨parcels, outcome, received, awaited⟩ :=
    exists_awaited (judgeEvent stream.codec) .closed .forEvent stream
  rw [value_readFramed awaited]
  obtain ⟨inbox, counters, kept, decoder, ended, acknowledged, rfl⟩ := awaited.exists_hearing
  cases outcome with
  | done event =>
      obtain ⟨gathered, outbox, sent, unacknowledged, counted⟩ :=
        speaks_countRead
          { stream with
            filter := stream.filter.hearing inbox counters kept
            decoder := decoder
            ended := ended
            acknowledged := acknowledged }
      rw [snd_conclude_done, counted]
      exact ⟨_, _, _, _, _, _, _, _, _, _, rfl⟩
  | failed _ =>
      exact
        ⟨inbox, counters, kept, stream.filter.gathered, stream.filter.connection.outbox, counters,
          decoder, ended, stream.unacknowledged, acknowledged, rfl⟩
  | blocked _ =>
      exact
        ⟨inbox, counters, kept, stream.filter.gathered, stream.filter.connection.outbox, counters,
          decoder, ended, stream.unacknowledged, acknowledged, rfl⟩

theorem Framed.exists_read
    (framed : stream.Framed) :
    ∃ inbox counters received gathered outbox sent decoder ended unacknowledged acknowledged,
      stream.read.value.2 =
        { stream with
          filter := (stream.filter.hearing inbox counters received).speaking gathered outbox sent
          decoder := decoder
          ended := ended
          unacknowledged := unacknowledged
          acknowledged := acknowledged } := by
  rw [framed.value_read]
  exact exists_readFramed stream

theorem negotiated_readCoarse : stream.readCoarse.value.2.negotiated = stream.negotiated := by
  rw [readCoarse]
  by_cases burdened : stream.rawBacklog ≠ []
  · rw [if_pos burdened]
    rfl
  · rw [if_neg burdened]
    by_cases ended : stream.ended = true
    · rw [if_pos ended]
      rfl
    · rw [if_neg ended, Noted.value_bind]
      rcases stream.filter.receive.value with ⟨_ | _ | _ | _, _⟩ <;> rfl

theorem negotiated_readFramed : stream.readFramed.value.2.negotiated = stream.negotiated := by
  obtain ⟨_, _, _, _, _, _, _, _, _, _, left⟩ := stream.exists_readFramed
  rw [left]

/-- What was agreed stays agreed while events are read. -/
theorem negotiated_read (negotiated : stream.negotiated.isSome = true) :
    stream.read.value.2.negotiated = stream.negotiated := by
  rw [value_read_of_isSome negotiated, readNegotiated]
  split
  · exact negotiated_readCoarse
  · exact negotiated_readFramed

/-- A stream that acknowledges counts what it reads without an error. -/
theorem Acknowledges.of_countRead_eq_error
    (acknowledges : stream.Acknowledges)
    (standard : stream.codec.control = Registry.control.value)
    (error : StreamError) :
    (countRead.on stream).value.1 ≠ .error error := by
  intro failed
  rcases acknowledges with unlimited | writable
  · have early :
        ¬ (0 < stream.config.ackLimit ∧ stream.config.ackLimit ≤ stream.unacknowledged + 1) := by
      rw [unlimited]
      exact fun due => absurd due.1 (by decide)
    rw [value_countRead_of_early early] at failed
    exact nomatch failed
  · exact (Stream.of_countRead_eq_error standard failed).1 writable

/-- The records completed during a read are returned, unless acknowledging one of them fails. -/
theorem Framed.accounted_read
    (framed : stream.Framed)
    (awaited :
      Awaited (judgeEvent stream.codec) .closed .forEvent stream parcels outcome received) :
    Accounted (parcels.filterMap stream.codec.userRecord?) stream.read.value.1 ∧
      (stream.Acknowledges →
        stream.read.value.1.records = parcels.filterMap stream.codec.userRecord?) := by
  obtain ⟨handed, isRecord⟩ := awaited.records_eq
  have standard : received.codec.control = Registry.control.value := by
    obtain ⟨_, _, _, _, _, _, rfl⟩ := awaited.exists_hearing
    exact framed.standard
  have stillAcknowledges (acknowledges : stream.Acknowledges) : received.Acknowledges := by
    obtain ⟨_, _, _, _, _, _, rfl⟩ := awaited.exists_hearing
    exact acknowledges.imp_right fun writable => ⟨writable.unfinished, writable.attended⟩
  rw [framed.value_read, value_readFramed awaited]
  cases outcome with
  | done event =>
      rw [conclude]
      split
      · exact ⟨.returned handed, fun _ => handed⟩
      · next error counted performed =>
          have failed := congrArg Prod.fst performed
          obtain ⟨record, rfl⟩ := isRecord event rfl
          constructor
          · exact .lost handed.symm (of_countRead_eq_error standard failed).2
          · intro acknowledges
            exact absurd failed
              ((stillAcknowledges acknowledges).of_countRead_eq_error standard error)
  | failed _ => exact ⟨.returned handed, fun _ => handed⟩
  | blocked _ => exact ⟨.returned handed, fun _ => handed⟩

end Read

/-- What can happen at an end of a connection whose stream is read. -/
inductive Occurrence where
  | read
  /-- A chunk arrives from the peer. -/
  | arrival (octets : Bytes)
  /-- The peer closes its end for sending. -/
  | peerCloses
  /-- The peer drops its end. -/
  | peerDrops
  /-- This end is closed for sending. -/
  | close
  deriving DecidableEq

namespace Occurrence

/-- The stream after something has happened. -/
def after (occurrence : Occurrence) (stream : Stream) : Stream :=
  match occurrence with
  | read => stream.read.value.2
  | arrival octets =>
    { stream with
      filter :=
        { stream.filter with
          connection :=
            { stream.filter.connection with
              inbox := stream.filter.connection.inbox ++ [octets] } } }
  | peerCloses =>
    { stream with
      filter :=
        { stream.filter with
          connection := { stream.filter.connection with peerFinished := true } } }
  | peerDrops =>
    { stream with
      filter := { stream.filter with connection := stream.filter.connection.dropPeer } }
  | close => (Stream.close.on stream).value.2

/-- Whether a connection can be written to after this if it could be before. -/
def keepsWritable : Occurrence → Bool
  | peerDrops => false
  | close => false
  | _ => true

end Occurrence

/--
Things happen at the end of a stream one after the other.  Each read is logged
with the parcels that the decoder completed during it and with its outcome.
-/
inductive Reads : Stream → List Occurrence → List (List Frame.Parcel × Outcome Event) → Prop where
  | nil (stream : Stream) : Reads stream [] []
  | read
      {stream received : Stream}
      {occurrences : List Occurrence}
      {log : List (List Frame.Parcel × Outcome Event)}
      {parcels : List Frame.Parcel}
      {outcome : Outcome Event}
      (completed :
        Awaited (judgeEvent stream.codec) .closed .forEvent stream parcels outcome received)
      (later : Reads (Occurrence.read.after stream) occurrences log) :
      Reads stream (.read :: occurrences) ((parcels, stream.read.value.1) :: log)
  | other
      {stream : Stream}
      {occurrence : Occurrence}
      {occurrences : List Occurrence}
      {log : List (List Frame.Parcel × Outcome Event)}
      (noRead : occurrence ≠ .read)
      (later : Reads (occurrence.after stream) occurrences log) :
      Reads stream (occurrence :: occurrences) log

section Runs

variable {stream : Stream} {occurrence : Occurrence}

theorem exists_reads
    (stream : Stream)
    (occurrences : List Occurrence) :
    ∃ log, Reads stream occurrences log := by
  induction occurrences generalizing stream with
  | nil => exact ⟨[], .nil stream⟩
  | cons occurrence rest inductionHypothesis =>
      obtain ⟨log, later⟩ := inductionHypothesis (occurrence.after stream)
      by_cases isRead : occurrence = .read
      · subst isRead
        obtain ⟨parcels, outcome, received, completed⟩ :=
          exists_awaited (judgeEvent stream.codec) .closed .forEvent stream
        exact ⟨_, .read completed later⟩
      · exact ⟨log, .other isRead later⟩

theorem Framed.after
    (framed : stream.Framed)
    (occurrence : Occurrence) :
    (occurrence.after stream).Framed ∧
      (occurrence.after stream).codec = stream.codec ∧
      (occurrence.after stream).config = stream.config := by
  obtain ⟨negotiated, events, standard⟩ := framed
  cases occurrence with
  | read =>
      obtain ⟨_, _, _, _, _, _, _, _, _, _, left⟩ :=
        Framed.exists_read ⟨negotiated, events, standard⟩
      rw [Occurrence.after, left]
      exact ⟨⟨negotiated, events, standard⟩, rfl, rfl⟩
  | arrival _ => exact ⟨⟨negotiated, events, standard⟩, rfl, rfl⟩
  | peerCloses => exact ⟨⟨negotiated, events, standard⟩, rfl, rfl⟩
  | peerDrops => exact ⟨⟨negotiated, events, standard⟩, rfl, rfl⟩
  | close =>
      obtain ⟨_, _, _, _, closed⟩ := stream.filter.exists_speaking_of_close
      rw [Occurrence.after, Stream.close, Action.value_on_onFilter, closed]
      exact ⟨⟨negotiated, events, standard⟩, rfl, rfl⟩

theorem Framed.writable_after
    (framed : stream.Framed)
    (writable : stream.filter.connection.Writable)
    (keeps : occurrence.keepsWritable = true) :
    (occurrence.after stream).filter.connection.Writable := by
  cases occurrence with
  | read =>
      obtain ⟨_, _, _, _, _, _, _, _, _, _, left⟩ := framed.exists_read
      rw [Occurrence.after, left]
      exact ⟨writable.unfinished, writable.attended⟩
  | arrival _ => exact ⟨writable.unfinished, writable.attended⟩
  | peerCloses => exact ⟨writable.unfinished, writable.attended⟩
  | peerDrops => exact absurd keeps Bool.false_ne_true
  | close => exact absurd keeps Bool.false_ne_true

/-- Nothing that happens keeps the stream from acknowledging what it reads. -/
def AcknowledgesDuring (stream : Stream) (occurrences : List Occurrence) : Prop :=
  stream.config.ackLimit = 0 ∨
    stream.filter.connection.Writable ∧
      ∀ occurrence ∈ occurrences, occurrence.keepsWritable = true

theorem AcknowledgesDuring.tail
    {occurrences : List Occurrence}
    (acknowledges : stream.AcknowledgesDuring (occurrence :: occurrences))
    (framed : stream.Framed) :
    (occurrence.after stream).AcknowledgesDuring occurrences := by
  rcases acknowledges with unlimited | ⟨writable, keep⟩
  · left
    rw [(framed.after occurrence).2.2]
    exact unlimited
  · rw [List.forall_mem_cons] at keep
    exact .inr ⟨framed.writable_after writable keep.1, keep.2⟩

/--
Whatever happens at its end, every user's record that the decoder of a framed
stream completes is returned by the read that completed it or lost when this
read fails to acknowledge it.  As long as nothing keeps the stream from
acknowledging, the reads return these records, each once and in order.
-/
theorem reads_accounted
    (framed : stream.Framed)
    (occurrences : List Occurrence) :
    (∃ log, Reads stream occurrences log) ∧
      ∀ log, Reads stream occurrences log →
        (∀ entry ∈ log, Accounted (entry.1.filterMap stream.codec.userRecord?) entry.2) ∧
          (stream.AcknowledgesDuring occurrences →
            log.flatMap (fun entry => entry.2.records) =
              (log.flatMap Prod.fst).filterMap stream.codec.userRecord?) := by
  refine ⟨exists_reads stream occurrences, ?_⟩
  intro log reads
  induction reads with
  | nil stream => exact ⟨nofun, fun _ => rfl⟩
  | @read stream received occurrences log parcels outcome completed later inductionHypothesis =>
      obtain ⟨nextFramed, sameCodec, -⟩ := framed.after .read
      obtain ⟨accountedLater, returnedLater⟩ := inductionHypothesis nextFramed
      obtain ⟨accounted, returned⟩ := framed.accounted_read completed
      rw [sameCodec] at accountedLater returnedLater
      constructor
      · exact List.forall_mem_cons.mpr ⟨accounted, accountedLater⟩
      · intro acknowledges
        rw [List.flatMap_cons, List.flatMap_cons, List.filterMap_append,
          returned (acknowledges.imp_right And.left), returnedLater (acknowledges.tail framed)]
  | @other stream occurrence occurrences log noRead later inductionHypothesis =>
      obtain ⟨nextFramed, sameCodec, -⟩ := framed.after occurrence
      obtain ⟨accountedLater, returnedLater⟩ := inductionHypothesis nextFramed
      rw [sameCodec] at accountedLater returnedLater
      exact ⟨accountedLater, fun acknowledges => returnedLater (acknowledges.tail framed)⟩

end Runs

section Eager

/-- A stream that acknowledges every single event. -/
def eager : Stream :=
  (onConnection (.fresh ⟨1⟩) Codec.sampleWriter
    { StreamConfig.default with negotiate := false, ackLimit := 1 }).value

/-- The parcel of a record without fields. -/
def tickParcel : Frame.Parcel :=
  ⟨⟨Codec.tickSchema.eventType, Route.none⟩, []⟩

theorem framed_eager : eager.Framed :=
  ⟨rfl, rfl, rfl⟩

theorem userRecord?_tickParcel :
    eager.codec.userRecord? tickParcel = some Codec.tickSchema.blank :=
  rfl

/-- When its peer has not gone, such a stream returns the record that has arrived. -/
theorem reads_accounted_eager :
    eager.Framed ∧
      ∃ log,
        Reads eager [.arrival tickParcel.wire, .peerCloses, .read, .read] log ∧
          log.flatMap (fun entry => entry.2.records) =
            (log.flatMap Prod.fst).filterMap eager.codec.userRecord? := by
  obtain ⟨⟨log, reads⟩, accounts⟩ :=
    reads_accounted framed_eager [.arrival tickParcel.wire, .peerCloses, .read, .read]
  have acknowledges :
      eager.AcknowledgesDuring [.arrival tickParcel.wire, .peerCloses, .read, .read] :=
    .inr ⟨⟨rfl, rfl⟩, by decide⟩
  exact ⟨framed_eager, log, reads, (accounts log reads).2 acknowledges⟩

/-- What cannot be acknowledged because the peer is gone is not counted any more. -/
theorem value_acknowledge_of_dropped
    {stream : Stream}
    (standard : stream.codec.control = Registry.control.value)
    (events : ¬ (stream.coarse = true ∨ stream.unacknowledged = 0))
    (disabled : stream.filter.enabled ≠ true)
    (unfinished : stream.filter.connection.finished = false)
    (dropped : stream.filter.connection.peerDropped = true) :
    (acknowledge.on stream).value =
      (.error (.transport .peerDropped), { stream with unacknowledged := 0 }) := by
  obtain ⟨count, appended⟩ :=
    Codec.value_append_acknowledgement standard ⟨stream.unacknowledged⟩ []
  have refused :
      (stream.filter.send (Acknowledgement.mk stream.unacknowledged).parcel.wire).value =
        (.error .peerDropped, stream.filter) := by
    rw [Filter.value_send_of_disabled disabled, Filter.sendThrough,
      Connection.send_of_dropped unfinished dropped (Frame.Parcel.wire_ne_nil _)]
  have sent :=
    @value_sendEvent_of_ok { stream with unacknowledged := 0 } _ _ _ appended
  rw [List.nil_append] at sent
  dsimp only at sent
  rw [refused] at sent
  rw [value_acknowledge_of_some events, dispatch, Action.value_on_bind, sent]
  rfl

/-- An event that cannot be acknowledged because the peer is gone is not counted. -/
theorem value_countRead_of_dropped
    {stream : Stream}
    (standard : stream.codec.control = Registry.control.value)
    (due :
      0 < stream.config.ackLimit ∧ stream.config.ackLimit ≤ stream.unacknowledged + 1)
    (events : ¬ (stream.coarse = true ∨ stream.unacknowledged + 1 = 0))
    (disabled : stream.filter.enabled ≠ true)
    (unfinished : stream.filter.connection.finished = false)
    (dropped : stream.filter.connection.peerDropped = true) :
    (countRead.on stream).value =
      (.error (.transport .peerDropped), { stream with unacknowledged := 0 }) := by
  rw [value_countRead_of_due due]
  exact @value_acknowledge_of_dropped { stream with unacknowledged := stream.unacknowledged + 1 }
    standard events disabled unfinished dropped

theorem conclude_of_dropped
    {stream : Stream}
    (standard : stream.codec.control = Registry.control.value)
    (due :
      0 < stream.config.ackLimit ∧ stream.config.ackLimit ≤ stream.unacknowledged + 1)
    (events : ¬ (stream.coarse = true ∨ stream.unacknowledged + 1 = 0))
    (disabled : stream.filter.enabled ≠ true)
    (unfinished : stream.filter.connection.finished = false)
    (dropped : stream.filter.connection.peerDropped = true)
    (event : Event) :
    conclude (.done event) stream =
      (.failed (.transport .peerDropped), { stream with unacknowledged := 0 }) := by
  rw [conclude, value_countRead_of_dropped standard due events disabled unfinished dropped]

/-- When its peer is gone, the read that takes the record reports this and the record is lost. -/
theorem reads_lose_tick :
    eager.codec.userRecord? tickParcel = some Codec.tickSchema.blank ∧
      Reads eager [.arrival tickParcel.wire, .peerDrops, .read, .read]
        [([tickParcel], .failed (.transport .peerDropped)), ([], .failed .closed)] := by
  let stranded := Occurrence.peerDrops.after ((Occurrence.arrival tickParcel.wire).after eager)
  have framed : stranded.Framed := ⟨rfl, rfl, rfl⟩
  obtain ⟨idle, decoded, holds, -⟩ :=
    (Frame.Decoder.Holds.fresh .emptyFrame stranded.codec.maxEventSize).decode_nil false
  obtain ⟨used, returned, empty, -⟩ :=
    (@Frame.Decoder.Holds.push _ _ holds [tickParcel]
      (List.forall_mem_singleton.mpr (Nat.zero_le _))).decode_cons false
  rw [List.flatMap_cons, List.flatMap_nil, List.append_nil] at returned
  have first :
      Awaited (judgeEvent stranded.codec) .closed .forEvent stranded [tickParcel]
        (.done (.record Codec.tickSchema.blank)) _ :=
    .arrived decoded rfl rfl (.settled returned (judgeEvent_of_some userRecord?_tickParcel))
  have readFirst :=
    framed.value_read.trans
      ((value_readFramed first).trans
        (conclude_of_dropped rfl
          (show 0 < (1 : UInt32) ∧ (1 : UInt32) ≤ 0 + 1 by decide)
          (show ¬ (false = true ∨ (0 : UInt32) + 1 = 0) by decide)
          Bool.false_ne_true rfl rfl (.record Codec.tickSchema.blank)))
  have outcomeFirst : stranded.read.value.1 = .failed (.transport .peerDropped) :=
    congrArg Prod.fst readFirst
  -- Nothing is left in the decoder, so the second read meets the end of the stream.
  let left := stranded.read.value.2
  have leftIs : left = _ := congrArg Prod.snd readFirst
  have framedLeft : left.Framed := (framed.after .read).1
  obtain ⟨drained, decodedThen, still, -⟩ := empty.decode_nil false
  obtain ⟨drainedLast, decodedLast, -, -⟩ := still.decode_nil true
  obtain ⟨last, second⟩ :
      ∃ last, Awaited (judgeEvent left.codec) .closed .forEvent left [] (.failed .closed) last := by
    rw [leftIs]
    exact ⟨_, .closed decodedThen rfl rfl (.ended decodedLast rfl)⟩
  have outcomeSecond : left.read.value.1 = .failed .closed :=
    congrArg Prod.fst (framedLeft.value_read.trans (value_readFramed second))
  have log := Reads.read first (.read second (.nil _))
  rw [outcomeFirst,
    show (Occurrence.read.after stranded).read.value.1 = _ from outcomeSecond] at log
  exact ⟨userRecord?_tickParcel, .other nofun (.other nofun log)⟩

end Eager

end Stream

end EventWire
