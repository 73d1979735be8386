import EventWire.Proofs.Stream.Unused

namespace EventWire

/-!
# What becomes of acknowledgements

Two ends that have negotiated are used in any order, and what each has sent is
carried to the other at any time.  Then no acknowledgement is lost and none is
counted twice: each event that an end has returned is still to be acknowledged,
is acknowledged on the way, has been counted at the other end, or has been
reported there by a write or a flush.
-/

open EventWire.Frame

/-- What an operation reports to the user that the peer has acknowledged. -/
def Stream.reports (stream : Stream) : Operation → List UInt32
  | .write event => ((write event).on stream).value.1.toOption.toList
  | .flush => (flush.on stream).value.1.toOption.toList
  | _ => []

/-- An end of a connection in use, with what has been reported to its user. -/
structure Ledger extends Peer where
  /-- The counts of acknowledged events, the oldest first. -/
  reported : List UInt32

namespace Ledger

/-- Perform an operation and keep what it reports. -/
def perform (ledger : Ledger) (operation : Operation) : Ledger where
  toPeer := ledger.toPeer.perform operation
  reported := ledger.reported ++ ledger.stream.reports operation

/-- Carry what one end has sent to the other. -/
def carry (sender receiver : Ledger) : Ledger × Ledger :=
  let carried := sender.toPeer.carry receiver.toPeer
  (⟨carried.1, sender.reported⟩, ⟨carried.2, receiver.reported⟩)

/-- How many events have been reported as acknowledged. -/
def collected (ledger : Ledger) : Nat :=
  (ledger.reported.map UInt32.toNat).sum

theorem collected_of_silent
    {ledger : Ledger}
    {operation : Operation}
    (silent : ledger.stream.reports operation = []) :
    (ledger.perform operation).collected = ledger.collected := by
  rw [collected, perform, silent, List.append_nil]
  rfl

theorem collected_of_report
    {ledger : Ledger}
    {operation : Operation}
    {count : UInt32}
    (report : ledger.stream.reports operation = [count]) :
    (ledger.perform operation).collected = ledger.collected + count.toNat := by
  rw [collected, perform, report, List.map_append, List.sum_append]
  rfl

/--
What is done at an end that has negotiated and does not close.  Only certain
events are written, and no block that is sent is longer than a block may be.
-/
structure May
    (admits : Codec → Codec → Event → Prop)
    (ledger other : Ledger)
    (operation : Operation) : Prop where
  exchanges : operation ≠ .negotiate ∧ operation ≠ .close
  admitted :
    ∀ event, operation = .write event → admits ledger.stream.codec other.stream.codec event
  compact : (ledger.toPeer.perform operation).Compact

theorem May.of_write
    {admits : Codec → Codec → Event → Prop}
    {ledger other : Ledger}
    {event : Event}
    (admitted : admits ledger.stream.codec other.stream.codec event)
    (compact : (ledger.toPeer.perform (.write event)).Compact) :
    ledger.May admits other (.write event) where
  exchanges := ⟨by simp, by simp⟩
  admitted _ same := by
    cases same
    exact admitted
  compact := compact

/-- What writes nothing may be done at any time. -/
theorem May.of_silent
    {admits : Codec → Codec → Event → Prop}
    {ledger other : Ledger}
    {operation : Operation}
    (silent : operation = .read ∨ operation = .flush ∨ operation = .acknowledge)
    (compact : (ledger.toPeer.perform operation).Compact) :
    ledger.May admits other operation where
  exchanges := by rcases silent with rfl | rfl | rfl <;> exact ⟨by simp, by simp⟩
  admitted _ same := by rcases silent with rfl | rfl | rfl <;> cases same
  compact := compact

/--
The events that a reader has returned are those it has still to acknowledge,
those acknowledged on the way, and those its writer has counted or reported.
-/
structure Balances (reader writer : Ledger) : Prop where
  sum_eq :
    reader.returned.length < 2 ^ 32 →
      reader.returned.length =
        reader.stream.unacknowledged.toNat + reader.stream.inFlight writer.stream +
            writer.stream.acknowledged.toNat +
          writer.collected
  unacknowledged_lt :
    0 < reader.stream.config.ackLimit →
      reader.stream.unacknowledged < reader.stream.config.ackLimit

end Ledger

/--
An event is never taken for an acknowledgement at the other end, or cannot be
written at all.
-/
def Codec.Spares (writer reader : Codec) (event : Event) : Prop :=
  ∀ body,
    ((writer.registryFor event.eventType).serialize event).value = .ok body →
      reader.Ordinary event.eventType

/-- Events of a type for which users' records are registered, or none, are the users' own. -/
theorem Codec.ordinary_of_lookup
    {codec : Codec}
    {eventType : EventType}
    (users :
      ∀ entry,
        (codec.registryFor eventType).lookup eventType = some entry →
          entry.blank.eventType.isControl = false) :
    codec.Ordinary eventType := by
  rintro parcel rfl count judged
  rw [Stream.judgeEvent, Noted.value_bind] at judged
  cases opened : (codec.open? parcel).value with
  | none =>
      rw [opened] at judged
      cases judged
  | some record =>
      obtain ⟨entry, known, sameType⟩ := Codec.exists_entry_of_open? opened
      have user : ¬ record.eventType.isControl = true := by
        rw [sameType, users entry known]
        exact Bool.false_ne_true
      rw [opened] at judged
      dsimp only at judged
      rw [if_neg user] at judged
      cases judged

/-- The two ends of a connection, with what has come of their use. -/
structure Correspondence where
  left : Ledger
  right : Ledger

namespace Correspondence

/-- One end is used, or what one end has sent is carried to the other. -/
inductive Step
    (admits : Codec → Codec → Event → Prop) :
    Correspondence → Correspondence → Prop where
  | left
      {both : Correspondence}
      {operation : Operation}
      (may : both.left.May admits both.right operation) :
      Step admits both { both with left := both.left.perform operation }
  | right
      {both : Correspondence}
      {operation : Operation}
      (may : both.right.May admits both.left operation) :
      Step admits both { both with right := both.right.perform operation }
  | thither (both : Correspondence) :
      Step admits both ⟨(both.left.carry both.right).1, (both.left.carry both.right).2⟩
  | hither (both : Correspondence) :
      Step admits both ⟨(both.right.carry both.left).2, (both.right.carry both.left).1⟩

/-- Two ends that have negotiated framed events with each other, and nothing has been done since. -/
structure Opens (agreed : Extensions) (both : Correspondence) : Prop where
  framed : agreed.coarse = false
  left : both.left.stream.Unused agreed
  right : both.right.stream.Unused agreed
  returned : both.left.returned = [] ∧ both.right.returned = []
  reported : both.left.reported = [] ∧ both.right.reported = []
  thither :
    ∀ octets,
      both.right.stream.filter.compressor.decompress
          (both.left.stream.filter.compressor.compress octets) =
        some octets
  hither :
    ∀ octets,
      both.left.stream.filter.compressor.decompress
          (both.right.stream.filter.compressor.compress octets) =
        some octets

end Correspondence

namespace Ledger

/-- What becomes of the events that either end returns is accounted for. -/
structure Agrees (own other : Ledger) : Prop where
  reading : own.stream.Accounts other.stream own.returned.length other.collected
  writing : other.stream.Accounts own.stream other.returned.length own.collected
  prompt : own.stream.Prompt
  promptThere : other.stream.Prompt

namespace Agrees

open EventWire.Stream

variable {own other : Ledger}

theorem symm (agrees : own.Agrees other) : other.Agrees own :=
  ⟨agrees.writing, agrees.reading, agrees.promptThere, agrees.prompt⟩

theorem balances (agrees : own.Agrees other) : own.Balances other :=
  ⟨agrees.reading.balanced, agrees.prompt⟩

section Performing

variable (agrees : own.Agrees other)
include agrees

theorem read (compact : (own.toPeer.perform .read).Compact) : (own.perform .read).Agrees other := by
  obtain ⟨parcels, outcome, received, awaited⟩ :=
    exists_awaited (judgeEvent own.stream.codec) .closed .forEvent own.stream
  obtain ⟨returns, reading, writing, prompt⟩ :=
    Accounts.reads awaited agrees.reading agrees.writing agrees.prompt compact
  rw [← returns, ← List.length_append] at reading
  refine ⟨reading, ?_, prompt, agrees.promptThere⟩
  rw [collected_of_silent rfl]
  exact writing

theorem acknowledge (compact : (own.toPeer.perform .acknowledge).Compact) :
    (own.perform .acknowledge).Agrees other := by
  obtain ⟨-, reading, none⟩ := agrees.reading.acknowledges compact
  obtain ⟨gathered, outbox, counters, unacknowledged, same⟩ := speaks_acknowledge own.stream
  have speaks : own.stream.Speaks (Stream.acknowledge.on own.stream).value.2 :=
    ⟨gathered, outbox, counters, own.stream.filter.connection.finished, unacknowledged,
      own.stream.acknowledged, same⟩
  refine ⟨reading, ?_, fun positive => ?_, agrees.promptThere⟩
  · rw [collected_of_silent rfl]
    exact agrees.writing.speaks speaks (congrArg (·.acknowledged.toNat + own.collected) same)
  · exact none ▸ positive

/-- What an operation sends reports nothing, and what has been counted it reports to the user. -/
theorem hands
    {operation : Operation}
    {octets : Bytes}
    {filter : Filter}
    (whole : Whole other.stream.codec.Ordinary octets)
    (nothing : reportedIn octets = 0)
    (disposes : own.stream.filter.Disposes octets filter)
    (compact : (own.toPeer.perform operation).Compact)
    (report : own.stream.reports operation = [own.stream.acknowledged])
    (stream_eq :
      (own.perform operation).stream = { own.stream with filter := filter, acknowledged := 0 })
    (returned_eq : (own.perform operation).returned = own.returned) :
    (own.perform operation).Agrees other := by
  have compact : filter.Compact := by
    change (own.perform operation).stream.filter.Compact at compact
    rwa [stream_eq] at compact
  have reading := agrees.reading.disposes whole nothing disposes compact 0
  have collected := collected_of_report report
  have writing :=
    agrees.writing.speaks (speaks_of_disposes disposes own.stream.unacknowledged 0)
      (show 0 + (own.perform operation).collected = _ by rw [collected]; omega)
  refine ⟨?_, ?_, ?_, agrees.promptThere⟩
  · rw [stream_eq, returned_eq]
    exact reading
  · rw [stream_eq]
    exact writing
  · rw [stream_eq]
    exact agrees.prompt

/-- A flush sends what is gathered. -/
theorem flush (compact : (own.toPeer.perform .flush).Compact) :
    (own.perform .flush).Agrees other := by
  have performed := value_flush_of_writable agrees.reading.writable
  refine agrees.hands agrees.reading.supplies.gathered agrees.reading.sent
    (Filter.disposes_pushed agrees.reading.supplies.atOnce).1 compact ?_ ?_ ?_
  · rw [reports, performed]
    rfl
  · rw [perform, Peer.perform, performed]
  · rw [perform, Peer.perform, performed]

/-- A write that fails neither sends nor reports anything. -/
theorem write
    {event : Event}
    (spares : own.stream.codec.Spares other.stream.codec event)
    (compact : (own.toPeer.perform (.write event)).Compact) :
    (own.perform (.write event)).Agrees other := by
  cases serialized :
      ((own.stream.codec.registryFor event.eventType).serialize event).value with
  | error error =>
      have performed := agrees.reading.framed.value_write_of_error serialized
      have shape : own.perform (.write event) = own := by
        rw [perform, Peer.perform, reports, performed]
        exact congrArg (Ledger.mk own.toPeer) (List.append_nil _)
      rw [shape]
      exact agrees
  | ok body =>
      have performed :=
        agrees.reading.framed.value_write_of_ok agrees.reading.writable serialized
      obtain ⟨whole, nothing⟩ :=
        @Accounts.gathers _ _ _ _ agrees.reading ⟨event.eventType, event.route⟩
          (spares body serialized) own.stream.codec.termination body
      refine agrees.hands whole nothing
        (Filter.disposes_accepted agrees.reading.supplies.atOnce _) compact ?_ ?_ ?_
      · rw [reports, performed]
        rfl
      · rw [perform, Peer.perform, performed]
      · rw [perform, Peer.perform, performed]

theorem perform
    {operation : Operation}
    (may : own.May Codec.Spares other operation) :
    (own.perform operation).Agrees other := by
  cases operation with
  | negotiate => exact absurd rfl may.exchanges.1
  | close => exact absurd rfl may.exchanges.2
  | read => exact agrees.read may.compact
  | write event => exact agrees.write (may.admitted event rfl) may.compact
  | flush => exact agrees.flush may.compact
  | acknowledge => exact agrees.acknowledge may.compact

/-- What is carried either way changes neither account. -/
theorem carry : (own.carry other).1.Agrees (own.carry other).2 := by
  refine ⟨agrees.reading.carry, ?_, agrees.prompt, agrees.promptThere⟩
  exact
    (agrees.writing.listens (Peer.listens_carry own.toPeer other.toPeer)).speaks
      (Peer.speaks_carry own.toPeer other.toPeer) rfl

end Performing

end Agrees

end Ledger

namespace Correspondence

variable {agreed : Extensions} {both next : Correspondence}

theorem Opens.agrees (opens : both.Opens agreed) : both.left.Agrees both.right := by
  have thither := opens.left.accounts opens.framed opens.right opens.thither
  have hither := opens.right.accounts opens.framed opens.left opens.hither
  refine ⟨?_, ?_, opens.left.prompt, opens.right.prompt⟩
  · rw [opens.returned.1, Ledger.collected, opens.reported.2]
    exact thither
  · rw [opens.returned.2, Ledger.collected, opens.reported.1]
    exact hither

theorem Step.agrees
    (step : Step Codec.Spares both next)
    (agrees : both.left.Agrees both.right) :
    next.left.Agrees next.right := by
  cases step with
  | left may => exact agrees.perform may
  | right may => exact (agrees.symm.perform may).symm
  | thither => exact agrees.carry
  | hither => exact agrees.symm.carry.symm

/--
However two ends are used that have negotiated with each other, each event that
either has returned is still to be acknowledged, is acknowledged on the way, or
has been counted or reported at the other end.  And an end that acknowledges
events of its own accord never has as many as that to acknowledge.
-/
theorem acknowledgements_conserved
    (opens : both.Opens agreed)
    (reached : Relation.ReflTransGen (Step Codec.Spares) both next) :
    next.left.Balances next.right ∧ next.right.Balances next.left := by
  have agrees : next.left.Agrees next.right := by
    induction reached with
    | refl => exact opens.agrees
    | tail _ step inductionHypothesis => exact step.agrees inductionHypothesis
  exact ⟨agrees.balances, agrees.symm.balances⟩

section Opening

/-- The two ends of a connection, before anything is done at either. -/
def between (left right : Stream) : Correspondence where
  left := ⟨⟨⟨left, .initiator, none⟩, [], [], true⟩, []⟩
  right := ⟨⟨⟨right, .responder, none⟩, [], [], true⟩, []⟩

variable
  {left right : Equipment}
  (framed : left.config.coarse = false ∧ right.config.coarse = false)
  (accepts : 14 ≤ left.config.maxEventSize ∧ 14 ≤ right.config.maxEventSize)
  (thither :
    ∀ octets, right.compressor.decompress (left.compressor.compress octets) = some octets)
  (hither :
    ∀ octets, left.compressor.decompress (right.compressor.compress octets) = some octets)
  (leftRegistry rightRegistry : Registry)
include framed accepts thither hither

/-- Two new ends can be used as soon as they have negotiated with each other. -/
theorem exists_opens_of_negotiateBoth
    (negotiates : left.config.negotiate = true ∧ right.config.negotiate = true)
    (events : (left.config.advertised.inter right.config.advertised).coarse = false) :
    let agreed := left.config.advertised.inter right.config.advertised
    ∃ leftEnd rightEnd,
      (Stream.negotiateBoth .initiator .responder
            (left.stream leftRegistry Connection.pair.1)
            (right.stream rightRegistry Connection.pair.2)).value =
          ((.done agreed, leftEnd), (.done agreed, rightEnd)) ∧
        (between leftEnd rightEnd).Opens agreed := by
  obtain ⟨leftEnd, rightEnd, negotiated, unusedLeft, unusedRight, compressorLeft,
    compressorRight⟩ :=
    Stream.unused_of_negotiateBoth
      (left.undecided_stream negotiates.1 framed.1 ⟨rfl, rfl⟩ leftRegistry)
      (right.undecided_stream negotiates.2 framed.2 ⟨rfl, rfl⟩ rightRegistry)
      (left.rests_stream accepts.1 leftRegistry ⟨1⟩)
      (right.rests_stream accepts.2 rightRegistry ⟨2⟩)
  refine ⟨leftEnd, rightEnd, negotiated, events, unusedLeft, unusedRight, ⟨rfl, rfl⟩, ⟨rfl, rfl⟩,
    ?_, ?_⟩
  · change ∀ octets, rightEnd.filter.compressor.decompress
      (leftEnd.filter.compressor.compress octets) = some octets
    rw [compressorLeft, compressorRight]
    exact thither
  · change ∀ octets, leftEnd.filter.compressor.decompress
      (rightEnd.filter.compressor.compress octets) = some octets
    rw [compressorLeft, compressorRight]
    exact hither

/-- Two new ends that are spared the handshake can be used at once. -/
theorem opens_of_spared
    (spared : left.config.negotiate = false ∧ right.config.negotiate = false) :
    (between (left.stream leftRegistry Connection.pair.1)
      (right.stream rightRegistry Connection.pair.2)).Opens .none where
  framed := rfl
  left := left.unused_stream spared.1 framed.1 accepts.1 leftRegistry ⟨1⟩
  right := right.unused_stream spared.2 framed.2 accepts.2 rightRegistry ⟨2⟩
  returned := ⟨rfl, rfl⟩
  reported := ⟨rfl, rfl⟩
  thither := thither
  hither := hither

end Opening

section Sample

variable {own other : Ledger}

/-- What is written at an end that has not been used can be carried to the other at once. -/
theorem rests_of_written
    {event : Event}
    {body : Bytes}
    (unused : own.stream.Unused .none)
    (rests : other.stream.Rests [] [])
    (terminated : own.stream.codec.termination = .emptyFrame)
    (serialized :
      ((own.stream.codec.registryFor event.eventType).serialize event).value = .ok body) :
    let written := own.perform (.write event)
    (own.toPeer.perform (.write event)).Compact ∧
      written.returned = own.returned ∧
      (written.carry other).2.stream.Rests
        [(Parcel.mk ⟨event.eventType, event.route⟩ body).wire] [] := by
  intro written
  have framed : own.stream.Framed :=
    ⟨Option.isSome_iff_exists.mpr ⟨_, unused.inForce.negotiated⟩, unused.inForce.unframed,
      unused.rests.standard⟩
  have performed := framed.value_write_of_ok unused.rests.writable serialized
  rw [terminated, Filter.accepted_of_plain unused.inForce.compressing] at performed
  have shape :
      written.toPeer =
        { own.toPeer with
          stream :=
            { own.stream with
              filter :=
                own.stream.filter.posted (Parcel.mk ⟨event.eventType, event.route⟩ body).wire
              acknowledged := 0 }
          written := own.written ++ [event]
          flushed := false } := by
    change own.toPeer.perform (.write event) = _
    rw [Peer.perform, performed]
    rfl
  have sent :
      written.stream.filter.connection.outbox =
        [(Parcel.mk ⟨event.eventType, event.route⟩ body).wire] := by
    rw [shape]
    change own.stream.filter.connection.outbox ++ _ = _
    rw [unused.rests.outbox]
    rfl
  have unfinished : written.stream.filter.connection.finished = false := by
    rw [shape]
    exact unused.rests.writable.unfinished
  refine ⟨fun enabled => ?_, by rw [shape], ?_⟩
  · change written.stream.filter.enabled = true at enabled
    rw [shape] at enabled
    cases unused.inForce.compressing.symm.trans enabled
  · have received := rests.receives unfinished
    rw [← sent]
    exact received

theorem compact_read
    (framed : own.stream.Framed)
    (plain : own.stream.filter.enabled = false) :
    (own.toPeer.perform .read).Compact := by
  obtain ⟨_, _, _, _, _, _, _, _, _, _, read⟩ := framed.exists_read
  intro enabled
  change own.stream.read.value.2.filter.enabled = true at enabled
  rw [read] at enabled
  cases plain.symm.trans enabled

/-- An end that acknowledges every single event. -/
def eagerEnd : Equipment where
  config := { StreamConfig.default with negotiate := false, ackLimit := 1 }
  compressor := ⟨id, some⟩

def sample : Correspondence :=
  between (eagerEnd.stream Codec.sampleWriter Connection.pair.1)
    (eagerEnd.stream Codec.sampleWriter Connection.pair.2)

theorem opens_sample : sample.Opens .none :=
  opens_of_spared ⟨rfl, rfl⟩ ⟨by decide, by decide⟩ (fun _ => rfl) (fun _ => rfl) _ _ ⟨rfl, rfl⟩

/-- A tick that one end writes is returned at the other, which acknowledges it. -/
theorem acknowledgements_conserved_sample :
    sample.Opens .none ∧
      ∃ last,
        Relation.ReflTransGen (Step Codec.Spares) sample last ∧
          last.left.returned = [.record Codec.tickSchema.blank] ∧
          last.left.Balances last.right ∧
          last.right.Balances last.left := by
  let written := sample.right.perform (.write (.record Codec.tickSchema.blank))
  let carried := written.carry sample.left
  obtain ⟨compact, -, rests⟩ :=
    @rests_of_written sample.right sample.left (.record Codec.tickSchema.blank) []
      opens_sample.right opens_sample.left.rests rfl rfl
  have spares :
      sample.right.stream.codec.Spares sample.left.stream.codec
        (.record Codec.tickSchema.blank) := by
    intro _ _
    refine Codec.ordinary_of_lookup fun entry known => ?_
    cases known
    rfl
  have writes : Step Codec.Spares sample ⟨sample.left, written⟩ := .right (.of_write spares compact)
  have carries : Step Codec.Spares ⟨sample.left, written⟩ ⟨carried.2, carried.1⟩ := .hither _
  have agrees := carries.agrees (writes.agrees opens_sample.agrees)
  have compactThen : (carried.2.toPeer.perform .read).Compact :=
    compact_read agrees.reading.framed rfl
  have reads : Step Codec.Spares ⟨carried.2, carried.1⟩ ⟨carried.2.perform .read, carried.1⟩ :=
    .left (.of_silent (.inl rfl) compactThen)
  obtain ⟨received, awaited⟩ :=
    rests.exists_awaited_of_record rfl (Nat.zero_le _) Stream.userRecord?_tickParcel
  obtain ⟨returns, -⟩ :=
    Stream.Accounts.reads awaited agrees.reading agrees.writing agrees.prompt compactThen
  have reached := ((Relation.ReflTransGen.single writes).tail carries).tail reads
  refine ⟨opens_sample, _, reached, ?_, acknowledgements_conserved opens_sample reached⟩
  change [] ++ carried.2.stream.read.value.1.events = _
  rw [returns]
  rfl

/--
An acknowledgement that a user writes is reported at the other end, although
nothing has been returned that could have been acknowledged.
-/
theorem not_conserved_of_written :
    sample.Opens .none ∧
      ∃ last,
        Relation.ReflTransGen (Step fun _ _ _ => True) sample last ∧
          last.left.returned = [] ∧
          last.right.reported = [5] ∧
          ¬ last.left.Balances last.right := by
  let written := sample.left.perform (.write (.record (Acknowledgement.mk 5).toRecord))
  let carried := written.carry sample.right
  let idle := carried.2.perform .read
  let flushed := idle.perform .flush
  obtain ⟨compact, nothing, rests⟩ :=
    @rests_of_written sample.left sample.right (.record (Acknowledgement.mk 5).toRecord) _
      opens_sample.left opens_sample.right.rests rfl (Acknowledgement.serialize_toRecord _)
  obtain ⟨received, awaited, acknowledged, writable⟩ :=
    rests.exists_awaited_of_acknowledgement rfl
  have framed : carried.2.stream.Framed := ⟨rfl, rfl, rfl⟩
  have turn : carried.2.stream.read.value = (.blocked .forEvent, received) :=
    framed.value_read.trans (Stream.value_readFramed awaited)
  have idle_eq : idle.stream = received := congrArg Prod.snd turn
  have plain : received.filter.enabled = false := by
    obtain ⟨_, _, _, _, _, _, rfl⟩ := awaited.exists_hearing
    rfl
  have performed := @Stream.value_flush_of_writable idle.stream (idle_eq ▸ writable)
  rw [idle_eq, Filter.pushed_of_plain plain, acknowledged] at performed
  have reported : flushed.reported = [5] := by
    change ([] ++ []) ++ (Stream.flush.on idle.stream).value.1.toOption.toList = _
    rw [idle_eq, performed]
    rfl
  have compactFlush : (idle.toPeer.perform .flush).Compact := by
    intro enabled
    rw [Peer.perform, idle_eq, performed] at enabled
    cases plain.symm.trans enabled
  have writes : Step (fun _ _ _ => True) sample ⟨written, sample.right⟩ :=
    .left (.of_write trivial compact)
  have carries : Step (fun _ _ _ => True) ⟨written, sample.right⟩ ⟨carried.1, carried.2⟩ :=
    .thither _
  have reads : Step (fun _ _ _ => True) ⟨carried.1, carried.2⟩ ⟨carried.1, idle⟩ :=
    .right (.of_silent (.inl rfl) (compact_read framed rfl))
  have flushes : Step (fun _ _ _ => True) ⟨carried.1, idle⟩ ⟨carried.1, flushed⟩ :=
    .right (.of_silent (.inr (.inl rfl)) compactFlush)
  have reached := (((Relation.ReflTransGen.single writes).tail carries).tail reads).tail flushes
  refine ⟨opens_sample, ⟨carried.1, flushed⟩, reached, nothing, reported, fun balances => ?_⟩
  have sum := balances.sum_eq (by rw [show carried.1.returned = [] from nothing]; decide)
  rw [show carried.1.returned = [] from nothing, Ledger.collected, reported] at sum
  exact absurd sum (by simp)

end Sample

end Correspondence

end EventWire
