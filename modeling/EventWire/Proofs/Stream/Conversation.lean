import EventWire.Proofs.Stream.Agreement
import EventWire.Proofs.Stream.Giving

namespace EventWire

/-!
# Conversations

Two ends of a connection are used in any order: they negotiate, write, read,
flush, acknowledge and close, and what each has sent is carried to the other at
any time.  Each end keeps count of the events that its writes have accepted and
of those that its reads have returned.
-/

open EventWire.Frame

/-- What the user of an end can do with it. -/
inductive Operation where
  | negotiate
  | read
  | write (event : Event)
  | flush
  | acknowledge
  | close
  deriving DecidableEq

/-- Whether an operation negotiates first when that has not been done. -/
def Operation.joins : Operation → Bool
  | negotiate => true
  | read => true
  | write _ => true
  | _ => false

namespace Outcome

/-- The events that an outcome hands over. -/
def events : Outcome Event → List Event
  | done event => [event]
  | _ => []

end Outcome

namespace Stream

section Judging

variable {codec : Codec}

/-- A wait for an event hands over the one user's event among the parcels it has seen. -/
theorem Awaited.events_eq
    {stream last : Stream}
    {parcels : List Parcel}
    {outcome : Outcome Event}
    (awaited :
      Awaited (judgeEvent codec) .closed .forEvent stream parcels outcome last) :
    outcome.events = codec.userEvents parcels := by
  obtain ⟨handed, isRecord⟩ := awaited.records_eq
  rw [Codec.userEvents, ← handed]
  cases outcome with
  | done event =>
      obtain ⟨record, rfl⟩ := isRecord event rfl
      rfl
  | failed _ => rfl
  | blocked _ => rfl

end Judging

end Stream

/-- An end of a connection in use, with what has come of its use so far. -/
structure Peer extends Party where
  /-- The events that writes have accepted, the oldest first. -/
  written : List Event
  /-- The events that reads have returned, the oldest first. -/
  returned : List Event
  /-- No event has been accepted since the end was last flushed or closed. -/
  flushed : Bool

namespace Peer

/-- Perform an operation and keep count of what comes of it. -/
def perform (peer : Peer) : Operation → Peer
  | .negotiate => { peer with toParty := peer.toParty.proceed }
  | .read =>
    let turn := peer.stream.read.value
    { peer with stream := turn.2, returned := peer.returned ++ turn.1.events }
  | .write event =>
    match ((Stream.write event).on peer.stream).value with
    | (.ok _, stream) =>
      { peer with stream := stream, written := peer.written ++ [event], flushed := false }
    | (.error _, stream) => { peer with stream := stream }
  | .flush =>
    match (Stream.flush.on peer.stream).value with
    | (.ok _, stream) => { peer with stream := stream, flushed := true }
    | (.error _, stream) => { peer with stream := stream }
  | .acknowledge => { peer with stream := (Stream.acknowledge.on peer.stream).value.2 }
  | .close =>
    match (Stream.close.on peer.stream).value with
    | (.ok _, stream) => { peer with stream := stream, flushed := true }
    | (.error _, stream) => { peer with stream := stream }

/--
What the user of an end observes.  A handshake that is blocked is gone on with
before anything else, and the initiator opens it before it reads or writes.  An
end is closed once it has negotiated and when nothing is to be written or read
any more.  Whatever is written and has a body is admitted, and the other end
takes bodies of that length.
-/
structure May
    (limit : Nat)
    (admits : Event → Prop)
    (peer : Peer)
    (operation : Operation) : Prop where
  patient : ∀ wait, peer.call = some (.blocked wait) → operation = .negotiate
  called :
    peer.role = .initiator → peer.call = none →
      operation = .negotiate ∨ operation = .flush ∨ operation = .acknowledge
  late :
    peer.stream.filter.connection.finished = true →
      operation = .flush ∨ operation = .acknowledge ∨ operation = .close
  settled : operation = .close → peer.stream.negotiated.isSome = true
  legible :
    ∀ event body,
      operation = .write event →
      ((peer.stream.codec.registryFor event.eventType).serialize event).value = .ok body →
      admits event ∧ body.length ≤ limit

theorem May.unfinished
    {limit : Nat}
    {admits : Event → Prop}
    {peer : Peer}
    {operation : Operation}
    (may : peer.May limit admits operation)
    (joins : operation.joins = true) :
    peer.stream.filter.connection.finished = false := by
  cases finished : peer.stream.filter.connection.finished with
  | false => rfl
  | true => rcases may.late finished with rfl | rfl | rfl <;> cases joins

/-- No block on its way to the peer is longer than a block may be. -/
def Compact (peer : Peer) : Prop :=
  peer.stream.filter.enabled = true →
    ∀ chunk ∈ peer.stream.filter.connection.outbox, chunk.length ≤ 4 + maxBlock

/-- Carry what one end has sent to the other. -/
def carry (sender receiver : Peer) : Peer × Peer :=
  let carried := sender.stream.filter.connection.carry receiver.stream.filter.connection
  ({ sender with
      stream :=
        { sender.stream with filter := { sender.stream.filter with connection := carried.1 } } },
    { receiver with
      stream :=
        { receiver.stream with
          filter := { receiver.stream.filter with connection := carried.2 } } })

end Peer

/--
All events that one end has accepted have been returned by the other or are in
transit to it, in order.
-/
structure Flows
    (registry : Registry)
    (limit : Nat)
    (compressing : Bool)
    (lead : List Bytes)
    (writer reader : Peer) : Prop where
  shared : reader.stream.codec.registry = registry
  standard : reader.stream.codec.control = Registry.control.value
  roomy : 14 ≤ limit
  lossless :
    ∀ octets,
      reader.stream.filter.compressor.decompress
          (writer.stream.filter.compressor.compress octets) =
        some octets
  accounted :
    ∃ held groups unsent,
      Stream.Transit limit compressing lead writer.stream reader.stream held groups unsent ∧
        (writer.flushed = true → unsent = []) ∧
        List.Forall₂ registry.Delivers (writer.written.filterMap Event.userRecord?)
          (reader.returned ++
            reader.stream.codec.userEvents (held ++ groups.flatten ++ unsent))

namespace Flows

variable
  {registry : Registry} {limit : Nat} {compressing : Bool} {lead : List Bytes}
  {writer reader : Peer} {next : Stream}

section Writing

/-- The sender hands parcels to its filter that are those of the events it accepts. -/
theorem of_gives
    {events : List Event}
    {flushed : Bool}
    (flows : Flows registry limit compressing lead writer reader)
    (unfinished : writer.stream.filter.connection.finished = false)
    (agreed : writer.stream.filter.enabled = compressing)
    (compact :
      next.filter.enabled = true →
        ∀ chunk ∈ next.filter.connection.outbox, chunk.length ≤ 4 + maxBlock)
    (gives :
      ∀ unsent,
        (writer.flushed = true → unsent = []) →
        writer.stream.filter.Gathers unsent →
        ∃ parcels groups rest,
          writer.stream.Gives unsent parcels groups rest next ∧
            (∀ parcel ∈ parcels, parcel.body.length ≤ limit) ∧
            List.Forall₂ registry.Delivers (events.filterMap Event.userRecord?)
              (reader.stream.codec.userEvents parcels) ∧
            (flushed = true → rest = [])) :
    Flows registry limit compressing lead
      { writer with
        stream := next
        written := writer.written ++ events
        flushed := flushed }
      reader := by
  obtain ⟨held, groups, unsent, transit, nothing, delivered⟩ := flows.accounted
  obtain ⟨parcels, later, rest, given, small, deliversNew, nothingLeft⟩ :=
    gives unsent nothing (transit.gathers unfinished)
  have sameCompressor : next.filter.compressor = writer.stream.filter.compressor := by
    obtain ⟨_, _, _, _, _, _, rfl⟩ := given.speaks
    rfl
  refine ⟨flows.shared, flows.standard, flows.roomy, ?_, held, groups ++ later, rest, ?_,
    nothingLeft, ?_⟩
  · rw [sameCompressor]
    exact flows.lossless
  · exact transit.gives given unfinished agreed flows.lossless compact small
  · rw [List.filterMap_append, List.flatten_append, ← List.append_assoc, List.append_assoc _ _ rest,
      given.emits.kept, ← List.append_assoc, Codec.userEvents_append, ← List.append_assoc]
    exact List.rel_append delivered deliversNew

/-- A sender that has closed sends nothing more. -/
theorem of_mutes
    (flows : Flows registry limit compressing lead writer reader)
    (finished : writer.stream.filter.connection.finished = true)
    (mutes : writer.stream.Mutes next)
    (flushed : Bool) :
    Flows registry limit compressing lead
      { writer with stream := next, flushed := flushed } reader := by
  obtain ⟨held, groups, unsent, transit, -, delivered⟩ := flows.accounted
  have still := transit.sender_mutes finished mutes
  obtain ⟨_, _, _, rfl⟩ := mutes
  exact ⟨flows.shared, flows.standard, flows.roomy, flows.lossless, held, groups, unsent, still,
    fun _ => transit.spent finished, delivered⟩

/-- A sender that has been flushed can close. -/
theorem finish
    (flows : Flows registry limit compressing lead writer reader)
    (flushed : writer.flushed = true) :
    Flows registry limit compressing lead
      { writer with
        stream :=
          { writer.stream with
            filter :=
              { writer.stream.filter with
                connection := { writer.stream.filter.connection with finished := true } } } }
      reader := by
  obtain ⟨held, groups, unsent, transit, nothing, delivered⟩ := flows.accounted
  obtain rfl := nothing flushed
  exact ⟨flows.shared, flows.standard, flows.roomy, flows.lossless, held, groups, [],
    transit.finish, nothing, delivered⟩

/-- What the sender receives does not matter. -/
theorem sender_listens
    (flows : Flows registry limit compressing lead writer reader)
    (listens : writer.stream.Listens next)
    (call : Option (Outcome Extensions))
    (returned : List Event) :
    Flows registry limit compressing lead
      { writer with stream := next, call := call, returned := returned } reader := by
  obtain ⟨held, groups, unsent, transit, nothing, delivered⟩ := flows.accounted
  have still := transit.sender_listens listens
  obtain ⟨_, _, _, _, _, _, _, rfl⟩ := listens
  exact ⟨flows.shared, flows.standard, flows.roomy, flows.lossless, held, groups, unsent, still,
    nothing, delivered⟩

end Writing

section Reading

/-- What the receiver sends does not matter. -/
theorem receiver_speaks
    (flows : Flows registry limit compressing lead writer reader)
    (speaks : reader.stream.Speaks next)
    (written : List Event)
    (flushed : Bool) :
    Flows registry limit compressing lead writer
      { reader with stream := next, written := written, flushed := flushed } := by
  obtain ⟨held, groups, unsent, transit, nothing, delivered⟩ := flows.accounted
  have still := transit.receiver_speaks speaks
  obtain ⟨_, _, _, _, _, _, rfl⟩ := speaks
  exact ⟨flows.shared, flows.standard, flows.roomy, flows.lossless, held, groups, unsent, still,
    nothing, delivered⟩

/-- Whatever a read comes to, what it returns is no longer in transit. -/
theorem exists_awaited
    {parcels : List Parcel}
    {outcome : Outcome Event}
    (flows : Flows registry limit compressing [] writer reader)
    (agreed : reader.stream.filter.enabled = compressing)
    (awaited :
      Stream.Awaited (Stream.judgeEvent reader.stream.codec) .closed .forEvent reader.stream
        parcels outcome next) :
    Flows registry limit compressing [] writer
        { reader with stream := next, returned := reader.returned ++ outcome.events } ∧
      (outcome = .failed .closed ∨
          outcome = .blocked .forEvent ∧
            writer.flushed = true ∧ writer.stream.filter.connection.outbox = [] →
        List.Forall₂ registry.Delivers (writer.written.filterMap Event.userRecord?)
          (reader.returned ++ outcome.events)) := by
  obtain ⟨held, groups, unsent, transit, nothing, delivered⟩ := flows.accounted
  obtain ⟨later, others, still, split, blocked, closed, -⟩ :=
    transit.exists_awaited awaited agreed (Stream.judgeEvent_ne_closed _)
  have sameCodec : next.codec = reader.stream.codec := by
    obtain ⟨_, _, _, _, _, _, _, rfl⟩ := awaited.listens
    rfl
  have sameCompressor : next.filter.compressor = reader.stream.filter.compressor := by
    obtain ⟨_, _, _, _, _, _, _, rfl⟩ := awaited.listens
    rfl
  rw [split, List.append_assoc, Codec.userEvents_append, ← List.append_assoc, ← awaited.events_eq]
    at delivered
  constructor
  · refine ⟨?_, ?_, flows.roomy, ?_, later, others, unsent, still, nothing, ?_⟩
    · rw [sameCodec]
      exact flows.shared
    · rw [sameCodec]
      exact flows.standard
    · rw [sameCompressor]
      exact flows.lossless
    · rw [sameCodec]
      exact delivered
  · -- In both cases nothing is left anywhere on the way.
    intro exhausted
    have nothingLeft : later = [] ∧ others = [] ∧ unsent = [] := by
      rcases exhausted with closes | ⟨waiting, flushed, outbox⟩
      · obtain ⟨empty, ended⟩ := closed closes
        obtain ⟨inbox, finished⟩ := still.drained ended
        obtain ⟨finishedToo, outbox⟩ := still.closed finished
        exact ⟨empty, still.groups_eq_nil inbox outbox, still.spent finishedToo⟩
      · obtain ⟨empty, inbox⟩ := blocked waiting
        exact ⟨empty, still.groups_eq_nil inbox outbox, nothing flushed⟩
    obtain ⟨rfl, rfl, rfl⟩ := nothingLeft
    rwa [show reader.stream.codec.userEvents ([] ++ [].flatten ++ []) = [] from rfl,
      List.append_nil] at delivered

/-- When a read finds no event, and nothing can be on its way, all events have been returned. -/
theorem returned_of_read
    (flows : Flows registry limit compressing [] writer reader)
    (agreed : reader.stream.filter.enabled = compressing)
    (framed : reader.stream.Framed)
    (exhausted :
      reader.stream.read.value.1 = .failed .closed ∨
        reader.stream.read.value.1 = .blocked .forEvent ∧
          writer.flushed = true ∧ writer.stream.filter.connection.outbox = []) :
    List.Forall₂ registry.Delivers (writer.written.filterMap Event.userRecord?)
      reader.returned := by
  obtain ⟨parcels, outcome, received, awaited⟩ :=
    Stream.exists_awaited (Stream.judgeEvent reader.stream.codec) .closed .forEvent reader.stream
  have standard : received.codec.control = Registry.control.value := by
    obtain ⟨_, _, _, _, _, _, _, rfl⟩ := awaited.listens
    exact framed.standard
  obtain ⟨-, whole⟩ := flows.exists_awaited agreed awaited
  rw [framed.value_read, Stream.value_readFramed awaited] at exhausted
  cases outcome with
  | failed error =>
      rw [← List.append_nil reader.returned]
      refine whole (exhausted.imp_right fun blocked => ?_)
      cases blocked.1
  | blocked wait =>
      rw [← List.append_nil reader.returned]
      refine whole (exhausted.imp (fun closed => by cases closed) fun blocked => ?_)
      exact blocked
  | done event =>
      rw [Stream.conclude] at exhausted
      split at exhausted
      · rcases exhausted with closed | ⟨blocked, -⟩
        · cases closed
        · cases blocked
      · next error counted performed =>
          rcases exhausted with closed | ⟨blocked, -⟩
          · cases closed
            rcases (Stream.of_countRead_eq_error standard (congrArg Prod.fst performed)).2 with
              impossible | impossible <;> cases impossible
          · cases blocked

theorem carry
    (flows : Flows registry limit compressing lead writer reader) :
    Flows registry limit compressing lead (writer.carry reader).1 (writer.carry reader).2 := by
  obtain ⟨held, groups, unsent, transit, nothing, delivered⟩ := flows.accounted
  exact ⟨flows.shared, flows.standard, flows.roomy, flows.lossless, held, groups, unsent,
    transit.carry, nothing, delivered⟩

end Reading

end Flows

namespace Peer

/-- An end whose handshake is over and which carries framed events. -/
structure Converses (agreed : Extensions) (peer : Peer) : Prop where
  talks : peer.stream.Talks agreed
  free : ∀ wait, peer.call ≠ some (.blocked wait)

theorem Converses.compact
    {agreed : Extensions}
    {peer : Peer}
    (converses : peer.Converses agreed)
    (plain : agreed.compression = false) :
    peer.Compact :=
  fun enabled => nomatch (converses.talks.inForce.compressing.trans plain).symm.trans enabled

/-- Once its handshake is over an end only says what was agreed. -/
theorem Converses.perform_negotiate
    {agreed : Extensions}
    {peer : Peer}
    (converses : peer.Converses agreed) :
    ∃ outcome,
      peer.perform .negotiate = { peer with call := some outcome } ∧
        ∀ wait, outcome ≠ .blocked wait := by
  rw [perform, Party.proceed]
  cases called : peer.call with
  | none =>
      rw [Stream.value_negotiate_of_negotiated converses.talks.inForce.negotiated]
      exact ⟨_, rfl, fun _ blocked => by cases blocked⟩
  | some outcome =>
      cases outcome with
      | blocked wait => exact absurd called (converses.free wait)
      | done _ => exact ⟨_, rfl, fun _ blocked => by cases blocked⟩
      | failed _ => exact ⟨_, rfl, fun _ blocked => by cases blocked⟩

/-- An end that converses, with what is in transit to its peer and from it. -/
structure Engaged
    (registry : Registry)
    (limit own : Nat)
    (agreed : Extensions)
    (lead : List Bytes)
    (peer other : Peer) : Prop where
  converses : peer.Converses agreed
  thither : Flows registry limit agreed.compression lead peer other
  hither : Flows registry own agreed.compression [] other peer

namespace Engaged

variable
  {registry : Registry} {limit own : Nat} {agreed : Extensions} {lead : List Bytes}
  {peer other : Peer}

theorem writable
    (engaged : peer.Engaged registry limit own agreed lead other)
    (unfinished : peer.stream.filter.connection.finished = false) :
    peer.stream.filter.connection.Writable :=
  ⟨unfinished, engaged.converses.talks.attended⟩

theorem negotiate (engaged : peer.Engaged registry limit own agreed lead other) :
    (peer.perform .negotiate).Engaged registry limit own agreed lead other := by
  obtain ⟨outcome, unmoved, settled⟩ := engaged.converses.perform_negotiate
  rw [unmoved]
  obtain ⟨⟨talks, -⟩, thither, hither⟩ := engaged
  exact ⟨⟨talks, fun wait blocked => settled wait (Option.some.inj blocked)⟩,
    ⟨thither.shared, thither.standard, thither.roomy, thither.lossless, thither.accounted⟩,
    ⟨hither.shared, hither.standard, hither.roomy, hither.lossless, hither.accounted⟩⟩

theorem mutes
    {next : Stream}
    (engaged : peer.Engaged registry limit own agreed lead other)
    (finished : peer.stream.filter.connection.finished = true)
    (mutes : peer.stream.Mutes next)
    (flushed : Bool) :
    Engaged registry limit own agreed lead
      { peer with stream := next, flushed := flushed } other where
  converses := ⟨engaged.converses.talks.speaks mutes.speaks, engaged.converses.free⟩
  thither := engaged.thither.of_mutes finished mutes flushed
  hither := engaged.hither.receiver_speaks mutes.speaks peer.written flushed

theorem exists_gathers
    (engaged : peer.Engaged registry limit own agreed lead other)
    (unfinished : peer.stream.filter.connection.finished = false) :
    ∃ unsent, peer.stream.filter.Gathers unsent := by
  obtain ⟨_, _, unsent, transit, -⟩ := engaged.thither.accounted
  exact ⟨unsent, transit.gathers unfinished⟩

/-- An end hands the parcels of events that it accepts to its filter. -/
theorem gives
    {next : Stream}
    {events : List Event}
    {flushed : Bool}
    (engaged : peer.Engaged registry limit own agreed lead other)
    (unfinished : peer.stream.filter.connection.finished = false)
    (compact :
      next.filter.enabled = true →
        ∀ chunk ∈ next.filter.connection.outbox, chunk.length ≤ 4 + maxBlock)
    (gives :
      ∀ unsent,
        (peer.flushed = true → unsent = []) →
        peer.stream.filter.Gathers unsent →
        ∃ parcels groups rest,
          peer.stream.Gives unsent parcels groups rest next ∧
            (∀ parcel ∈ parcels, parcel.body.length ≤ limit) ∧
            List.Forall₂ registry.Delivers (events.filterMap Event.userRecord?)
              (other.stream.codec.userEvents parcels) ∧
            (flushed = true → rest = [])) :
    Engaged registry limit own agreed lead
      { peer with stream := next, written := peer.written ++ events, flushed := flushed }
      other := by
  obtain ⟨_, _, unsent, transit, nothing, -⟩ := engaged.thither.accounted
  obtain ⟨_, _, _, given, -⟩ := gives unsent nothing (transit.gathers unfinished)
  exact ⟨⟨engaged.converses.talks.speaks given.speaks, engaged.converses.free⟩,
    engaged.thither.of_gives unfinished engaged.converses.talks.inForce.compressing compact gives,
    engaged.hither.receiver_speaks given.speaks _ _⟩

/-- An end may hand reports to its filter, which are none of the events it accepts. -/
theorem reports
    {next : Stream}
    {flushed : Bool}
    (engaged : peer.Engaged registry limit own agreed lead other)
    (unfinished : peer.stream.filter.connection.finished = false)
    (compact :
      next.filter.enabled = true →
        ∀ chunk ∈ next.filter.connection.outbox, chunk.length ≤ 4 + maxBlock)
    (reports :
      ∀ unsent,
        (peer.flushed = true → unsent = []) →
        peer.stream.filter.Gathers unsent →
        ∃ parcels groups rest,
          (∀ parcel ∈ parcels, Stream.IsReport parcel) ∧
            peer.stream.Gives unsent parcels groups rest next ∧
            (flushed = true → rest = [])) :
    Engaged registry limit own agreed lead
      { peer with stream := next, flushed := flushed } other := by
  have given :=
    @gives _ _ _ _ _ _ _ next [] flushed engaged unfinished compact fun unsent nothing gathers => by
      obtain ⟨parcels, groups, rest, areReports, given, nothingLeft⟩ :=
        reports unsent nothing gathers
      refine ⟨parcels, groups, rest, given, ?_, ?_, nothingLeft⟩
      · intro parcel member
        rw [(areReports parcel member).2]
        exact Nat.le_trans (by decide) engaged.thither.roomy
      · rw [Codec.userEvents_of_control engaged.thither.standard
          fun parcel member => (areReports parcel member).1]
        exact .nil
  rwa [List.append_nil] at given

/-- An end that has not closed flushes without an error. -/
theorem flush
    (engaged : peer.Engaged registry limit own agreed lead other)
    (compact : (peer.perform .flush).Compact) :
    (peer.perform .flush).Engaged registry limit own agreed lead other := by
  cases finished : peer.stream.filter.connection.finished with
  | true =>
      have muted := Stream.mutes_flush finished
      rw [perform]
      split
      · next performed =>
          rw [performed] at muted
          exact engaged.mutes finished muted true
      · next performed =>
          rw [performed] at muted
          exact engaged.mutes finished muted peer.flushed
  | false =>
      obtain ⟨unsent, gathers⟩ := engaged.exists_gathers finished
      obtain ⟨count, _, next, performed, -⟩ :=
        Stream.exists_gives_flush gathers (engaged.writable finished)
      have shape : peer.perform .flush = { peer with stream := next, flushed := true } := by
        rw [perform, performed]
      rw [shape] at compact ⊢
      refine engaged.reports finished compact fun unsent _ gathers => ?_
      obtain ⟨_, groups, _, same, given⟩ :=
        Stream.exists_gives_flush gathers (engaged.writable finished)
      cases performed.symm.trans same
      exact ⟨[], groups, [], nofun, given, fun _ => rfl⟩

theorem acknowledge
    (engaged : peer.Engaged registry limit own agreed lead other)
    (compact : (peer.perform .acknowledge).Compact) :
    (peer.perform .acknowledge).Engaged registry limit own agreed lead other := by
  cases finished : peer.stream.filter.connection.finished with
  | true => exact engaged.mutes finished (Stream.mutes_acknowledge finished) peer.flushed
  | false =>
      refine engaged.reports finished compact fun unsent nothing gathers => ?_
      obtain ⟨reports, groups, rest, areReports, given, nothingLeft⟩ :=
        Stream.exists_gives_acknowledge gathers (engaged.writable finished)
          engaged.converses.talks.standard
      exact ⟨reports, groups, rest, areReports, given, fun flushed => nothingLeft (nothing flushed)⟩

/-- An end that closes sends first what it has gathered. -/
theorem close
    (engaged : peer.Engaged registry limit own agreed lead other)
    (compact : (peer.perform .close).Compact) :
    (peer.perform .close).Engaged registry limit own agreed lead other := by
  cases finished : peer.stream.filter.connection.finished with
  | true =>
      have muted := Stream.mutes_close finished
      rw [perform]
      split
      · next performed =>
          rw [performed] at muted
          exact engaged.mutes finished muted true
      · next performed =>
          rw [performed] at muted
          exact engaged.mutes finished muted peer.flushed
  | false =>
      have performed := Stream.value_close_of_writable (engaged.writable finished)
      rw [perform, performed] at compact ⊢
      have flushed :=
        @reports _ _ _ _ _ _ _ { peer.stream with filter := peer.stream.filter.pushed } true engaged
          finished compact fun unsent _ gathers => by
            obtain ⟨groups, given⟩ :=
              Stream.exists_gives_pushed gathers peer.stream.unacknowledged peer.stream.acknowledged
            exact ⟨[], groups, [], nofun, given, fun _ => rfl⟩
      have closes :
          Stream.Speaks { peer.stream with filter := peer.stream.filter.pushed }
            (Stream.close.on peer.stream).value.2 := by
        rw [performed]
        exact ⟨_, peer.stream.filter.pushed.connection.outbox,
          peer.stream.filter.pushed.connection.counters, true, _, _, rfl⟩
      rw [performed] at closes
      exact ⟨⟨flushed.converses.talks.speaks closes, engaged.converses.free⟩,
        flushed.thither.finish rfl, flushed.hither.receiver_speaks closes _ _⟩

/-- Writing accepts an event, or fails and changes nothing. -/
theorem write
    {event : Event}
    (engaged : peer.Engaged registry limit own agreed lead other)
    (may : peer.May limit registry.Welcomes (.write event))
    (compact : (peer.perform (.write event)).Compact) :
    (peer.perform (.write event)).Engaged registry limit own agreed lead other := by
  have unfinished := may.unfinished rfl
  have writable := engaged.writable unfinished
  obtain ⟨unsent, gathers⟩ := engaged.exists_gathers unfinished
  rcases Stream.Talks.write_cases gathers writable engaged.converses.talks event with
    ⟨error, rejected⟩ | ⟨_, count, _, _, next, -, performed, -⟩
  · rw [perform, rejected]
    exact engaged
  · have shape :
        peer.perform (.write event) =
          { peer with stream := next, written := peer.written ++ [event], flushed := false } := by
      rw [perform, performed]
    rw [shape] at compact ⊢
    refine engaged.gives unfinished compact fun unsent _ gathers => ?_
    rcases Stream.Talks.write_cases gathers writable engaged.converses.talks event with
      ⟨error, rejected⟩ | ⟨parcel, _, groups, rest, _, encodes, same, given⟩
    · exact nomatch performed.symm.trans rejected
    · cases performed.symm.trans same
      obtain ⟨welcome, small⟩ := may.legible event parcel.body rfl encodes.body_eq
      refine ⟨[parcel], groups, rest, given, List.forall_mem_singleton.mpr small, ?_, nofun⟩
      rw [← engaged.thither.shared] at welcome ⊢
      exact encodes.forall₂_delivers (engaged.hither.shared.trans engaged.thither.shared.symm)
        engaged.thither.standard welcome

/-- What a read returns is the next events in transit. -/
theorem read
    (engaged : peer.Engaged registry limit own agreed lead other)
    (may : peer.May limit registry.Welcomes .read)
    (compact : (peer.perform .read).Compact) :
    (peer.perform .read).Engaged registry limit own agreed lead other := by
  have unfinished := may.unfinished rfl
  have framed := engaged.converses.talks.isFramed
  obtain ⟨parcels, outcome, received, awaited⟩ :=
    Stream.exists_awaited (Stream.judgeEvent peer.stream.codec) .closed .forEvent peer.stream
  have listens := awaited.listens
  have taken :
      Engaged registry limit own agreed lead
        { peer with stream := received, returned := peer.returned ++ outcome.events } other :=
    ⟨⟨engaged.converses.talks.listens listens, engaged.converses.free⟩,
      engaged.thither.sender_listens listens _ _,
      (engaged.hither.exists_awaited engaged.converses.talks.inForce.compressing awaited).1⟩
  have turn := framed.value_read.trans (Stream.value_readFramed awaited)
  cases outcome with
  | failed _ =>
      rw [perform, turn]
      exact taken
  | blocked _ =>
      rw [perform, turn]
      exact taken
  | done event =>
      have unfinishedStill : received.filter.connection.finished = false := by
        obtain ⟨_, _, _, _, _, _, _, rfl⟩ := listens
        exact unfinished
      have writable := taken.writable unfinishedStill
      obtain ⟨unsent, gathers⟩ := taken.exists_gathers unfinishedStill
      obtain ⟨_, _, _, next, -, counted, -⟩ :=
        Stream.exists_gives_countRead gathers writable taken.converses.talks.standard
      rw [Stream.conclude, counted] at turn
      have shape :
          peer.perform .read =
            { peer with stream := next, returned := peer.returned ++ [event] } := by
        rw [perform, turn]
        rfl
      rw [shape] at compact ⊢
      refine taken.reports unfinishedStill compact fun unsent nothing gathers => ?_
      obtain ⟨reports, groups, rest, _, areReports, same, given, nothingLeft⟩ :=
        Stream.exists_gives_countRead gathers writable taken.converses.talks.standard
      cases counted.symm.trans same
      exact ⟨reports, groups, rest, areReports, given, fun flushed => nothingLeft (nothing flushed)⟩

/-- Whatever an end that converses does, nothing that is written is lost. -/
theorem perform
    {operation : Operation}
    (engaged : peer.Engaged registry limit own agreed lead other)
    (may : peer.May limit registry.Welcomes operation)
    (compact : (peer.perform operation).Compact) :
    (peer.perform operation).Engaged registry limit own agreed lead other := by
  cases operation with
  | negotiate => exact engaged.negotiate
  | read => exact engaged.read may compact
  | write event => exact engaged.write may compact
  | flush => exact engaged.flush compact
  | acknowledge => exact engaged.acknowledge compact
  | close => exact engaged.close compact

end Engaged

end Peer

end EventWire
