import EventWire.Proofs.Stream.Conversation
import EventWire.Proofs.Stream.Reporting

namespace EventWire

/-!
# Accounts of what is acknowledged

A reader acknowledges the events that it returns, and the writer of these events
collects what is acknowledged and reports it.  Whatever either of them does,
each event that the reader has returned is still to be acknowledged, is
acknowledged on the way, or has been counted or reported by the writer.
-/

open EventWire.Frame

namespace Stream

theorem Framed.of_same
    {stream next : Stream}
    (framed : stream.Framed)
    (negotiated : next.negotiated = stream.negotiated)
    (coarse : next.coarse = stream.coarse)
    (codec : next.codec = stream.codec) :
    next.Framed where
  negotiated := negotiated ▸ framed.negotiated
  framed := coarse.trans framed.framed
  standard := codec ▸ framed.standard

/-- A reader has returned some events, and its writer has reported some as acknowledged. -/
structure Accounts (reader writer : Stream) (returned reported : Nat) : Prop where
  framed : reader.Framed
  writable : reader.filter.connection.Writable
  supplies : reader.Supplies writer
  sent : reportedIn reader.filter.gathered = 0
  -- Beyond this the counters overflow.
  balanced :
    returned < 2 ^ 32 →
      returned =
        reader.unacknowledged.toNat + reader.inFlight writer + writer.acknowledged.toNat + reported

/-- A stream that acknowledges events of its own accord does not have as many as that to. -/
def Prompt (stream : Stream) : Prop :=
  0 < stream.config.ackLimit → stream.unacknowledged < stream.config.ackLimit

namespace Accounts

variable {reader writer next : Stream} {returned reported : Nat}

section Reader

variable (accounts : reader.Accounts writer returned reported)
include accounts

theorem listens (listens : reader.Listens next) :
    next.Accounts writer returned reported := by
  obtain ⟨supplies, same⟩ := accounts.supplies.sender_listens listens
  have balanced := accounts.balanced
  rw [← same] at balanced
  obtain ⟨_, _, _, _, _, _, _, rfl⟩ := listens
  exact
    ⟨accounts.framed.of_same rfl rfl rfl,
      ⟨accounts.writable.unfinished, accounts.writable.attended⟩, supplies, accounts.sent, balanced⟩

/-- Sending or gathering octets that report nothing does not change the account. -/
theorem disposes
    {octets : Bytes}
    {filter : Filter}
    (whole : Whole writer.codec.Ordinary octets)
    (nothing : reportedIn octets = 0)
    (disposes : reader.filter.Disposes octets filter)
    (compact : filter.Compact)
    (acknowledged : UInt32) :
    Accounts { reader with filter := filter, acknowledged := acknowledged } writer returned
      reported := by
  obtain ⟨supplies, sum⟩ :=
    accounts.supplies.disposes whole disposes compact reader.unacknowledged acknowledged
  have sent : reportedIn filter.gathered = 0 := by
    rcases disposes.gathered_cases with empty | same
    · rw [empty, reportedIn_nil]
    · rw [same, nothing]
  have balanced := accounts.balanced
  rw [sent, nothing] at sum
  rw [← show _ = reader.inFlight writer from sum] at balanced
  exact
    ⟨accounts.framed.of_same rfl rfl rfl,
      disposes.writable accounts.writable, supplies, sent, balanced⟩

/-- The frames of an event that the writer does not take for an acknowledgement report nothing. -/
theorem gathers
    {identity : Identity}
    (ordinary : writer.codec.Ordinary identity.eventType)
    (termination : Termination)
    (body : Bytes) :
    let octets := reader.filter.gathered ++ (frames identity termination body).flatten
    Whole writer.codec.Ordinary octets ∧ reportedIn octets = 0 := by
  obtain ⟨whole, nothing⟩ :=
    whole_frames ordinary (Codec.not_ordinary_acknowledgement accounts.supplies.standard)
      termination body
  refine ⟨accounts.supplies.gathered.append whole, ?_⟩
  rw [accounts.supplies.gathered.reportedIn_append, accounts.sent, nothing]

/-- What a reader acknowledges is on its way to the writer. -/
theorem acknowledges (compact : (acknowledge.on reader).value.2.filter.Compact) :
    (acknowledge.on reader).value.1 = .ok () ∧
      (acknowledge.on reader).value.2.Accounts writer returned reported ∧
      (acknowledge.on reader).value.2.unacknowledged = 0 := by
  by_cases nothing : reader.coarse = true ∨ reader.unacknowledged = 0
  · rw [value_acknowledge_of_nothing nothing]
    refine ⟨rfl, accounts, nothing.resolve_left ?_⟩
    exact Bool.eq_false_iff.mp accounts.framed.framed
  · have handed :=
      Filter.disposes_accepted accounts.supplies.atOnce
        (Acknowledgement.mk reader.unacknowledged).parcel.wire
    have pushed := (Filter.disposes_pushed handed.atOnce).1
    rw [value_acknowledge_of_writable accounts.framed.standard nothing accounts.writable]
      at compact ⊢
    obtain ⟨supplies, empty, sum⟩ :=
      accounts.supplies.dispatches (.report ⟨reader.unacknowledged⟩) compact 0 reader.acknowledged
    rw [accounts.sent, reportedIn_report] at sum
    refine ⟨rfl, ⟨accounts.framed.of_same rfl rfl rfl,
      pushed.writable (handed.writable accounts.writable), supplies, ?_, fun small => ?_⟩, rfl⟩
    · rw [empty, reportedIn_nil]
    · have balanced := accounts.balanced small
      rw [sum]
      change returned = 0 + (_ + 0 + reader.unacknowledged.toNat) + _ + _
      omega

theorem counts :
    Accounts { reader with unacknowledged := reader.unacknowledged + 1 } writer (returned + 1)
      reported := by
  refine ⟨accounts.framed.of_same rfl rfl rfl,
    accounts.writable, ?_, accounts.sent, fun small => ?_⟩
  · exact ⟨accounts.supplies.standard, accounts.supplies.orderly, accounts.supplies.running,
      accounts.supplies.attended, accounts.supplies.clear, accounts.supplies.chunks,
      accounts.supplies.gathered, accounts.supplies.atOnce, accounts.supplies.agreed,
      accounts.supplies.lossless⟩
  · have balanced := accounts.balanced (Nat.lt_of_succ_lt small)
    have grown : (reader.unacknowledged + 1).toNat = reader.unacknowledged.toNat + 1 := by
      rw [UInt32.toNat_add]
      exact Nat.mod_eq_of_lt (show reader.unacknowledged.toNat + 1 < 2 ^ 32 by omega)
    change _ = (reader.unacknowledged + 1).toNat + reader.inFlight writer + _ + _
    omega

/-- An event is counted before it is returned, and acknowledged when it is time. -/
theorem countsRead
    (compact : (countRead.on reader).value.2.filter.Compact) :
    (countRead.on reader).value.1 = .ok () ∧
      (countRead.on reader).value.2.Accounts writer (returned + 1) reported ∧
      (countRead.on reader).value.2.Prompt := by
  by_cases due :
      0 < reader.config.ackLimit ∧ reader.config.ackLimit ≤ reader.unacknowledged + 1
  · rw [value_countRead_of_due due] at compact ⊢
    obtain ⟨succeeds, next, none⟩ := accounts.counts.acknowledges compact
    refine ⟨succeeds, next, fun positive => ?_⟩
    rw [none]
    exact positive
  · rw [value_countRead_of_early due]
    exact ⟨rfl, accounts.counts, fun positive =>
      UInt32.not_le.mp fun reached => due ⟨positive, reached⟩⟩

end Reader

section Writer

variable (accounts : reader.Accounts writer returned reported)
include accounts

/-- A writer that waits for an event counts what is acknowledged on the way. -/
theorem awaits
    {parcels : List Parcel}
    {outcome : Outcome Event}
    (awaited :
      Awaited (judgeEvent writer.codec) .closed .forEvent writer parcels outcome next) :
    reader.Accounts next returned reported := by
  obtain ⟨supplies, counted⟩ := accounts.supplies.awaited awaited rfl
  refine ⟨accounts.framed, accounts.writable, supplies, accounts.sent, fun small => ?_⟩
  have balanced := accounts.balanced small
  have same := counted (by omega)
  omega

/-- What a writer no longer counts as acknowledged it has reported. -/
theorem speaks
    {reportedThen : Nat}
    (speaks : writer.Speaks next)
    (same : next.acknowledged.toNat + reportedThen = writer.acknowledged.toNat + reported) :
    reader.Accounts next returned reportedThen := by
  obtain ⟨supplies, still⟩ := accounts.supplies.receiver_speaks speaks
  refine ⟨accounts.framed, accounts.writable, supplies, accounts.sent, fun small => ?_⟩
  have balanced := accounts.balanced small
  omega

/-- What a reader has sent is carried to its writer. -/
theorem carry :
    let carried := reader.filter.connection.carry writer.filter.connection
    Accounts { reader with filter := { reader.filter with connection := carried.1 } }
      { writer with filter := { writer.filter with connection := carried.2 } } returned
      reported := by
  intro carried
  obtain ⟨supplies, same⟩ := accounts.supplies.carry accounts.writable.unfinished
  have balanced := accounts.balanced
  rw [← same] at balanced
  exact
    ⟨accounts.framed.of_same rfl rfl rfl,
      ⟨accounts.writable.unfinished, accounts.writable.attended⟩, supplies, accounts.sent, balanced⟩

end Writer

/--
What a read counts has been on its way to the reader, and what it returns is
acknowledged at once or later.
-/
theorem reads
    {other received : Stream}
    {parcels : List Parcel}
    {outcome : Outcome Event}
    {returnedThere reportedThere : Nat}
    (awaited :
      Awaited (judgeEvent reader.codec) .closed .forEvent reader parcels outcome received)
    (reading : reader.Accounts other returned reportedThere)
    (writing : other.Accounts reader returnedThere reported)
    (prompt : reader.Prompt)
    (compact : reader.read.value.2.filter.Compact) :
    reader.read.value.1 = outcome ∧
      reader.read.value.2.Accounts other (returned + outcome.events.length) reportedThere ∧
      other.Accounts reader.read.value.2 returnedThere reported ∧
      reader.read.value.2.Prompt := by
  have turn := reading.framed.value_read.trans (value_readFramed awaited)
  have listened := reading.listens awaited.listens
  have counted := writing.awaits awaited
  have promptStill : received.Prompt := by
    obtain ⟨_, _, _, _, _, _, _, rfl⟩ := awaited.listens
    exact prompt
  rw [turn] at compact ⊢
  cases outcome with
  | failed _ => exact ⟨rfl, listened, counted, promptStill⟩
  | blocked _ => exact ⟨rfl, listened, counted, promptStill⟩
  | done event =>
      rw [snd_conclude_done] at compact
      obtain ⟨succeeds, next, promptThen⟩ := listened.countsRead compact
      obtain ⟨gathered, outbox, counters, unacknowledged, same⟩ := speaks_countRead received
      have speaks : received.Speaks (countRead.on received).value.2 :=
        ⟨gathered, outbox, counters, received.filter.connection.finished, unacknowledged,
          received.acknowledged, same⟩
      have still := counted.speaks speaks (by rw [same])
      rcases performed : (countRead.on received).value with ⟨_ | _, last⟩
      · exact nomatch (congrArg Prod.fst performed).symm.trans succeeds
      · rw [conclude, performed]
        rw [performed] at next still promptThen
        exact ⟨rfl, next, still, promptThen⟩

end Accounts

section Writing

variable {stream : Stream} {octets : Bytes} {filter : Filter}

theorem speaks_of_disposes
    (disposes : stream.filter.Disposes octets filter)
    (unacknowledged acknowledged : UInt32) :
    stream.Speaks
      { stream with
        filter := filter
        unacknowledged := unacknowledged
        acknowledged := acknowledged } := by
  cases disposes with
  | sends counters next_eq =>
      subst next_eq
      exact ⟨_, _, counters, stream.filter.connection.finished, _, _, rfl⟩
  | gathers counters atOnce next_eq =>
      subst next_eq
      exact ⟨_, stream.filter.connection.outbox, counters, stream.filter.connection.finished, _, _,
        rfl⟩

variable {event : Event} {body : Bytes} (isFramed : stream.Framed)
include isFramed

/-- A write of an event that has no body fails and changes nothing. -/
theorem Framed.value_write_of_error
    {error : EventError}
    (failed :
      ((stream.codec.registryFor event.eventType).serialize event).value = .error error) :
    ((write event).on stream).value =
      (.error (.protocol (Codec.writeError error)), stream) := by
  have rejected :
      (stream.codec.append event []).value = (.error (Codec.writeError error), []) := by
    rw [Codec.append, Noted.value_bind, failed]
    rfl
  rw [isFramed.value_write, value_sendEvent_of_error rejected]

/-- A write hands the frames of an event to the filter. -/
theorem Framed.value_write_of_ok
    (writable : stream.filter.connection.Writable)
    (serialized :
      ((stream.codec.registryFor event.eventType).serialize event).value = .ok body) :
    ((write event).on stream).value =
      (.ok stream.acknowledged,
        { stream with
          filter :=
            stream.filter.accepted
              (frames ⟨event.eventType, event.route⟩ stream.codec.termination body).flatten
          acknowledged := 0 }) := by
  let carried := frames ⟨event.eventType, event.route⟩ stream.codec.termination body
  have appended :
      (stream.codec.append event []).value = (.ok carried.length, carried.flatten) := by
    rw [Codec.append, Noted.value_bind, serialized]
    rfl
  rw [isFramed.value_write, value_sendEvent_of_ok appended,
    Filter.value_send_of_writable writable (flatten_frames_ne_nil _ _ _)]
  rfl

end Writing

end Stream

end EventWire
