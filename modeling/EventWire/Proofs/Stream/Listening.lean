import EventWire.Proofs.Stream.Lagging
import EventWire.Proofs.Stream.Ledger

namespace EventWire

/-!
# Reading until nothing is left

Every read that is not blocked takes something off what has arrived, so an end
that reads again and again is blocked before long.  By then it has counted all
that was acknowledged on the way to it.
-/

open EventWire.Frame

namespace Stream

/-- What a stream has still to look at: what has arrived, and what its decoder holds. -/
def remaining (stream : Stream) : Nat × Nat :=
  (stream.unheard, stream.decoder.weight)

/-- Less is left to look at than before. -/
def Lessens (next stream : Stream) : Prop :=
  Prod.Lex (· < ·) (· < ·) next.remaining stream.remaining

theorem wellFounded_lessens : WellFounded Lessens :=
  InvImage.wf remaining (Prod.lex Nat.lt_wfRel Nat.lt_wfRel).wf

theorem Lessens.trans
    {first second third : Stream}
    (before : first.Lessens second)
    (after : second.Lessens third) :
    first.Lessens third :=
  Prod.Lex.trans before after

section Waiting

variable {sender receiver last : Stream} {parcels : List Parcel} {outcome : Outcome Event}

theorem lessens_decode
    {parcel : Parcel}
    {decoder : Decoder}
    (returned : (receiver.decoder.decode receiver.ended).value = (some parcel, decoder))
    (acknowledged : UInt32) :
    Lessens { receiver with decoder := decoder, acknowledged := acknowledged } receiver :=
  Prod.Lex.right _ (weight_lt_of_returned returned)

theorem lessens_receive
    {octets : Bytes}
    {filter : Filter}
    (received : receiver.filter.receive.value = (.data octets, filter))
    (decoder : Decoder) :
    Lessens { receiver with filter := filter, decoder := decoder } receiver := by
  have taken := (Filter.backlog_receive receiver.filter).2 octets (congrArg Prod.fst received)
  rw [received] at taken
  exact Prod.Lex.left _ _ (Nat.add_lt_add_right taken _)

/-- Nothing that has arrived is left: neither received nor in the decoder. -/
structure Exhausted (stream : Stream) : Prop where
  inbox : stream.filter.connection.inbox = []
  received : stream.filter.received = []
  buffer : stream.decoder.buffer = []

theorem Exhausted.inFlight
    (exhausted : receiver.Exhausted)
    (carried : sender.filter.connection.outbox = []) :
    sender.inFlight receiver = 0 := by
  rw [Stream.inFlight, coming, exhausted.inbox, exhausted.received, exhausted.buffer, carried,
    List.append_nil, List.flatten_nil, List.append_nil, Filter.unpacked_nil, List.append_nil,
    reportedIn_nil]

/-- Nothing has arrived at a receiver that is blocked. -/
theorem Supplies.inbox_of_blocked
    {filter : Filter}
    (supplies : sender.Supplies receiver)
    (received : receiver.filter.receive.value = (.blocked, filter)) :
    receiver.filter.connection.inbox = [] := by
  cases inbox : receiver.filter.connection.inbox with
  | nil => rfl
  | cons chunk rest =>
      obtain ⟨octets, carries, -⟩ :=
        supplies.chunks chunk (List.mem_append_left _ (by rw [inbox]; exact List.mem_cons_self))
      obtain ⟨_, yielded⟩ := Filter.exists_receive_of_carries supplies.clear carries inbox
      exact nomatch received.symm.trans yielded

/-- Waiting for an event is in vain when nothing is left; otherwise it leaves less. -/
theorem Supplies.exhausted_or_lessens
    {codec : Codec}
    (awaited : Awaited (judgeEvent codec) .closed .forEvent receiver parcels outcome last)
    (same : receiver.codec = codec)
    (supplies : sender.Supplies receiver) :
    (outcome = .blocked .forEvent → last.Exhausted) ∧
      (outcome ≠ .blocked .forEvent → last.Lessens receiver) := by
  induction awaited with
  | passed returned judged _ inductionHypothesis =>
      rw [← same] at judged
      obtain ⟨next, -⟩ :=
        supplies.decode_other returned fun count acknowledged =>
          nomatch judged.symm.trans acknowledged
      obtain ⟨exhausted, lessens⟩ := inductionHypothesis same next
      exact ⟨exhausted, fun goesOn => (lessens goesOn).trans (lessens_decode returned _)⟩
  | acknowledged returned judged _ inductionHypothesis =>
      rw [← same] at judged
      obtain ⟨next, -⟩ := supplies.decode_acknowledgement returned judged
      obtain ⟨exhausted, lessens⟩ := inductionHypothesis same next
      exact ⟨exhausted, fun goesOn => (lessens goesOn).trans (lessens_decode returned _)⟩
  | @settled _ _ _ result returned _ =>
      refine ⟨fun blocked => ?_, fun _ => lessens_decode returned _⟩
      cases result <;> cases blocked
  | ended _ atEnd => exact nomatch supplies.running.symm.trans atEnd
  | arrived returned running received _ inductionHypothesis =>
      obtain ⟨decoded, -⟩ := supplies.decode_nothing returned
      rcases decoded.receive received with ⟨octets, arrival, next, -⟩ | ⟨arrival, -⟩
      · cases arrival
        obtain ⟨exhausted, lessens⟩ := inductionHypothesis same next
        exact ⟨exhausted, fun goesOn => (lessens goesOn).trans (lessens_receive received _)⟩
      · exact nomatch arrival
  | closed returned running received _ _ =>
      obtain ⟨decoded, -⟩ := supplies.decode_nothing returned
      rcases decoded.receive received with ⟨octets, arrival, -⟩ | ⟨arrival, -⟩ <;>
        exact nomatch arrival
  | failed returned running received =>
      obtain ⟨decoded, -⟩ := supplies.decode_nothing returned
      rcases decoded.receive received with ⟨octets, arrival, -⟩ | ⟨arrival, -⟩ <;>
        exact nomatch arrival
  | blocked returned running received =>
      obtain ⟨decoded, empty, -⟩ := supplies.decode returned 0
      rcases supplies.receive received with ⟨octets, arrival, -⟩ | ⟨-, rfl⟩
      · exact nomatch arrival
      · exact ⟨fun _ => ⟨supplies.inbox_of_blocked received, supplies.clear, empty rfl⟩,
          fun goesOn => absurd rfl goesOn⟩

end Waiting

/-- A read counts what is acknowledged on the way, and is blocked when nothing is left. -/
theorem Accounts.listened
    {reader writer : Stream}
    {returned reported : Nat}
    (accounts : reader.Accounts writer returned reported)
    (framed : writer.Framed) :
    let read := writer.read.value
    reader.Accounts read.2 returned reported ∧
      (read.1 = .blocked .forEvent → read.2.Exhausted) ∧
      (read.1 ≠ .blocked .forEvent → read.2.Lessens writer) := by
  obtain ⟨parcels, outcome, received, awaited⟩ :=
    exists_awaited (judgeEvent writer.codec) .closed .forEvent writer
  have counted := accounts.awaits awaited
  obtain ⟨exhausted, lessens⟩ := accounts.supplies.exhausted_or_lessens awaited rfl
  intro read
  have turn : read = conclude outcome received :=
    framed.value_read.trans (value_readFramed awaited)
  rw [turn]
  cases outcome with
  | failed error => exact ⟨counted, exhausted, lessens⟩
  | blocked wait => exact ⟨counted, exhausted, lessens⟩
  | done event =>
      obtain ⟨gathered, outbox, counters, unacknowledged, same⟩ := speaks_countRead received
      have speaks : received.Speaks (countRead.on received).value.2 :=
        ⟨gathered, outbox, counters, received.filter.connection.finished, unacknowledged,
          received.acknowledged, same⟩
      have unblocked := @unblocked_conclude (.done event) (fun _ => nofun) received .forEvent
      refine ⟨?_, fun blocked => absurd blocked unblocked, fun _ => ?_⟩
      · rw [snd_conclude_done]
        exact counted.speaks speaks (by rw [same])
      · rw [snd_conclude_done, same]
        exact lessens nofun

end Stream

namespace Ledger

open EventWire.Stream

/-- An end reads until a read is blocked, or even longer. -/
inductive ReadsOut : Ledger → Ledger → Prop where
  | waits
      {ledger : Ledger}
      (blocked : ledger.stream.read.value.1 = .blocked .forEvent) :
      ReadsOut ledger (ledger.perform .read)
  | reads
      {ledger last : Ledger}
      (later : ReadsOut (ledger.perform .read) last) :
      ReadsOut ledger last

section Reading

variable {own : Stream} {other last : Ledger} {returned : Nat}

theorem listened
    (accounts : own.Accounts other.stream returned other.collected)
    (framed : other.stream.Framed) :
    let next := other.perform .read
    own.Accounts next.stream returned next.collected ∧
      next.stream.Framed ∧
      (other.stream.read.value.1 = .blocked .forEvent → next.stream.Exhausted) ∧
      (other.stream.read.value.1 ≠ .blocked .forEvent → next.stream.Lessens other.stream) := by
  intro next
  obtain ⟨listened, left⟩ := accounts.listened framed
  refine ⟨?_, (framed.after .read).1, left⟩
  rw [collected_of_silent rfl]
  exact listened

/-- Reading does not go on for ever without being blocked. -/
theorem exists_readsOut
    (accounts : own.Accounts other.stream returned other.collected)
    (framed : other.stream.Framed) :
    ∃ last, other.ReadsOut last := by
  generalize reads : other.stream = stream
  induction stream using wellFounded_lessens.induction generalizing other with
  | _ stream inductionHypothesis =>
      subst reads
      obtain ⟨accountsNext, framedNext, -, lessens⟩ := listened accounts framed
      by_cases blocked : other.stream.read.value.1 = .blocked .forEvent
      · exact ⟨_, .waits blocked⟩
      · obtain ⟨last, later⟩ := inductionHypothesis _ (lessens blocked) accountsNext framedNext rfl
        exact ⟨last, .reads later⟩

/-- An end whose reads are blocked has counted all that was acknowledged on the way to it. -/
theorem ReadsOut.counted
    (readsOut : other.ReadsOut last)
    (accounts : own.Accounts other.stream returned other.collected)
    (framed : other.stream.Framed)
    (carried : own.filter.connection.outbox = [])
    (small : returned < 2 ^ 32) :
    returned = own.unacknowledged.toNat + last.stream.acknowledged.toNat + last.collected := by
  induction readsOut with
  | waits blocked =>
      obtain ⟨accountsNext, -, exhausted, -⟩ := listened accounts framed
      have balanced := accountsNext.balanced small
      rw [(exhausted blocked).inFlight carried] at balanced
      exact balanced
  | reads _ inductionHypothesis =>
      obtain ⟨accountsNext, framedNext, -⟩ := listened accounts framed
      exact inductionHypothesis accountsNext framedNext

end Reading

/--
What an end acknowledges now is recognised at the other.  Once it is carried
there, a read is blocked sooner or later, and then all events that the end has
returned have been counted there or reported to the user.
-/
def Recognised (own other : Ledger) : Prop :=
  let carried := (own.perform .acknowledge).carry other
  (∃ last, carried.2.ReadsOut last) ∧
    ∀ last, carried.2.ReadsOut last →
      own.returned.length = last.stream.acknowledged.toNat + last.collected

theorem Agrees.recognised
    {own other : Ledger}
    (agrees : own.Agrees other)
    (compact : (own.toPeer.perform .acknowledge).Compact)
    (small : own.returned.length < 2 ^ 32) :
    own.Recognised other := by
  have acknowledged := agrees.acknowledge compact
  obtain ⟨-, -, none⟩ := agrees.reading.acknowledges compact
  have carried := acknowledged.carry
  refine ⟨exists_readsOut carried.reading carried.writing.framed, fun last readsOut => ?_⟩
  have sum := readsOut.counted carried.reading carried.writing.framed rfl small
  have nothing :
      ((own.perform .acknowledge).carry other).1.stream.unacknowledged = 0 := none
  rw [nothing] at sum
  exact sum.trans (congrArg (· + _) (Nat.zero_add _))

end Ledger

end EventWire
