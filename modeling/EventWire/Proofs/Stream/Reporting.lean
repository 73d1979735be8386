import EventWire.Proofs.Protocol.Reports
import EventWire.Proofs.Stream.Reading
import EventWire.Proofs.Stream.Transit
import EventWire.Proofs.Transport.Unpacking

namespace EventWire

/-!
# Acknowledgements on their way

What one end of a connection has sent and the other has not decoded stands in
chunks on their way, in the receiver's filter and in its decoder.  As long as it
is whole frames, of acknowledgements and of events that are not taken for any,
what these acknowledge can be added up.  Sending adds to the sum what is sent,
and waiting for an event moves from it what the receiver counts.
-/

open EventWire.Frame

/-- Events of a type are never taken for acknowledgements, whatever is in them. -/
def Codec.Ordinary (codec : Codec) (eventType : EventType) : Prop :=
  ∀ parcel : Parcel,
    parcel.identity.eventType = eventType →
    ∀ count, (Stream.judgeEvent codec parcel).value ≠ .acknowledged count

theorem Codec.not_ordinary_acknowledgement
    {codec : Codec}
    (standard : codec.control = Registry.control.value) :
    ¬ codec.Ordinary EventType.acknowledgement :=
  fun ordinary =>
    ordinary (Acknowledgement.mk 0).parcel rfl 0 (Stream.judgeEvent_acknowledgement standard ⟨0⟩)

namespace Stream

/-- All that a sender has sent and that the receiver's decoder has not used up, in plain. -/
def coming (sender receiver : Stream) : Bytes :=
  receiver.decoder.buffer ++
    Filter.unpacked receiver.filter.enabled receiver.filter.compressor
      (receiver.filter.received ++
        (receiver.filter.connection.inbox ++ sender.filter.connection.outbox).flatten)

/-- How many events are acknowledged on the way from a sender to a receiver. -/
def inFlight (sender receiver : Stream) : Nat :=
  reportedIn (sender.coming receiver)

/-- What a sender has sent reaches the receiver as whole frames. -/
structure Supplies (sender receiver : Stream) : Prop where
  standard : receiver.codec.control = Registry.control.value
  orderly : receiver.decoder.Orderly receiver.codec.Ordinary
  running : receiver.ended = false
  attended : receiver.filter.connection.peerFinished = false
  clear : receiver.filter.received = []
  chunks :
    ∀ chunk ∈ receiver.filter.connection.inbox ++ sender.filter.connection.outbox,
      ∃ octets,
        Filter.Carries receiver.filter.enabled receiver.filter.compressor octets chunk ∧
          Whole receiver.codec.Ordinary octets
  gathered : Whole receiver.codec.Ordinary sender.filter.gathered
  atOnce : sender.filter.enabled = false → sender.filter.gathered = []
  agreed : sender.filter.enabled = receiver.filter.enabled
  lossless :
    ∀ octets,
      receiver.filter.compressor.decompress (sender.filter.compressor.compress octets) =
        some octets

theorem whole_unpacked
    {plain : EventType → Prop}
    {compressing : Bool}
    {opener : Compressor}
    {chunks : List Bytes}
    (carry :
      ∀ chunk ∈ chunks, ∃ octets, Filter.Carries compressing opener octets chunk ∧
        Whole plain octets) :
    Whole plain (Filter.unpacked compressing opener chunks.flatten) := by
  induction chunks with
  | nil =>
      rw [List.flatten_nil, Filter.unpacked_nil]
      exact .nil
  | cons chunk others inductionHypothesis =>
      rw [List.forall_mem_cons] at carry
      obtain ⟨octets, carries, whole⟩ := carry.1
      rw [List.flatten_cons, carries.unpacked_append]
      exact whole.append (inductionHypothesis carry.2)

theorem toNat_saturatingSum
    {left right : UInt32}
    (small : left.toNat + right.toNat < 2 ^ 32) :
    (saturatingSum left right).toNat = left.toNat + right.toNat := by
  have fits : left.toNat + right.toNat ≤ UInt32.size - 1 := Nat.le_pred_of_lt small
  rw [saturatingSum, Nat.min_eq_left fits, UInt32.toNat_ofNat']
  exact Nat.mod_eq_of_lt small

/-- A parcel that is taken for nothing else than it is reports what its reader counts. -/
theorem reported_eq
    {codec : Codec}
    {parcel : Parcel}
    (standard : codec.control = Registry.control.value)
    (regular :
      codec.Ordinary parcel.identity.eventType ∨
        ∃ acknowledgement : Acknowledgement, parcel = acknowledgement.parcel) :
    (∃ count, (judgeEvent codec parcel).value = .acknowledged count ∧
        parcel.reported = count.toNat) ∨
      (∀ count, (judgeEvent codec parcel).value ≠ .acknowledged count) ∧ parcel.reported = 0 := by
  rcases regular with ordinary | ⟨acknowledgement, rfl⟩
  · refine .inr ⟨ordinary parcel rfl, Parcel.reported_eq_zero fun report => ?_⟩
    rw [report] at ordinary
    exact Codec.not_ordinary_acknowledgement standard ordinary
  · exact .inl ⟨acknowledgement.count, judgeEvent_acknowledgement standard acknowledgement,
      Parcel.reported_acknowledgement acknowledgement⟩

namespace Supplies

variable {sender receiver : Stream}

theorem whole_coming (supplies : sender.Supplies receiver) :
    Whole receiver.codec.Ordinary (sender.coming receiver) := by
  rw [coming, supplies.clear, List.nil_append]
  exact supplies.orderly.whole.append (whole_unpacked supplies.chunks)

section Sending

variable {octets : Bytes} {filter : Filter}

/-- What is sent behind the rest arrives behind the rest. -/
theorem coming_of_sent
    {next : Stream}
    {chunk : Bytes}
    (supplies : sender.Supplies receiver)
    (carries : Filter.Carries receiver.filter.enabled receiver.filter.compressor octets chunk)
    (sent :
      next.filter.connection.outbox = sender.filter.connection.outbox ++ [chunk]) :
    next.coming receiver = sender.coming receiver ++ octets := by
  have carry :
      ∀ chunk ∈ receiver.filter.connection.inbox ++ sender.filter.connection.outbox,
        ∃ octets, Filter.Carries receiver.filter.enabled receiver.filter.compressor octets chunk :=
    fun chunk member => (supplies.chunks chunk member).imp fun _ found => found.1
  have alone := carries.unpacked_append []
  rw [List.append_nil, Filter.unpacked_nil, List.append_nil] at alone
  rw [coming, coming, supplies.clear, List.nil_append, List.nil_append, sent,
    ← List.append_assoc, List.flatten_append, Filter.unpacked_flatten_append carry,
    List.flatten_singleton, alone, List.append_assoc]

/-- The acknowledgements among the octets that a sender disposes of are in flight or gathered. -/
theorem disposes
    (supplies : sender.Supplies receiver)
    (whole : Whole receiver.codec.Ordinary octets)
    (disposes : sender.filter.Disposes octets filter)
    (compact : filter.Compact)
    (unacknowledged acknowledged : UInt32) :
    let next :=
      { sender with
        filter := filter
        unacknowledged := unacknowledged
        acknowledged := acknowledged }
    next.Supplies receiver ∧
      next.inFlight receiver + reportedIn filter.gathered =
        sender.inFlight receiver + reportedIn octets := by
  cases disposes with
  | gathers counters atOnce next_eq =>
      subst next_eq
      exact ⟨⟨supplies.standard, supplies.orderly, supplies.running, supplies.attended,
        supplies.clear, supplies.chunks, whole, atOnce, supplies.agreed, supplies.lossless⟩, rfl⟩
  | sends counters next_eq =>
      subst next_eq
      have carries :
          Filter.Carries receiver.filter.enabled receiver.filter.compressor octets
            (sender.filter.wrapped octets) := by
        rw [← supplies.agreed]
        refine Filter.carries_wrapped supplies.lossless fun enabled => ?_
        exact compact enabled _ (List.mem_append_right _ (List.mem_singleton_self _))
      refine ⟨⟨supplies.standard, supplies.orderly, supplies.running, supplies.attended,
        supplies.clear, fun chunk member => ?_, .nil, fun _ => rfl, supplies.agreed,
        supplies.lossless⟩, ?_⟩
      · rw [Filter.speaking, ← List.append_assoc] at member
        rcases List.mem_append.mp member with before | new
        · exact supplies.chunks chunk before
        · rw [List.mem_singleton.mp new]
          exact ⟨octets, carries, whole⟩
      · rw [inFlight, supplies.coming_of_sent carries rfl, supplies.whole_coming.reportedIn_append,
          inFlight]
        exact congrArg _ reportedIn_nil

/-- What a sender pushes out at once is in flight, behind what it had gathered. -/
theorem dispatches
    (supplies : sender.Supplies receiver)
    (whole : Whole receiver.codec.Ordinary octets)
    (compact : (sender.filter.accepted octets).pushed.Compact)
    (unacknowledged acknowledged : UInt32) :
    let next :=
      { sender with
        filter := (sender.filter.accepted octets).pushed
        unacknowledged := unacknowledged
        acknowledged := acknowledged }
    next.Supplies receiver ∧
      next.filter.gathered = [] ∧
      next.inFlight receiver =
        sender.inFlight receiver + reportedIn sender.filter.gathered + reportedIn octets := by
  intro next
  have handed := Filter.disposes_accepted supplies.atOnce octets
  have atOnce := handed.atOnce
  obtain ⟨pushes, empty⟩ := Filter.disposes_pushed atOnce
  obtain ⟨suppliesBetween, sumBetween⟩ :=
    supplies.disposes (supplies.gathered.append whole) handed (pushes.compact compact)
      unacknowledged acknowledged
  obtain ⟨suppliesNext, sum⟩ :=
    suppliesBetween.disposes suppliesBetween.gathered pushes compact unacknowledged acknowledged
  refine ⟨suppliesNext, empty, ?_⟩
  have nothing : reportedIn next.filter.gathered = 0 := by
    rw [show next.filter.gathered = [] from empty, reportedIn_nil]
  rw [supplies.gathered.reportedIn_append] at sumBetween
  have total :
      next.inFlight receiver + reportedIn next.filter.gathered =
        sender.inFlight receiver + (reportedIn sender.filter.gathered + reportedIn octets) :=
    sum.trans sumBetween
  rw [nothing] at total
  exact total.trans (Nat.add_assoc _ _ _).symm

/-- What the sender receives is none of the receiver's concern. -/
theorem sender_listens
    {next : Stream}
    (supplies : sender.Supplies receiver)
    (listens : sender.Listens next) :
    next.Supplies receiver ∧ next.inFlight receiver = sender.inFlight receiver := by
  obtain ⟨_, _, _, _, _, _, _, rfl⟩ := listens
  exact
    ⟨⟨supplies.standard, supplies.orderly, supplies.running, supplies.attended, supplies.clear,
      supplies.chunks, supplies.gathered, supplies.atOnce, supplies.agreed, supplies.lossless⟩, rfl⟩

/-- What the receiver sends is none of the sender's concern. -/
theorem receiver_speaks
    {next : Stream}
    (supplies : sender.Supplies receiver)
    (speaks : receiver.Speaks next) :
    sender.Supplies next ∧ sender.inFlight next = sender.inFlight receiver := by
  obtain ⟨_, _, _, _, _, _, rfl⟩ := speaks
  exact
    ⟨⟨supplies.standard, supplies.orderly, supplies.running, supplies.attended, supplies.clear,
      supplies.chunks, supplies.gathered, supplies.atOnce, supplies.agreed, supplies.lossless⟩, rfl⟩

/-- What is carried to the receiver is in flight all the same. -/
theorem carry
    (supplies : sender.Supplies receiver)
    (unfinished : sender.filter.connection.finished = false) :
    let carried := sender.filter.connection.carry receiver.filter.connection
    let sent := { sender with filter := { sender.filter with connection := carried.1 } }
    let given := { receiver with filter := { receiver.filter with connection := carried.2 } }
    sent.Supplies given ∧ sent.inFlight given = sender.inFlight receiver := by
  have chunks :
      (receiver.filter.connection.inbox ++ sender.filter.connection.outbox) ++ ([] : List Bytes) =
        receiver.filter.connection.inbox ++ sender.filter.connection.outbox :=
    List.append_nil _
  refine ⟨⟨supplies.standard, supplies.orderly, supplies.running, ?_, supplies.clear, ?_,
    supplies.gathered, supplies.atOnce, supplies.agreed, supplies.lossless⟩, ?_⟩
  · exact Bool.or_eq_false_iff.mpr ⟨supplies.attended, unfinished⟩
  · intro chunk member
    exact supplies.chunks chunk (chunks ▸ member)
  · rw [inFlight, inFlight, coming, coming]
    exact congrArg
      (fun chunks =>
        reportedIn
          (receiver.decoder.buffer ++
            Filter.unpacked receiver.filter.enabled receiver.filter.compressor
              (receiver.filter.received ++ chunks.flatten)))
      chunks

end Sending

section Receiving

variable {result : Option Parcel} {decoder : Decoder}

/-- Decoding returns what is reported, one report at a time, and nothing taken for one. -/
theorem decode
    (supplies : sender.Supplies receiver)
    (returned : (receiver.decoder.decode receiver.ended).value = (result, decoder))
    (acknowledged : UInt32) :
    let next := { receiver with decoder := decoder, acknowledged := acknowledged }
    sender.Supplies next ∧
      (result = none → decoder.buffer = []) ∧
      (∀ parcel ∈ result,
        receiver.codec.Ordinary parcel.identity.eventType ∨
          ∃ acknowledgement : Acknowledgement, parcel = acknowledgement.parcel) ∧
      sender.inFlight receiver =
        sender.inFlight next + (result.map Parcel.reported).getD 0 := by
  obtain ⟨deeds, decodes⟩ := Decoder.exists_decodes receiver.ended receiver.decoder
  rw [returned, supplies.running] at decodes
  obtain ⟨orderly, exhausted, taken, reported⟩ :=
    supplies.orderly.decodes (Codec.not_ordinary_acknowledgement supplies.standard) decodes
  refine ⟨⟨supplies.standard, orderly, supplies.running, supplies.attended, supplies.clear,
    supplies.chunks, supplies.gathered, supplies.atOnce, supplies.agreed, supplies.lossless⟩,
    exhausted, taken, ?_⟩
  rw [inFlight, inFlight, coming, coming, supplies.orderly.whole.reportedIn_append,
    orderly.whole.reportedIn_append, reported]
  exact Nat.add_right_comm _ _ _

/-- What is received next is what one chunk stands for, unless none has arrived. -/
theorem receive
    {arrival : Arrival}
    {filter : Filter}
    (supplies : sender.Supplies receiver)
    (received : receiver.filter.receive.value = (arrival, filter)) :
    (∃ octets,
        arrival = .data octets ∧
          let next :=
            { receiver with filter := filter, decoder := receiver.decoder.push octets }
          sender.Supplies next ∧ sender.inFlight next = sender.inFlight receiver) ∨
      arrival = .blocked ∧ filter = receiver.filter := by
  cases inbox : receiver.filter.connection.inbox with
  | nil =>
      rw [Filter.value_receive_of_empty supplies.clear inbox, supplies.attended] at received
      cases received
      exact .inr ⟨rfl, rfl⟩
  | cons chunk rest =>
      have chunks := supplies.chunks
      rw [inbox, List.cons_append, List.forall_mem_cons] at chunks
      obtain ⟨octets, carries, whole⟩ := chunks.1
      obtain ⟨counters, yielded⟩ := Filter.exists_receive_of_carries supplies.clear carries inbox
      cases received.symm.trans yielded
      refine .inl ⟨octets, rfl, ⟨supplies.standard, supplies.orderly.push whole, supplies.running,
        supplies.attended, rfl, chunks.2, supplies.gathered, supplies.atOnce, supplies.agreed,
        supplies.lossless⟩, ?_⟩
      rw [inFlight, inFlight, coming, coming, supplies.clear, inbox, List.cons_append,
        List.flatten_cons, List.nil_append, carries.unpacked_append, ← List.append_assoc]
      rfl

/-- A parcel that is no acknowledgement leaves in flight what is acknowledged. -/
theorem decode_other
    {parcel : Parcel}
    (supplies : sender.Supplies receiver)
    (returned : (receiver.decoder.decode receiver.ended).value = (some parcel, decoder))
    (other : ∀ count, (judgeEvent receiver.codec parcel).value ≠ .acknowledged count) :
    sender.Supplies { receiver with decoder := decoder } ∧
      sender.inFlight { receiver with decoder := decoder } = sender.inFlight receiver := by
  obtain ⟨next, -, regular, reported⟩ := supplies.decode returned receiver.acknowledged
  refine ⟨next, ?_⟩
  rcases reported_eq supplies.standard (regular parcel rfl) with
    ⟨count, judged, -⟩ | ⟨-, nothing⟩
  · exact absurd judged (other count)
  · rw [reported, Option.map_some, Option.getD_some, nothing]
    rfl

/-- A parcel that is an acknowledgement is counted, if the counter can hold it. -/
theorem decode_acknowledgement
    {parcel : Parcel}
    {count : UInt32}
    (supplies : sender.Supplies receiver)
    (returned : (receiver.decoder.decode receiver.ended).value = (some parcel, decoder))
    (judged : (judgeEvent receiver.codec parcel).value = .acknowledged count) :
    let next :=
      { receiver with
        decoder := decoder
        acknowledged := saturatingSum receiver.acknowledged count }
    sender.Supplies next ∧
      (receiver.acknowledged.toNat + sender.inFlight receiver < 2 ^ 32 →
        next.acknowledged.toNat + sender.inFlight next =
          receiver.acknowledged.toNat + sender.inFlight receiver) := by
  intro next
  obtain ⟨suppliesNext, -, regular, reported⟩ := supplies.decode returned next.acknowledged
  refine ⟨suppliesNext, fun small => ?_⟩
  rcases reported_eq supplies.standard (regular parcel rfl) with
    ⟨found, judgedToo, counted⟩ | ⟨other, -⟩
  · cases judged.symm.trans judgedToo
    rw [Option.map_some, Option.getD_some, counted] at reported
    have sum : next.acknowledged.toNat = receiver.acknowledged.toNat + count.toNat :=
      toNat_saturatingSum (by omega)
    rw [sum, reported]
    exact Nat.add_right_comm _ _ _ |>.trans (Nat.add_assoc _ _ _)
  · exact absurd judged (other count)

/-- A decoder that returns nothing leaves in flight what is acknowledged. -/
theorem decode_nothing
    (supplies : sender.Supplies receiver)
    (returned : (receiver.decoder.decode receiver.ended).value = (none, decoder)) :
    sender.Supplies { receiver with decoder := decoder } ∧
      sender.inFlight { receiver with decoder := decoder } = sender.inFlight receiver := by
  obtain ⟨next, -, -, reported⟩ := supplies.decode returned receiver.acknowledged
  exact ⟨next, reported.symm⟩

/--
While a receiver waits for an event it counts what is acknowledged by the frames
it takes, and no counter overflows unless more is acknowledged than it can hold.
-/
theorem awaited
    {codec : Codec}
    {parcels : List Parcel}
    {outcome : Outcome Event}
    {last : Stream}
    (awaited : Awaited (judgeEvent codec) .closed .forEvent receiver parcels outcome last)
    (same : receiver.codec = codec)
    (supplies : sender.Supplies receiver) :
    sender.Supplies last ∧
      (receiver.acknowledged.toNat + sender.inFlight receiver < 2 ^ 32 →
        last.acknowledged.toNat + sender.inFlight last =
          receiver.acknowledged.toNat + sender.inFlight receiver) := by
  induction awaited with
  | passed returned judged _ inductionHypothesis =>
      rw [← same] at judged
      obtain ⟨next, still⟩ :=
        supplies.decode_other returned fun count acknowledged =>
          nomatch judged.symm.trans acknowledged
      rw [← still]
      exact inductionHypothesis same next
  | acknowledged returned judged _ inductionHypothesis =>
      rw [← same] at judged
      obtain ⟨next, counted⟩ := supplies.decode_acknowledgement returned judged
      obtain ⟨suppliesLast, countedLater⟩ := inductionHypothesis same next
      refine ⟨suppliesLast, fun small => ?_⟩
      exact (countedLater ((counted small).symm ▸ small)).trans (counted small)
  | settled returned judged =>
      rw [← same] at judged
      obtain ⟨next, still⟩ :=
        supplies.decode_other returned fun count acknowledged =>
          nomatch judged.symm.trans acknowledged
      exact ⟨next, fun _ => congrArg _ still⟩
  | ended returned atEnd => exact nomatch supplies.running.symm.trans atEnd
  | arrived returned running received _ inductionHypothesis =>
      obtain ⟨decoded, still⟩ := supplies.decode_nothing returned
      rcases decoded.receive received with ⟨octets, arrival, next, stillThen⟩ | ⟨arrival, -⟩
      · cases arrival
        rw [← still, ← stillThen]
        exact inductionHypothesis same next
      · exact nomatch arrival
  | closed returned running received _ inductionHypothesis =>
      obtain ⟨decoded, -⟩ := supplies.decode_nothing returned
      rcases decoded.receive received with ⟨octets, arrival, -⟩ | ⟨arrival, -⟩ <;>
        exact nomatch arrival
  | failed returned running received =>
      obtain ⟨decoded, -⟩ := supplies.decode_nothing returned
      rcases decoded.receive received with ⟨octets, arrival, -⟩ | ⟨arrival, -⟩ <;>
        exact nomatch arrival
  | blocked returned running received =>
      obtain ⟨decoded, still⟩ := supplies.decode_nothing returned
      rcases decoded.receive received with ⟨octets, arrival, -⟩ | ⟨-, rfl⟩
      · exact nomatch arrival
      · exact ⟨decoded, fun _ => congrArg _ still⟩

end Receiving

end Supplies

end Stream

end EventWire
