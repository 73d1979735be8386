import EventWire.Protocol.Codec
import EventWire.Stream.Config
import EventWire.Transport.Filter

namespace EventWire

/-!
# Streams

A stream carries events over a connection.  It owns a compression filter that
starts disabled, a codec and a decoder.  It opens with a handshake, unless its
settings spare it that, and then carries framed events or, if it is coarse,
opaque octets.  This module holds its state and the step that every waiting
operation repeats: decode what has arrived, and receive more when it does not
suffice.
-/

/-- Why an operation on a stream failed. -/
inductive StreamError where
  | transport (error : TransportError)
  | protocol (error : ProtocolError)
  /-- The peer has closed and every event it sent has been read. -/
  | closed
  /-- A coarse stream carries opaque payloads and nothing else. -/
  | coarseWrite (eventType : EventType)
  deriving DecidableEq

namespace StreamError

/-- The sentence that reports an error, where it does not depend on the system's own words. -/
def message? : StreamError → Option String
  | transport error => error.message?
  | protocol error => some error.message
  | closed => some "stream closed by peer"
  | coarseWrite eventType =>
    some ("cannot write event type " ++ eventType.text ++ " on a coarse stream")

end StreamError

/-- What a blocked operation waits for. -/
inductive Wait where
  /-- The peer's negotiation record, for as long as the handshake may take. -/
  | forRecord
  /-- The next event, until the caller's deadline. -/
  | forEvent
  deriving DecidableEq

/-- How far an operation has come with what has arrived. -/
inductive Outcome (Value : Type) where
  | done (value : Value)
  | failed (error : StreamError)
  | blocked (wait : Wait)

namespace Outcome

/-- What a blocked operation comes to when its time runs out. -/
def expire {Value : Type} : Outcome Value → Except StreamError (Option Value)
  | done value => .ok (some value)
  | failed error => .error error
  | blocked .forRecord => .error (.protocol .handshakeTimeout)
  | blocked .forEvent => .ok none

end Outcome

/--
The state of a stream.

The room in which the frames of an event are put together before they are sent
is not part of it: it is cleared each time before it is used, so nothing in it
outlives the operation that filled it.
-/
structure Stream where
  filter : Filter
  codec : Codec
  decoder : Frame.Decoder
  config : StreamConfig
  /-- The extensions agreed on, once the handshake is over. -/
  negotiated : Option Extensions
  coarse : Bool
  /-- The peer has closed. -/
  ended : Bool
  /-- Octets that arrived with the handshake but belong to the coarse stream. -/
  rawBacklog : Bytes
  /-- Events read since the last acknowledgement was sent. -/
  unacknowledged : UInt32
  /-- Events the peer has acknowledged and that have not been reported. -/
  acknowledged : UInt32

namespace Stream

def target : String := "vigil_stream::stream"

def peerClosedNotice : Notice where
  level := .debug
  target := target
  message := "peer closed the stream"
  details := []

/-- A new stream over a connection. -/
def onConnection
    (connection : Connection)
    (registry : Registry)
    (config : StreamConfig) :
    Noted Stream := do
  let codec ← Codec.ofRegistry registry config.termination config.maxEventSize
  return {
    filter :=
      .passthrough connection (Compression.Zlib.compressor config.compressionLevel)
        config.compressionBuffer
    codec := codec
    decoder := codec.decoder
    config := config
    negotiated :=
      if config.coarse then some ⟨false, true⟩
      else if config.negotiate then none
      else some .none
    coarse := config.coarse
    ended := false
    rawBacklog := []
    unacknowledged := 0
    acknowledged := 0 }

/-- A stream goes by the number of its connection. -/
def id (stream : Stream) : ConnectionId :=
  stream.filter.connection.id

/-- What a stream makes of a parcel that its decoder returns. -/
inductive Verdict (Value : Type) where
  /-- Nothing; the stream goes on. -/
  | pass
  /-- The peer has acknowledged events; the stream goes on. -/
  | acknowledged (count : UInt32)
  /-- What the stream was waiting for, or the reason why it cannot go on. -/
  | settled (result : Except StreamError Value)

/-- The sum of two counts, or the greatest count if that is less. -/
def saturatingSum (left right : UInt32) : UInt32 :=
  UInt32.ofNat (min (left.toNat + right.toNat) (UInt32.size - 1))

/-- How a settled result ends an operation. -/
def settle {Value : Type} : Except StreamError Value → Outcome Value
  | .ok value => .done value
  | .error error => .failed error

/-- How much has arrived that the stream's decoder has not been given. -/
def unheard (stream : Stream) : Nat :=
  stream.filter.backlog + if stream.ended then 0 else 1

/-- A decoder that has returned a parcel holds less than before. -/
theorem weight_lt_of_returned
    {atEnd : Bool}
    {decoder next : Frame.Decoder}
    {parcel : Frame.Parcel}
    (returned : (decoder.decode atEnd).value = (some parcel, next)) :
    next.weight < decoder.weight := by
  have used : (decoder.decode atEnd).value.2.weight < decoder.weight :=
    Frame.Decoder.weight_decode_lt (by rw [returned]; simp)
  rwa [returned] at used

/--
Decode and receive until a parcel settles what the stream is waiting for.

`judge` says what each parcel means, `ending` what the end of the stream means,
and `wait` what the stream is blocked for when nothing more has arrived.
-/
def await
    {Value : Type}
    (judge : Frame.Parcel → Noted (Verdict Value))
    (ending : StreamError)
    (wait : Wait)
    (stream : Stream) :
    Noted (Outcome Value × Stream) :=
  let decoded := stream.decoder.decode stream.ended
  match _returned : decoded.value with
  | (some parcel, decoder) =>
    let judged := judge parcel
    let said := decoded.notices ++ judged.notices
    match judged.value with
    | .pass => (await judge ending wait { stream with decoder := decoder }).after said
    | .acknowledged count =>
      (await judge ending wait
        { stream with
          decoder := decoder
          acknowledged := saturatingSum stream.acknowledged count }).after said
    | .settled result => ⟨(settle result, { stream with decoder := decoder }), said⟩
  | (none, decoder) =>
    if stream.ended then
      ⟨(.failed ending, { stream with decoder := decoder }), decoded.notices⟩
    else
      let received := stream.filter.receive
      let said := decoded.notices ++ received.notices
      match _arrived : received.value with
      | (.data octets, filter) =>
        (await judge ending wait
          { stream with filter := filter, decoder := decoder.push octets }).after said
      | (.closed, filter) =>
        (await judge ending wait
          { stream with filter := filter, decoder := decoder, ended := true }).after
          (said ++ [peerClosedNotice])
      | (.failed error, filter) =>
        ⟨(.failed (.transport error), { stream with filter := filter, decoder := decoder }), said⟩
      | (.blocked, filter) =>
        ⟨(.blocked wait, { stream with filter := filter, decoder := decoder }), said⟩
termination_by (stream.unheard, stream.decoder.weight)
decreasing_by
  · exact Prod.Lex.right _ (weight_lt_of_returned _returned)
  · exact Prod.Lex.right _ (weight_lt_of_returned _returned)
  · have taken := (Filter.backlog_receive stream.filter).2 octets (congrArg Prod.fst _arrived)
    rw [show stream.filter.receive.value = _ from _arrived] at taken
    apply Prod.Lex.left
    simp only [unheard] at taken ⊢
    omega
  · next running =>
      have kept := (Filter.backlog_receive stream.filter).1
      rw [show stream.filter.receive.value = _ from _arrived] at kept
      apply Prod.Lex.left
      simp only [unheard] at kept ⊢
      simp only [running, ↓reduceIte, Bool.false_eq_true]
      omega

end Stream

/-- How an end is set up. -/
structure Equipment where
  config : StreamConfig
  compressor : Compressor

/-- A new stream over a connection, with the end's own compressor in its filter. -/
def Equipment.stream
    (equipment : Equipment)
    (registry : Registry)
    (connection : Connection) :
    Stream :=
  { (Stream.onConnection connection registry equipment.config).value with
    filter :=
      .passthrough connection equipment.compressor equipment.config.compressionBuffer }

end EventWire
