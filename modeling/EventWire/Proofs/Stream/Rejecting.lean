import EventWire.Proofs.Protocol.Appending
import EventWire.Proofs.Stream.Conversation

namespace EventWire

/-!
# Rejected writes

A write of an event that cannot be put on the wire is rejected before anything
is sent.  The frames of an event are put together apart from what has been
gathered, and the count of acknowledged events is taken last, so a rejected
write leaves the stream as it was.  Then nothing that happens later, to the
user or to the peer, tells whether the write was ever tried.
-/

/-- Whether an error says that an event cannot be written, and not that sending failed. -/
def StreamError.isRejection : StreamError → Bool
  | protocol (.unknownType _) => true
  | protocol (.event _) => true
  | coarseWrite _ => true
  | _ => false

/-- What comes of an incident at an end of a connection. -/
inductive Answer where
  | agreed (outcome : Outcome Extensions)
  | handed (outcome : Outcome Event)
  /-- A write or a flush says how many events the peer has acknowledged. -/
  | reported (result : Except StreamError UInt32)
  | performed (result : Except StreamError Unit)
  /-- Chunks are carried to the peer, and whether they are the last. -/
  | carried (chunks : List Bytes) (finished : Bool)
  | nothing

/-- What can happen at an end of a connection whose stream is in use. -/
inductive Incident where
  /-- The user calls an operation. -/
  | call (operation : Operation)
  /-- A chunk arrives from the peer. -/
  | arrival (octets : Bytes)
  /-- The peer closes its end for sending. -/
  | peerCloses
  /-- The peer drops its end. -/
  | peerDrops
  /-- What this end has sent is carried to the peer. -/
  | carry

namespace Stream

/-- What an operation returned, as an answer, and the stream after it. -/
def returning
    {Value : Type}
    (answer : Value → Answer)
    (turn : Value × Stream) :
    Answer × Stream :=
  (answer turn.1, turn.2)

/--
Perform an operation and say what it returned.  Once a handshake is over,
negotiating is the same for either role.
-/
def perform (stream : Stream) : Operation → Answer × Stream
  | .negotiate => returning .agreed (stream.negotiate .responder).value
  | .read => returning .handed stream.read.value
  | .write event => returning .reported ((write event).on stream).value
  | .flush => returning .reported (flush.on stream).value
  | .acknowledge => returning .performed (acknowledge.on stream).value
  | .close => returning .performed (close.on stream).value

/-- What comes of an incident, and the stream after it. -/
def handle (stream : Stream) : Incident → Answer × Stream
  | .call operation => stream.perform operation
  | .arrival octets => (.nothing, (Occurrence.arrival octets).after stream)
  | .peerCloses => (.nothing, Occurrence.peerCloses.after stream)
  | .peerDrops => (.nothing, Occurrence.peerDrops.after stream)
  | .carry =>
    let connection := stream.filter.connection
    (.carried connection.outbox connection.finished,
      { stream with
        filter := { stream.filter with connection := { connection with outbox := [] } } })

/-- Incidents one after the other, logged with what comes of each. -/
def handleAll (stream : Stream) : List Incident → List (Incident × Answer) × Stream
  | [] => ([], stream)
  | incident :: later =>
    let handled := stream.handle incident
    let others := handled.2.handleAll later
    ((incident, handled.1) :: others.1, others.2)

/-- A log from which any number of rejected writes have been left out. -/
inductive Abridged : List (Incident × Answer) → List (Incident × Answer) → Prop where
  | nil : Abridged [] []
  | keep
      {log shorter : List (Incident × Answer)}
      (entry : Incident × Answer)
      (later : Abridged log shorter) :
      Abridged (entry :: log) (entry :: shorter)
  | drop
      {log shorter : List (Incident × Answer)}
      {event : Event}
      {error : StreamError}
      (rejection : error.isRejection = true)
      (later : Abridged log shorter) :
      Abridged ((.call (.write event), .reported (.error error)) :: log) shorter

theorem Abridged.refl (log : List (Incident × Answer)) : Abridged log log := by
  induction log with
  | nil => exact .nil
  | cons entry _ inductionHypothesis => exact .keep entry inductionHypothesis

section Negotiated

variable {stream : Stream} (negotiated : stream.negotiated.isSome = true)

/-- Send octets, then report what the peer has acknowledged. -/
def post (octets : Bytes) : Action UInt32 := do
  Action.onFilter fun filter => filter.send octets
  takeAcknowledged

theorem value_post (octets : Bytes) (stream : Stream) :
    ((post octets).on stream).value =
      match (stream.filter.send octets).value with
      | (.ok _, filter) =>
        (.ok stream.acknowledged, { stream with filter := filter, acknowledged := 0 })
      | (.error error, filter) =>
        (.error (.transport error), { stream with filter := filter }) := by
  rw [post, Action.value_on_bind, Action.value_on_onFilter]
  rcases (stream.filter.send octets).value with ⟨_ | _, _⟩ <;> rfl

theorem negotiated_flush : (flush.on stream).value.2.negotiated = stream.negotiated := by
  rw [flush, Action.value_on_bind, pushOut, Action.value_on_onFilter]
  rcases stream.filter.flush.value with ⟨_ | _, _⟩ <;> rfl

theorem negotiated_of_speaks
    {action : Action Unit}
    (speaks : action.Speaks) :
    (action.on stream).value.2.negotiated = stream.negotiated := by
  obtain ⟨_, _, _, _, changed⟩ := speaks stream
  rw [changed]

include negotiated

/-- A write fails and changes nothing, or it only sends octets and takes the count. -/
theorem write_cases (event : Event) :
    (∃ error, ((write event).on stream).value = (.error error, stream)) ∨
      ∃ octets, ((write event).on stream).value = ((post octets).on stream).value := by
  rw [value_write_of_isSome negotiated]
  by_cases coarse : stream.coarse = true
  · rw [if_pos coarse]
    cases event with
    | raw octets => exact .inr ⟨octets, rfl⟩
    | record record => exact .inl ⟨.coarseWrite record.eventType, rfl⟩
  · rw [if_neg coarse, Action.value_on_bind]
    rcases Codec.append_cases stream.codec event [] with ⟨error, rejected⟩ | ⟨_, -, appended⟩
    · rw [value_sendEvent_of_error rejected]
      exact .inl ⟨.protocol error, rfl⟩
    · rw [value_sendEvent_of_ok appended]
      exact .inr ⟨_, by rw [post, Action.value_on_bind, Action.value_on_onFilter]⟩

/-- A write that is rejected leaves the stream as it was. -/
theorem snd_write_of_rejection
    {event : Event}
    {error : StreamError}
    (failed : ((write event).on stream).value.1 = .error error)
    (rejection : error.isRejection = true) :
    ((write event).on stream).value.2 = stream := by
  rcases write_cases negotiated event with ⟨_, rejected⟩ | ⟨octets, posted⟩
  · rw [rejected]
  · -- Only the transport fails when octets are sent, and that is no rejection.
    rw [posted, value_post] at failed
    rcases sent : (stream.filter.send octets).value with ⟨_ | _, _⟩
    · rw [sent] at failed
      cases failed
      exact nomatch rejection
    · rw [sent] at failed
      exact nomatch failed

theorem negotiated_write (event : Event) :
    ((write event).on stream).value.2.negotiated = stream.negotiated := by
  rcases write_cases negotiated event with ⟨_, rejected⟩ | ⟨octets, posted⟩
  · rw [rejected]
  · rw [posted, value_post]
    rcases (stream.filter.send octets).value with ⟨_ | _, _⟩ <;> rfl

/-- What was agreed stays agreed. -/
theorem negotiated_handle (incident : Incident) :
    (stream.handle incident).2.negotiated = stream.negotiated := by
  obtain ⟨_, settled⟩ := Option.isSome_iff_exists.mp negotiated
  cases incident with
  | call operation =>
      cases operation with
      | negotiate =>
          rw [handle, perform, value_negotiate_of_negotiated settled]
          rfl
      | read => exact negotiated_read negotiated
      | write event => exact negotiated_write negotiated event
      | flush => exact negotiated_flush
      | acknowledge => exact negotiated_of_speaks speaks_acknowledge
      | close => rfl
  | arrival _ => rfl
  | peerCloses => rfl
  | peerDrops => rfl
  | carry => rfl

end Negotiated

/-- Whatever happens is logged as it would be had some of the rejected writes not been tried. -/
theorem handleAll_of_abridged
    {stream : Stream}
    {incidents : List Incident}
    {shorter : List (Incident × Answer)}
    (negotiated : stream.negotiated.isSome = true)
    (abridged : Abridged (stream.handleAll incidents).1 shorter) :
    stream.handleAll (shorter.map Prod.fst) = (shorter, (stream.handleAll incidents).2) := by
  induction incidents generalizing stream shorter with
  | nil =>
      cases abridged
      rfl
  | cons incident later inductionHypothesis =>
      have still : (stream.handle incident).2.negotiated.isSome = true := by
        rw [negotiated_handle negotiated]
        exact negotiated
      rw [handleAll] at abridged ⊢
      generalize entered : (incident, (stream.handle incident).1) = entry at abridged
      cases abridged with
      | keep _ rest =>
          subst entered
          rw [List.map_cons, handleAll, inductionHypothesis still rest]
      | drop rejection rest =>
          obtain ⟨rfl, rejected⟩ := Prod.mk.inj entered
          have failed : ((write _).on stream).value.1 = .error _ := Answer.reported.inj rejected
          have unmoved : (stream.handle (.call (.write _))).2 = stream :=
            snd_write_of_rejection negotiated failed rejection
          rw [unmoved] at rest ⊢
          exact inductionHypothesis negotiated rest

/--
A write that a stream rejects changes nothing about the stream, so it sends and
gathers nothing and keeps the count of acknowledged events.  And however the
stream is used and whatever arrives, all answers, all octets that are sent and
the stream in the end are as if any of the rejected writes had not been tried.
-/
theorem rejected_writes_leave_no_trace
    (stream : Stream)
    (negotiated : stream.negotiated.isSome = true) :
    (∀ event error,
        ((write event).on stream).value.1 = .error error →
        error.isRejection = true →
        ((write event).on stream).value.2 = stream) ∧
      ∀ incidents shorter,
        Abridged (stream.handleAll incidents).1 shorter →
        stream.handleAll (shorter.map Prod.fst) =
          (shorter, (stream.handleAll incidents).2) :=
  ⟨fun _ _ failed rejection => snd_write_of_rejection negotiated failed rejection,
    fun _ _ abridged => handleAll_of_abridged negotiated abridged⟩

section Samples

/-- A stream that compresses, with octets gathered and a count that has not been reported. -/
def laden : Stream :=
  let fresh :=
    (onConnection (.fresh ⟨1⟩) Codec.contested
      { StreamConfig.default with negotiate := false, compressionBuffer := 100 }).value
  { fresh with
    filter := { fresh.filter with enabled := true, gathered := [1, 2] }
    acknowledged := 3 }

/-- A flush behind a rejected write still reports what the peer has acknowledged. -/
theorem rejected_writes_leave_no_trace_laden :
    let rejected :=
      (Incident.call (.write (.record Codec.uncleanLine)),
        Answer.reported (.error (.protocol (.event (.interiorNul "message")))))
    let later := [.call .flush, .carry]
    laden.negotiated.isSome = true ∧
      ((write (.record Codec.uncleanLine)).on laden).value.2 = laden ∧
      laden.handleAll (rejected.1 :: later) =
        (rejected :: (laden.handleAll later).1, (laden.handleAll later).2) ∧
      (laden.handleAll later).1.head? = some (.call .flush, .reported (.ok 3)) := by
  intro rejected later
  have logged :
      laden.handleAll (rejected.1 :: later) =
        (rejected :: ((laden.handle rejected.1).2.handleAll later).1,
          ((laden.handle rejected.1).2.handleAll later).2) :=
    rfl
  obtain ⟨unmoved, alike⟩ := rejected_writes_leave_no_trace laden rfl
  have abridged := alike (rejected.1 :: later)
  rw [logged] at abridged ⊢
  have same := abridged _ (.drop rfl (.refl _))
  refine ⟨rfl, unmoved _ _ rfl rfl, ?_, rfl⟩
  rw [show laden.handleAll later = _ from same]

end Samples

end Stream

end EventWire
