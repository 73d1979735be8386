import EventWire.Clock
import EventWire.Stream.Writing

namespace EventWire

/-!
# The handshake

Each end sends one negotiation record and receives one: the initiator sends
first, the responder answers.  The extensions both offered are in force from
then on.  Octets that arrived behind the peer's record were sent under them, so
they move to the layer that now owns them.

An end works out until when it waits for its peer's record before it sends its
own.  A call whose clock cannot tell that instant breaks off there.
-/

namespace Stream

def negotiatingNotice (role : Role) (advertised : Extensions) : Notice where
  level := .debug
  target := target
  message := "negotiating"
  details := [("role", .text role.description), ("advertised", .text advertised.description)]

def unreadableNotice (error : ProtocolError) : Notice where
  level := .error
  target := target
  message := "unreadable negotiation record"
  details := [("error", .text error.message)]

def rejectedNotice (error : ProtocolError) : Notice where
  level := .error
  target := target
  message := "peer rejected"
  details := [("error", .text error.message)]

def receivedRecordNotice (record : VersionRecord) : Notice where
  level := .debug
  target := target
  message := "received negotiation record"
  details :=
    [("major", .count record.claim.major.toNat), ("minor", .count record.claim.minor.toNat),
      ("patch", .count record.claim.patch.toNat),
      ("extensions", .text record.offered.description)]

def compressionNotice : Notice where
  level := .debug
  target := target
  message := "compression enabled"
  details := []

def coarseNotice : Notice where
  level := .debug
  target := target
  message := "coarse mode enabled"
  details := []

def negotiatedNotice (role : Role) (extensions : Extensions) : Notice where
  level := .info
  target := target
  message := "negotiation complete"
  details := [("role", .text role.description), ("extensions", .text extensions.description)]

/-- Send this end's negotiation record. -/
def sendRecord (extensions : Extensions) : Action Unit := do
  sendEvent (.record (VersionRecord.offering extensions).toRecord)
  pushOut

/--
What a parcel means to an end that waits for the peer's negotiation record.

Parcels that hold no event are passed over, but not a record that cannot be
read; any other event in the record's place ends the handshake.
-/
def judgeRecord (codec : Codec) (parcel : Frame.Parcel) : Noted (Verdict Extensions) := do
  match ← codec.open? parcel with
  | none =>
    if parcel.identity.eventType = EventType.versionRecord then
      let error := VersionRecord.unreadable parcel.body
      Noted.give (unreadableNotice error)
      return .settled (.error (.protocol error))
    else return .pass
  | some record =>
    match VersionRecord.ofRecord? record with
    | none => return .settled (.error (.protocol (.unexpectedEvent record.eventType)))
    | some version =>
      match version.validate with
      | .error error =>
        Noted.give (rejectedNotice error)
        return .settled (.error (.protocol error))
      | .ok () =>
        Noted.give (receivedRecordNotice version)
        return .settled (.ok version.offered)

/-- Wait for the extensions that the peer offers. -/
def receiveRecord (stream : Stream) : Noted (Outcome Extensions × Stream) :=
  stream.await (judgeRecord stream.codec) (.protocol .incomplete) .forRecord

/-- Put extensions into force, handing over what arrived under them. -/
def apply (extensions : Extensions) : Action Unit := do
  if extensions.compression then
    let stream ← get
    let (pending, decoder) := stream.decoder.takeRemaining
    let filter ← (stream.filter.enable pending : Noted _)
    set { stream with decoder := decoder, filter := filter }
    Action.give compressionNotice
  if extensions.coarse then
    let stream ← get
    let (pending, decoder) := stream.decoder.takeRemaining
    set { stream with decoder := decoder, coarse := true, rawBacklog := pending }
    Action.give coarseNotice

/-- Begin a handshake: the initiator sends its record. -/
def beginHandshake (role : Role) : Action Unit := do
  let advertised := (← get).config.advertised
  Action.give (negotiatingNotice role advertised)
  match role with
  | .initiator => sendRecord advertised
  | .responder => return

/-- End a handshake with what the peer offers: the responder sends its record. -/
def endHandshake (role : Role) (offered : Extensions) : Action Extensions := do
  let advertised := (← get).config.advertised
  match role with
  | .initiator => pure ()
  | .responder => sendRecord advertised
  let agreed := advertised.inter offered
  apply agreed
  modify fun stream => { stream with negotiated := some agreed }
  Action.give (negotiatedNotice role agreed)
  return agreed

/-- Go on with a handshake that has begun. -/
def continueHandshake (role : Role) (stream : Stream) : Noted (Outcome Extensions × Stream) := do
  match ← stream.receiveRecord with
  | (.done offered, received) =>
    let (result, ended) ← (endHandshake role offered).on received
    return (settle result, ended)
  | (.failed error, received) => return (.failed error, received)
  | (.blocked wait, received) => return (.blocked wait, received)

/--
Perform the handshake and say what was agreed; once it is over, only say so.

This is what a call does that does not break off; `negotiateAt` is the call.
-/
def negotiate (role : Role) (stream : Stream) : Noted (Outcome Extensions × Stream) := do
  match stream.negotiated with
  | some agreed => return (.done agreed, stream)
  | none =>
    match ← (beginHandshake role).on stream with
    | (.error error, begun) => return (.failed error, begun)
    | (.ok (), begun) => begun.continueHandshake role

/--
Call what negotiates first, unless that is over, at some instant.

An end that has to negotiate works out until when it waits for its peer's record
before it sends anything.  The call breaks off, and comes to nothing, if the
clock cannot tell that instant.
-/
def callAt
    {Result : Type}
    (clock : Clock)
    (now : clock.Instant)
    (operation : Stream → Result)
    (stream : Stream) :
    Option Result :=
  match stream.negotiated with
  | some _ => some (operation stream)
  | none => do
    let _ ← clock.later? now stream.config.handshakeTimeout
    return operation stream

/-- Negotiate at some instant. -/
def negotiateAt
    (clock : Clock)
    (now : clock.Instant)
    (role : Role) :
    Stream → Option (Noted (Outcome Extensions × Stream)) :=
  callAt clock now (negotiate role)

section Call

variable {Result : Type} {clock : Clock} {now : clock.Instant} {stream : Stream}

/-- An end that has negotiated asks no clock. -/
theorem callAt_of_negotiated
    {agreed : Extensions}
    (negotiated : stream.negotiated = some agreed)
    (operation : Stream → Result) :
    stream.callAt clock now operation = some (operation stream) := by
  rw [callAt, negotiated]

/-- A call does not break off if the clock can tell until when it waits. -/
theorem callAt_of_timely
    (timely : (clock.later? now stream.config.handshakeTimeout).isSome)
    (operation : Stream → Result) :
    stream.callAt clock now operation = some (operation stream) := by
  obtain ⟨_, deadline⟩ := Option.isSome_iff_exists.mp timely
  rw [callAt, deadline]
  split <;> rfl

theorem callAt_eq_none_iff
    {operation : Stream → Result} :
    stream.callAt clock now operation = none ↔
      stream.negotiated = none ∧ clock.later? now stream.config.handshakeTimeout = none := by
  rw [callAt]
  rcases stream.negotiated with _ | _
  · rcases clock.later? now stream.config.handshakeTimeout with _ | _ <;> simp
  · simp

/-- What a call comes to, if it comes to anything. -/
theorem eq_of_callAt
    {operation : Stream → Result}
    {result : Result}
    (called : stream.callAt clock now operation = some result) :
    result = operation stream := by
  rw [callAt] at called
  split at called
  · exact (Option.some.inj called).symm
  · obtain ⟨_, -, returned⟩ := Option.bind_eq_some_iff.mp called
    exact (Option.some.inj returned).symm

end Call

/-- Go on with a handshake if it was blocked. -/
def resumeHandshake
    (role : Role)
    (outcome : Outcome Extensions)
    (stream : Stream) :
    Noted (Outcome Extensions × Stream) :=
  match outcome with
  | .blocked _ => stream.continueHandshake role
  | settled => .silent (settled, stream)

/-- Carry what two streams have sent to each other. -/
def exchange (left right : Stream) : Stream × Stream :=
  let (leftEnd, rightEnd) :=
    Connection.exchange left.filter.connection right.filter.connection
  ({ left with filter := { left.filter with connection := leftEnd } },
    { right with filter := { right.filter with connection := rightEnd } })

/--
Both ends of a connection negotiate at the same time.

Each end runs until it is done or blocked, the left one first.  An end sends at
most one record, so after two turns of each nothing can change any more.
-/
def negotiateBoth
    (leftRole rightRole : Role)
    (left right : Stream) :
    Noted ((Outcome Extensions × Stream) × (Outcome Extensions × Stream)) := do
  let (leftOutcome, left) ← left.negotiate leftRole
  let (left, right) := exchange left right
  let (rightOutcome, right) ← right.negotiate rightRole
  let (left, right) := exchange left right
  let (leftOutcome, left) ← left.resumeHandshake leftRole leftOutcome
  let (left, right) := exchange left right
  let (rightOutcome, right) ← right.resumeHandshake rightRole rightOutcome
  let (left, right) := exchange left right
  return ((leftOutcome, left), (rightOutcome, right))

/-- Both ends of a connection negotiate at the same time, each from an instant of its own on. -/
def negotiateBothAt
    (clock : Clock)
    (leftNow rightNow : clock.Instant)
    (leftRole rightRole : Role)
    (left right : Stream) :
    Option (Noted ((Outcome Extensions × Stream) × (Outcome Extensions × Stream))) :=
  (left.callAt clock leftNow fun left =>
    right.callAt clock rightNow (negotiateBoth leftRole rightRole left)).join

theorem negotiateBothAt_of_timely
    {clock : Clock}
    {leftNow rightNow : clock.Instant}
    {left right : Stream}
    (leftTimely : (clock.later? leftNow left.config.handshakeTimeout).isSome)
    (rightTimely : (clock.later? rightNow right.config.handshakeTimeout).isSome)
    (leftRole rightRole : Role) :
    negotiateBothAt clock leftNow rightNow leftRole rightRole left right =
      some (negotiateBoth leftRole rightRole left right) := by
  rw [negotiateBothAt, callAt_of_timely leftTimely, callAt_of_timely rightTimely]
  rfl

end Stream

end EventWire
