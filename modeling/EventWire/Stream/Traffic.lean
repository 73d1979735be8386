import EventWire.Stream.Handshake

namespace EventWire

/-!
# Reading and writing events

A stream that has not negotiated does so first, as the responder.  Reading
handles the protocol's own events and returns all others; every so many events
it acknowledges them to the peer.  On a coarse stream reading returns octets as
they arrive.
-/

namespace Stream

def peerAcknowledgedNotice (count : UInt32) : Notice where
  level := .debug
  target := target
  message := "peer acknowledged events"
  details := [("count", .count count.toNat)]

def repeatedRecordNotice : Notice where
  level := .debug
  target := target
  message := "ignoring repeated negotiation record"
  details := []

/-- What an event of the protocol itself means to a stream that reads. -/
def judgeControl (record : Record) : Noted (Verdict Event) := do
  match Acknowledgement.ofRecord? record with
  | some acknowledgement =>
    Noted.give (peerAcknowledgedNotice acknowledgement.count)
    return .acknowledged acknowledgement.count
  | none =>
    match VersionRecord.ofRecord? record with
    | none => return .pass
    | some version =>
      match version.validate with
      | .error error => return .settled (.error (.protocol error))
      | .ok () =>
        Noted.give repeatedRecordNotice
        return .pass

/-- What a parcel means to a stream that reads. -/
def judgeEvent (codec : Codec) (parcel : Frame.Parcel) : Noted (Verdict Event) := do
  match ← codec.open? parcel with
  | none => return .pass
  | some record =>
    if record.eventType.isControl then judgeControl record
    else return .settled (.ok (.record record))

/-- Count an event that is about to be returned, and acknowledge when it is time. -/
def countRead : Action Unit := do
  let stream ← get
  let count := stream.unacknowledged + 1
  set { stream with unacknowledged := count }
  if 0 < stream.config.ackLimit ∧ stream.config.ackLimit ≤ count then acknowledge

/-- Read the next event of a framed stream. -/
def readFramed (stream : Stream) : Noted (Outcome Event × Stream) := do
  match ← stream.await (judgeEvent stream.codec) .closed .forEvent with
  | (.done event, received) =>
    match ← countRead.on received with
    | (.ok (), counted) => return (.done event, counted)
    | (.error error, counted) => return (.failed error, counted)
  | (other, received) => return (other, received)

/-- Read the next octets of a coarse stream. -/
def readCoarse (stream : Stream) : Noted (Outcome Event × Stream) := do
  if stream.rawBacklog ≠ [] then
    return (.done (.raw stream.rawBacklog), { stream with rawBacklog := [] })
  else if stream.ended then return (.failed .closed, stream)
  else
    match ← stream.filter.receive with
    | (.data octets, filter) => return (.done (.raw octets), { stream with filter := filter })
    | (.closed, filter) => return (.failed .closed, { stream with filter := filter, ended := true })
    | (.failed error, filter) =>
      return (.failed (.transport error), { stream with filter := filter })
    | (.blocked, filter) => return (.blocked .forEvent, { stream with filter := filter })

/-- Read the next event of a stream that has negotiated. -/
def readNegotiated (stream : Stream) : Noted (Outcome Event × Stream) :=
  if stream.coarse then stream.readCoarse else stream.readFramed

/-- Read the next event, as far as what has arrived allows. -/
def read (stream : Stream) : Noted (Outcome Event × Stream) := do
  match ← stream.negotiate .responder with
  | (.done _, ready) => ready.readNegotiated
  | (.failed error, ready) => return (.failed error, ready)
  | (.blocked wait, ready) => return (.blocked wait, ready)

/-- Read the next event at some instant. -/
def readAt
    (clock : Clock)
    (now : clock.Instant) :
    Stream → Option (Noted (Outcome Event × Stream)) :=
  callAt clock now read

/-- Negotiate as the responder unless that is over; there is no time to wait. -/
def ensureNegotiated : Action Unit :=
  fun stream => do
    let (outcome, ready) ← stream.negotiate .responder
    return (outcome.expire.map fun _ => (), ready)

/-- Write an event, and report what the peer has acknowledged. -/
def write (event : Event) : Action UInt32 := do
  ensureNegotiated
  if (← get).coarse then
    match event with
    | .raw octets => Action.onFilter fun filter => filter.send octets
    | .record record => throw (.coarseWrite record.eventType)
  else sendEvent event
  takeAcknowledged

/-- Write an event at some instant. -/
def writeAt
    (clock : Clock)
    (now : clock.Instant)
    (event : Event) :
    Stream → Option (Noted (Except StreamError UInt32 × Stream)) :=
  callAt clock now (write event).on

end Stream

end EventWire
