import EventWire.Stream.Basic

namespace EventWire

/-!
# Steps that only send

Sending never waits, so these operations run from the state of a stream to its
next state, and what they changed stays changed when they fail.
-/

namespace Stream

/-- An operation that changes a stream, may fail, and never waits. -/
abbrev Action (Value : Type) := ExceptT StreamError (StateT Stream Noted) Value

namespace Action

/-- Run an operation on a stream. -/
def on {Value : Type} (action : Action Value) (stream : Stream) :
    Noted (Except StreamError Value × Stream) :=
  StateT.run (ExceptT.run action) stream

/-- Give a notice. -/
def give (notice : Notice) : Action Unit :=
  fun stream => do
    Noted.give notice
    return (.ok (), stream)

/-- Attempt something on the stream's filter. -/
def onFilter {Value : Type} (attempt : Filter → Noted (Filter.Attempt Value)) : Action Value :=
  fun stream => do
    let (result, filter) ← attempt stream.filter
    return (result.mapError .transport, { stream with filter := filter })

end Action

def acknowledgedNotice (count : UInt32) : Notice where
  level := .debug
  target := target
  message := "sent acknowledgement"
  details := [("count", .count count.toNat)]

/-- Send the frames of an event. -/
def sendEvent (event : Event) : Action Unit := do
  let stream ← get
  let (result, frames) ← (stream.codec.append event [] : Noted _)
  match result with
  | .error error => throw (.protocol error)
  | .ok _ => Action.onFilter fun filter => filter.send frames

/-- Send what the filter has gathered. -/
def pushOut : Action Unit :=
  Action.onFilter Filter.flush

/-- The number of events acknowledged since it was last asked for. -/
def takeAcknowledged : Action UInt32 := do
  let stream ← get
  set { stream with acknowledged := 0 }
  return stream.acknowledged

/-- Send what is gathered, and report what the peer has acknowledged. -/
def flush : Action UInt32 := do
  pushOut
  takeAcknowledged

/--
Acknowledge every event read so far.

A coarse stream has no events to acknowledge, and without any new one nothing
is sent.
-/
def acknowledge : Action Unit := do
  let stream ← get
  if stream.coarse ∨ stream.unacknowledged = 0 then return
  set { stream with unacknowledged := 0 }
  sendEvent (.record (Acknowledgement.mk stream.unacknowledged).toRecord)
  pushOut
  Action.give (acknowledgedNotice stream.unacknowledged)

/-- Send what is gathered, then close for sending. -/
def close : Action Unit :=
  Action.onFilter Filter.close

end Stream

end EventWire
