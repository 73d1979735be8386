import EventWire.BigEndian
import EventWire.Notice
import EventWire.Transport.Error
import EventWire.Transport.Statistics

namespace EventWire

/-!
# Connections in memory

A connection is one of two ends between which chunks of octets travel in order.
What an end sends waits in its outbox until it is carried to the peer's inbox,
so an end can be studied by itself, with whatever arrives in its inbox.
-/

/-- What receiving yields. -/
inductive Arrival where
  /-- Octets have arrived. -/
  | data (octets : Bytes)
  /-- The peer sends no more and everything it sent has been received. -/
  | closed
  /-- What has arrived cannot be used. -/
  | failed (error : TransportError)
  /-- Nothing has arrived, but something still may. -/
  | blocked
  deriving DecidableEq

/-- One end of a connection. -/
structure Connection where
  id : ConnectionId
  /-- Chunks that have arrived, the oldest first. -/
  inbox : List Bytes
  /-- The peer will send nothing more. -/
  peerFinished : Bool
  /-- Chunks sent that have not been carried to the peer, the oldest first. -/
  outbox : List Bytes
  /-- This end will send nothing more. -/
  finished : Bool
  /-- The peer is gone and receives nothing more. -/
  peerDropped : Bool
  counters : Counters
  deriving DecidableEq

namespace Connection

def target : String := "vigil_transport::memory"

def closedNotice : Notice where
  level := .debug
  target := target
  message := "memory connection closed"
  details := []

/-- An end of a new connection. -/
def fresh (id : ConnectionId) : Connection where
  id := id
  inbox := []
  peerFinished := false
  outbox := []
  finished := false
  peerDropped := false
  counters := .zero

/-- The two ends of a new connection, numbered in order. -/
def pair : Connection × Connection :=
  (fresh ⟨1⟩, fresh ⟨2⟩)

/-- Send a chunk; sending nothing always succeeds and leaves no trace. -/
def send (connection : Connection) (octets : Bytes) : Except TransportError Connection :=
  if octets = [] then .ok connection
  else if connection.finished then .error .shutDown
  else if connection.peerDropped then .error .peerDropped
  else
    .ok { connection with
      outbox := connection.outbox ++ [octets]
      counters := connection.counters.sent (UInt64.ofNat octets.length) }

/-- Receive the oldest chunk that has arrived. -/
def receive (connection : Connection) : Arrival × Connection :=
  match connection.inbox with
  | octets :: rest =>
    (.data octets,
      { connection with
        inbox := rest
        counters := connection.counters.received (UInt64.ofNat octets.length) })
  | [] => (if connection.peerFinished then .closed else .blocked, connection)

/-- Push out what has been sent: nothing is ever held back. -/
def flush (_connection : Connection) : Except TransportError Unit :=
  .ok ()

/-- Close an end for sending; it can still receive. -/
def close (connection : Connection) : Noted Connection := do
  Noted.giveIf (!connection.finished) closedNotice
  return { connection with finished := true }

/-- Carry what one end has sent to the other. -/
def carry (sender receiver : Connection) : Connection × Connection :=
  ({ sender with outbox := [] },
    { receiver with
      inbox := receiver.inbox ++ sender.outbox
      peerFinished := receiver.peerFinished || sender.finished })

/-- Carry what both ends have sent. -/
def exchange (left right : Connection) : Connection × Connection :=
  let (left, right) := carry left right
  let (right, left) := carry right left
  (left, right)

/-- The peer drops its end: it sends no more and receives no more. -/
def dropPeer (connection : Connection) : Connection :=
  { connection with peerFinished := true, peerDropped := true }

/-- The number of octets and chunks that wait to be received. -/
def backlog (connection : Connection) : Nat :=
  connection.inbox.foldr (fun octets waiting => octets.length + 1 + waiting) 0

/-- Receiving a chunk takes it off the backlog. -/
theorem backlog_receive
    {connection : Connection}
    {octets : Bytes}
    {rest : List Bytes}
    (inbox : connection.inbox = octets :: rest) :
    connection.receive.2.backlog + octets.length < connection.backlog := by
  simp [receive, backlog, inbox]
  omega

/-- Receiving never adds to the backlog. -/
theorem backlog_receive_le (connection : Connection) :
    connection.receive.2.backlog ≤ connection.backlog := by
  unfold receive
  split
  · next octets rest inbox =>
      simp [backlog, inbox]
  · exact Nat.le_refl _

end Connection

end EventWire
