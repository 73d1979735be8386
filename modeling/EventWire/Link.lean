import EventWire.Stream.Traffic

namespace EventWire

/-!
# Links

The two ends of a connection together.  Whatever one end sends is carried to
the other at once.  An end can be dropped: the other still receives what was
sent to it, and then sees that its peer is gone.
-/

/-- What stands at an end of a connection. -/
inductive End where
  | stream (stream : Stream)
  | filter (filter : Filter)
  /-- Nothing but the connection itself. -/
  | bare (connection : Connection)
  | dropped

namespace End

/-- The connection of an end that has not been dropped. -/
def connection? : End → Option Connection
  | .stream framed => some framed.filter.connection
  | .filter blocks => some blocks.connection
  | .bare connection => some connection
  | .dropped => none

/-- The same end with its connection in another state. -/
def withConnection (connection : Connection) : End → End
  | .stream framed =>
    .stream { framed with filter := { framed.filter with connection := connection } }
  | .filter blocks => .filter { blocks with connection := connection }
  | .bare _ => .bare connection
  | .dropped => .dropped

/-- Whether an end compresses what it sends. -/
def compresses : End → Bool
  | .stream framed => framed.filter.enabled
  | .filter blocks => blocks.enabled
  | .bare _ => false
  | .dropped => false

/-- The peer of an end is dropped. -/
def losePeer (remaining : End) : End :=
  match remaining.connection? with
  | some connection => remaining.withConnection connection.dropPeer
  | none => remaining

end End

/-- The two sides of a link. -/
inductive Side where
  | left
  | right
  deriving DecidableEq

/-- The two ends of a connection. -/
structure Link where
  left : End
  right : End

namespace Link

/-- The end on a side. -/
def endAt (link : Link) : Side → End
  | .left => link.left
  | .right => link.right

/-- Carry what both ends have sent. -/
def exchange (link : Link) : Link :=
  match link.left.connection?, link.right.connection? with
  | some left, some right =>
    let (left, right) := Connection.exchange left right
    ⟨link.left.withConnection left, link.right.withConnection right⟩
  | _, _ => link

/-- The end on a side has moved on, and what it has sent is carried. -/
def move (link : Link) (side : Side) (moved : End) : Link :=
  match side with
  | .left => { link with left := moved }.exchange
  | .right => { link with right := moved }.exchange

/-- The end on a side is dropped. -/
def drop (link : Link) : Side → Link
  | .left => ⟨.dropped, link.right.losePeer⟩
  | .right => ⟨link.left.losePeer, .dropped⟩

/--
Both ends negotiate at the same time, if both are streams, each from an instant
of its own on.
-/
def handshakeAt
    (clock : Clock)
    (now : Side → clock.Instant)
    (leftRole rightRole : Role)
    (link : Link) :
    Option (Noted (Option (Outcome Extensions × Outcome Extensions) × Link)) :=
  match link.left, link.right with
  | .stream left, .stream right => do
    let both ← Stream.negotiateBothAt clock (now .left) (now .right) leftRole rightRole left right
    return do
      let ((leftOutcome, left), (rightOutcome, right)) ← both
      return (some (leftOutcome, rightOutcome), ⟨.stream left, .stream right⟩)
  | _, _ => some (.silent (none, link))

end Link

end EventWire
