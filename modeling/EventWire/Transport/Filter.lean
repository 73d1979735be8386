import EventWire.Compression.Zlib
import EventWire.Transport.Connection

namespace EventWire

/-!
# The compression filter

A filter stands between a stream and its connection.  While it is disabled
octets pass unchanged.  Enabled, it gathers what is sent until there is enough
for a block, and sends each block as its length in four octets and a compressed
stream; on the other side it puts blocks together from however they arrive and
yields what each stands for.
-/

/-- A connection behind a compression filter. -/
structure Filter where
  connection : Connection
  compressor : Compressor
  /-- How many octets are gathered before a block is sent. -/
  bufferSize : Nat
  enabled : Bool
  /-- Octets gathered for the next block. -/
  gathered : Bytes
  /-- Octets received of blocks that have not been yielded. -/
  received : Bytes

namespace Filter

def target : String := "vigil_transport::zlib"

def compressedNotice (length : Nat) : Notice where
  level := .trace
  target := target
  message := "compressed block"
  details := [("raw", .count length)]

def adoptedNotice (length : Nat) : Notice where
  level := .trace
  target := target
  message := "compression filter adopted pending bytes"
  details := [("bytes", .count length)]

def droppedNotice (length : Nat) : Notice where
  level := .debug
  target := target
  message := "dropping incomplete compressed block at close"
  details := [("bytes", .count length)]

/-- A filter that lets octets pass until it is enabled. -/
def passthrough
    (connection : Connection)
    (compressor : Compressor)
    (bufferSize : Nat) :
    Filter where
  connection := connection
  compressor := compressor
  bufferSize := bufferSize
  enabled := false
  gathered := []
  received := []

/-- A filter that compresses from the first octet on. -/
def compressing
    (connection : Connection)
    (compressor : Compressor)
    (bufferSize : Nat) :
    Filter :=
  { passthrough connection compressor bufferSize with enabled := true }

/-- Compress from now on; octets received earlier but not used come before what arrives. -/
def enable (filter : Filter) (pending : Bytes) : Noted Filter := do
  Noted.giveIf (pending ≠ []) (adoptedNotice pending.length)
  return { filter with enabled := true, received := pending ++ filter.received }

/-- What an attempt on a filter yields; the filter changes even when the attempt fails. -/
abbrev Attempt (Value : Type) := Except TransportError Value × Filter

/-- Send octets on the connection behind the filter. -/
def sendThrough (filter : Filter) (octets : Bytes) : Attempt Unit :=
  match filter.connection.send octets with
  | .ok connection => (.ok (), { filter with connection := connection })
  | .error error => (.error error, filter)

/-- The block that carries octets: the length of their compressed stream, and the stream. -/
def block (compressor : Compressor) (octets : Bytes) : Bytes :=
  let compressed := compressor.compress octets
  BigEndian.encode32 (UInt32.ofNat compressed.length) ++ compressed

/-- Send what has been gathered as one block; it is given up even when sending fails. -/
def sendBlock (filter : Filter) : Noted (Attempt Unit) := do
  Noted.give (compressedNotice filter.gathered.length)
  return { filter with gathered := [] }.sendThrough (block filter.compressor filter.gathered)

/-- Send octets, at once or with the next block. -/
def send (filter : Filter) (octets : Bytes) : Noted (Attempt Unit) :=
  if filter.enabled then
    let fuller := { filter with gathered := filter.gathered ++ octets }
    if fuller.bufferSize ≤ fuller.gathered.length ∧ fuller.gathered ≠ [] then
      fuller.sendBlock
    else .silent (.ok (), fuller)
  else .silent (filter.sendThrough octets)

/-- Send what is still gathered. -/
def flush (filter : Filter) : Noted (Attempt Unit) :=
  if filter.enabled ∧ filter.gathered ≠ [] then filter.sendBlock
  else .silent (.ok (), filter)

/-- Send what is still gathered, then close for sending. -/
def close (filter : Filter) : Noted (Attempt Unit) := do
  match ← filter.flush with
  | (.error error, flushed) => return (.error error, flushed)
  | (.ok (), flushed) =>
    let connection ← flushed.connection.close
    return (.ok (), { flushed with connection := connection })

/-- What stands at the front of received octets. -/
inductive Front where
  /-- A whole block: its compressed stream, and the octets behind it. -/
  | whole (compressed rest : Bytes)
  /-- Less than a whole block. -/
  | partly
  /-- A length that no block may have. -/
  | tooLong (length : Nat)
  deriving DecidableEq

namespace Front

/-- Look at the front of received octets. -/
def ofBytes : Bytes → Front
  | first :: second :: third :: fourth :: behind =>
    let length := (BigEndian.decode32 first second third fourth).toNat
    if maxBlock < length then .tooLong length
    else
      let compressed := behind.take length
      if compressed.length = length then .whole compressed (behind.drop length)
      else .partly
  | _ => .partly

end Front

/-- What a compressed stream yields. -/
def open? (filter : Filter) (compressed : Bytes) : Arrival :=
  match filter.compressor.decompress compressed with
  | some octets => .data octets
  | none => .failed .corruptBlock

/--
Receive what the next block stands for.

A block that cannot be decompressed is used up; a length that no block may have
is not, so nothing behind it is ever reached.
-/
def receiveBlock (filter : Filter) : Noted (Arrival × Filter) :=
  match Front.ofBytes filter.received with
  | .tooLong length => .silent (.failed (.blockTooLong length), filter)
  | .whole compressed rest =>
    .silent (filter.open? compressed, { filter with received := rest })
  | .partly =>
    match _inbox : filter.connection.inbox with
    | octets :: _ =>
      receiveBlock
        { filter with
          connection := filter.connection.receive.2
          received := filter.received ++ octets }
    | [] =>
      if filter.connection.peerFinished then do
        Noted.giveIf (filter.received ≠ []) (droppedNotice filter.received.length)
        return (.closed, { filter with received := [] })
      else .silent (.blocked, filter)
termination_by filter.connection.inbox.length
decreasing_by
  simp [Connection.receive, _inbox]

/-- Receive octets as the layer above sees them. -/
def receive (filter : Filter) : Noted (Arrival × Filter) :=
  if filter.enabled then filter.receiveBlock
  else
    let (arrival, connection) := filter.connection.receive
    .silent (arrival, { filter with connection := connection })

/-- How much has arrived that the layer above has not received. -/
def backlog (filter : Filter) : Nat :=
  filter.received.length + filter.connection.backlog

/-- A block at the front of received octets is longer than what is left behind it. -/
theorem length_rest_lt
    {octets compressed rest : Bytes}
    (whole : Front.ofBytes octets = .whole compressed rest) :
    rest.length < octets.length := by
  unfold Front.ofBytes at whole
  split at whole
  · simp only at whole
    split at whole
    · simp at whole
    · split at whole
      · simp only [Front.whole.injEq] at whole
        obtain ⟨-, rfl⟩ := whole
        simp only [List.length_drop, List.length_cons]
        omega
      · simp at whole
  · simp at whole

/-- Receiving a block never adds to the backlog, and takes from it when octets arrive. -/
theorem backlog_receiveBlock (filter : Filter) :
    filter.receiveBlock.value.2.backlog ≤ filter.backlog ∧
      (∀ octets, filter.receiveBlock.value.1 = .data octets →
        filter.receiveBlock.value.2.backlog < filter.backlog) := by
  rw [receiveBlock]
  split
  · simp
  · next compressed rest whole =>
      have shorter := length_rest_lt whole
      simp only [Noted.value_silent, backlog]
      constructor
      · omega
      · intro _ _
        omega
  · split
    · next octets rest inbox =>
        have taken := Connection.backlog_receive inbox
        have further := backlog_receiveBlock
          { filter with
            connection := filter.connection.receive.2
            received := filter.received ++ octets }
        simp only [backlog, List.length_append] at further ⊢
        constructor
        · omega
        · intro arrived isData
          have := further.2 arrived isData
          omega
    · split
      · simp [backlog]
      · simp
termination_by filter.connection.inbox.length
decreasing_by
  simp [Connection.receive, *]

/-- Receiving never adds to the backlog, and takes from it when octets arrive. -/
theorem backlog_receive (filter : Filter) :
    filter.receive.value.2.backlog ≤ filter.backlog ∧
      (∀ octets, filter.receive.value.1 = .data octets →
        filter.receive.value.2.backlog < filter.backlog) := by
  unfold receive
  split
  · exact backlog_receiveBlock filter
  · simp only [Noted.value_silent, backlog]
    constructor
    · have := Connection.backlog_receive_le filter.connection
      omega
    · intro octets isData
      match inbox : filter.connection.inbox with
      | [] =>
          simp only [Connection.receive, inbox] at isData
          split at isData <;> simp at isData
      | first :: rest =>
          have := Connection.backlog_receive inbox
          omega

end Filter

end EventWire
