import EventWire.Duration

namespace EventWire

/-!
# Traffic counters

What has crossed a connection in either direction.  The counters are words and
start again from zero when they run over.
-/

/-- A connection's number, which tells it from others. -/
structure ConnectionId where
  number : UInt64
  deriving DecidableEq

namespace ConnectionId

/-- A connection reads as its number behind a fixed word. -/
def text (id : ConnectionId) : String :=
  "conn-" ++ toString id.number.toNat

end ConnectionId

/-- The traffic of a connection so far. -/
structure Counters where
  bytesSent : UInt64
  bytesReceived : UInt64
  sends : UInt64
  receives : UInt64
  deriving DecidableEq, Inhabited

namespace Counters

/-- No traffic. -/
def zero : Counters := ⟨0, 0, 0, 0⟩

/-- Count one sending of the given number of octets. -/
def sent (counters : Counters) (count : UInt64) : Counters :=
  { counters with
    bytesSent := counters.bytesSent + count
    sends := counters.sends + 1 }

/-- Count one receiving of the given number of octets. -/
def received (counters : Counters) (count : UInt64) : Counters :=
  { counters with
    bytesReceived := counters.bytesReceived + count
    receives := counters.receives + 1 }

end Counters

/-- The traffic of a connection and the time it took. -/
structure Statistics where
  counters : Counters
  uptime : Duration

namespace Statistics

/-- Octets per second in both directions; too short a time gives no meaningful rate, hence zero. -/
def throughput (statistics : Statistics) : Float :=
  let seconds := statistics.uptime.inSeconds
  if seconds < 0.001 then 0.0
  else
    (statistics.counters.bytesSent + statistics.counters.bytesReceived).toFloat / seconds

end Statistics

end EventWire
