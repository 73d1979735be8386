namespace EventWire

/-!
# Durations

A span of time as whole seconds and the nanoseconds beyond them.
-/

/-- A span of time. -/
structure Duration where
  seconds : UInt64
  nanoseconds : UInt32
  /-- The nanoseconds beyond the seconds are less than a second's worth. -/
  nanoseconds_lt : nanoseconds.toNat < 1000000000 := by decide
  deriving DecidableEq

namespace Duration

/-- The nanoseconds in a second. -/
def perSecond : Nat := 1000000000

/-- The span of the given seconds and nanoseconds, unless its seconds do not fit their word. -/
def ofParts? (seconds nanoseconds : Nat) : Option Duration :=
  let whole := seconds + nanoseconds / perSecond
  if whole < UInt64.size then
    some {
      seconds := UInt64.ofNat whole
      nanoseconds := UInt32.ofNat (nanoseconds % perSecond)
      nanoseconds_lt := by
        have below : nanoseconds % perSecond < 1000000000 := Nat.mod_lt _ (by decide)
        rw [UInt32.toNat_ofNat_of_lt' (Nat.lt_trans below (by decide))]
        exact below }
  else none

/-- A number of whole seconds. -/
def ofSeconds (seconds : UInt64) : Duration where
  seconds := seconds
  nanoseconds := 0

/-- The longest span of time. -/
def longest : Duration where
  seconds := 0xFFFFFFFFFFFFFFFF
  nanoseconds := 999999999

/-- Whether a span is empty. -/
def isZero (duration : Duration) : Bool :=
  duration.seconds == 0 && duration.nanoseconds == 0

/-- How a span of whole seconds is written. -/
def secondsText (duration : Duration) : String :=
  toString duration.seconds.toNat ++ "s"

/-- A span in seconds, rounded to a double. -/
def inSeconds (duration : Duration) : Float :=
  duration.seconds.toFloat + duration.nanoseconds.toFloat / 1000000000.0

end Duration

end EventWire
