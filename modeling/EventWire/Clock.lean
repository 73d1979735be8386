import EventWire.Duration

namespace EventWire

/-!
# Clocks

An end that waits works out until when before it starts to wait.  A clock tells
instants only so far ahead, and a span of time may lead beyond the last of them.
-/

/-- A clock, which need not be able to tell an instant that lies far ahead. -/
structure Clock where
  Instant : Type
  /-- The instant that lies a span of time behind another, if the clock can tell it. -/
  later? : Instant → Duration → Option Instant

namespace Clock

/-- A clock that counts nanoseconds, as long as the seconds fit a signed word of 64 bits. -/
def monotonic : Clock where
  Instant := Nat
  later? now span :=
    let reached := now + Duration.perSecond * span.seconds.toNat + span.nanoseconds.toNat
    if reached < UInt64.size / 2 * Duration.perSecond then some reached else none

/-- The instant from which a clock counts nanoseconds. -/
def origin : monotonic.Instant :=
  (0 : Nat)

/-- Behind every instant the longest span of time leads beyond what can be told. -/
theorem later?_longest (now : Nat) : monotonic.later? now .longest = none := by
  have beyond :
      UInt64.size / 2 * Duration.perSecond ≤
        now + Duration.perSecond * Duration.longest.seconds.toNat +
          Duration.longest.nanoseconds.toNat :=
    calc
      UInt64.size / 2 * Duration.perSecond ≤
          Duration.perSecond * Duration.longest.seconds.toNat := by decide
      _ ≤ now + Duration.perSecond * Duration.longest.seconds.toNat := Nat.le_add_left _ _
      _ ≤ _ := Nat.le_add_right _ _
  simp only [monotonic, if_neg (Nat.not_lt.mpr beyond)]

end Clock

end EventWire
