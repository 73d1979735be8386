import EventWire.Frame.Header

namespace EventWire

/-!
# Searching octets for a valid frame

Damage is part of normal operation, and a damaged length cannot be trusted, so
a search tries every offset.  A candidate whose payload has not fully arrived
cannot be judged; the search remembers the earliest such candidate and goes on,
and waits for it only when no valid frame is found behind it.  Once the stream
has ended nothing more arrives, and unfinished candidates are passed over.
-/

namespace Frame

/-- What a search over buffered octets has found. -/
inductive Scan where
  /-- A valid frame starts behind the skipped octets and is fully buffered. -/
  | found (skipped : Nat) (header : Header)
  /-- No frame can be confirmed before the needed octets arrive; none starts in the skipped ones. -/
  | incomplete (skipped needed : Nat)
  /-- The stream has ended and no valid frame is left. -/
  | exhausted
  deriving DecidableEq

namespace Scan

/-- What a search without success says, given the earliest unfinished candidate. -/
def conclude
    (atEnd : Bool)
    (position remaining : Nat) :
    Option (Nat × Nat) → Scan
  | some (skipped, needed) => .incomplete skipped needed
  | none =>
    if atEnd then .exhausted
    else .incomplete position (headerLength - remaining)

/--
Search from a position on.

`remaining` is the number of octets left, and `waiting` the earliest unfinished
candidate before the position.  Candidates that end within the first `verified`
octets are known to be invalid and are not checked again.
-/
def searchFrom
    (atEnd : Bool)
    (verified : Nat) :
    Bytes → Nat → Nat → Option (Nat × Nat) → Scan
  | [], position, remaining, waiting => conclude atEnd position remaining waiting
  | octet :: rest, position, remaining, waiting =>
    match Header.parse? (octet :: rest) with
    | none => conclude atEnd position remaining waiting
    | some (header, behind) =>
      if remaining < header.length then
        searchFrom atEnd verified rest (position + 1) (remaining - 1)
          (if atEnd then waiting
            else waiting.or (some (position, header.length - remaining)))
      else if verified < position + header.length ∧
          header.verifies (behind.take header.payloadLength) then
        .found position header
      else searchFrom atEnd verified rest (position + 1) (remaining - 1) waiting

end Scan

/-- A search over octets whose candidates ending within the first `verified` are invalid. -/
def rescan (buffer : Bytes) (atEnd : Bool) (verified : Nat) : Scan :=
  Scan.searchFrom atEnd verified buffer 0 buffer.length none

/-- A search over octets of which nothing is known. -/
def scan (buffer : Bytes) (atEnd : Bool) : Scan :=
  rescan buffer atEnd 0

namespace Scan

/-- A frame that a search from a position finds lies within the octets searched. -/
theorem le_of_searchFrom_eq_found
    {atEnd : Bool}
    {verified position skipped : Nat}
    {waiting : Option (Nat × Nat)}
    {octets : Bytes}
    {header : Header}
    (found :
      searchFrom atEnd verified octets position octets.length waiting = .found skipped header) :
    skipped + header.length ≤ position + octets.length := by
  induction octets generalizing position waiting with
  | nil =>
      cases waiting <;> simp [searchFrom, conclude] at found
      split at found <;> simp at found
  | cons octet rest inductionHypothesis =>
      rw [searchFrom] at found
      simp only [List.length_cons, Nat.add_sub_cancel] at found ⊢
      split at found
      · cases waiting <;> simp [conclude] at found
        split at found <;> simp at found
      · split at found
        · have bound := inductionHypothesis found
          omega
        · split at found
          · simp only [Scan.found.injEq] at found
            obtain ⟨rfl, rfl⟩ := found
            omega
          · have bound := inductionHypothesis found
            omega

/-- A frame that a search finds lies within the buffer. -/
theorem le_of_rescan_eq_found
    {buffer : Bytes}
    {atEnd : Bool}
    {verified skipped : Nat}
    {header : Header}
    (found : rescan buffer atEnd verified = .found skipped header) :
    skipped + header.length ≤ buffer.length := by
  have bound := le_of_searchFrom_eq_found found
  omega

end Scan

end Frame

end EventWire
