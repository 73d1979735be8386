import EventWire.Frame.Header
import EventWire.Proofs.BigEndian

namespace EventWire

/-!
# Headers read back

Octets begin with a header exactly when they begin with the octets of that
header, so a header has one wire form and every sixteen octets are one.
-/

namespace Frame.Header

@[simp] theorem length_bytes (header : Header) :
    header.bytes.length = headerLength :=
  rfl

/-- A header is read back from its octets. -/
@[simp] theorem parse?_bytes_append
    (header : Header)
    (rest : Bytes) :
    parse? (header.bytes ++ rest) = some (header, rest) := by
  obtain ⟨checksum, chunkSize, ⟨⟨category, element⟩, ⟨source, destination⟩⟩⟩ := header
  simp [bytes, coveredBytes, parse?, BigEndian.encode16, BigEndian.encode32]

/-- Octets that begin with a header begin with its octets. -/
theorem eq_append_of_parse?
    {octets behind : Bytes}
    {header : Header}
    (parsed : parse? octets = some (header, behind)) :
    octets = header.bytes ++ behind := by
  unfold parse? at parsed
  split at parsed
  · simp only [Option.some.injEq, Prod.mk.injEq] at parsed
    obtain ⟨rfl, rfl⟩ := parsed
    simp [bytes, coveredBytes]
  · simp at parsed

/-- Sixteen octets are enough for a header. -/
theorem isSome_parse?
    {octets : Bytes}
    (enough : headerLength ≤ octets.length) :
    (parse? octets).isSome = true := by
  unfold headerLength at enough
  unfold parse?
  split
  · rfl
  · next short =>
      rcases octets with _ | ⟨_, _ | ⟨_, _ | ⟨_, _ | ⟨_, _ | ⟨_, _ | ⟨_, _ | ⟨_, _ | ⟨_,
        _ | ⟨_, _ | ⟨_, _ | ⟨_, _ | ⟨_, _ | ⟨_, _ | ⟨_, _ | ⟨_, _ | ⟨_, rest⟩⟩⟩⟩⟩⟩⟩⟩⟩⟩⟩⟩⟩⟩⟩⟩
      case cons => exact (short _ _ _ _ _ _ _ _ _ _ _ _ _ _ _ _ rest rfl).elim
      all_goals simp at enough

/-- Only too few octets do not begin with a header. -/
theorem parse?_eq_none_iff
    {octets : Bytes} :
    parse? octets = none ↔ octets.length < headerLength := by
  constructor
  · intro missing
    refine Nat.lt_of_not_le fun enough => ?_
    have found := isSome_parse? enough
    rw [missing] at found
    exact Bool.noConfusion found
  · intro short
    cases parsed : parse? octets with
    | none => rfl
    | some found =>
        obtain ⟨header, behind⟩ := found
        rw [eq_append_of_parse? parsed, List.length_append, length_bytes] at short
        omega

/-- A header sealed for a payload carries the checksum for it. -/
@[simp] theorem verifies_sealFor
    (header : Header)
    (payload : Bytes) :
    (header.sealFor payload).verifies payload = true := by
  simp [verifies, sealFor, expectedChecksum, coveredBytes]

end Frame.Header

end EventWire
