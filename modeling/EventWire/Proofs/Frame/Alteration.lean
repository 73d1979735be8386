import EventWire.Proofs.Frame.Flipping
import EventWire.Proofs.Frame.Parity
import Mathlib.Algebra.Ring.Parity

namespace EventWire

/-!
# Alterations that a checksum detects

As long as its chunk size is left alone, a frame no longer verifies when an odd
number of its bits are flipped, wherever they are, or when one octet or two
neighbours are replaced, in the checksum or among what it covers.
-/

namespace Frame

/-- The octets with bits flipped one after the other. -/
def flipBits (octets : Bytes) (bits : List Nat) : Bytes :=
  bits.foldl flipBit octets

section FlipBits

variable {octets : Bytes} {bit : Nat} {bits : List Nat}

theorem length_flipBits (octets : Bytes) (bits : List Nat) :
    (flipBits octets bits).length = octets.length := by
  induction bits generalizing octets with
  | nil => rfl
  | cons bit rest inductionHypothesis =>
      exact (inductionHypothesis (flipBit octets bit)).trans (length_flipBit octets bit)

theorem sizeOctets_flipBits (outside : ∀ bit ∈ bits, bit / 8 ≠ 2 ∧ bit / 8 ≠ 3) :
    sizeOctets (flipBits octets bits) = sizeOctets octets := by
  induction bits generalizing octets with
  | nil => rfl
  | cons bit rest inductionHypothesis =>
      rw [List.forall_mem_cons] at outside
      exact (inductionHypothesis outside.2).trans (sizeOctets_flipBit outside.1)

theorem bitParity_flipBit (inside : bit / 8 < octets.length) :
    bitParity (flipBit octets bit) = !bitParity octets := by
  obtain ⟨front, octet, back, shape, -, flipped⟩ :=
    List.exists_of_modify (· ^^^ ((1 : UInt8) <<< UInt8.ofNat (bit % 8))) inside
  have masks :
      ∀ place < 8, parity ((1 : UInt8) <<< UInt8.ofNat place).toBitVec.getLsbD 8 = true := by
    decide
  have mask := masks (bit % 8) (Nat.mod_lt _ (by decide))
  have changed :
      parity (octet ^^^ ((1 : UInt8) <<< UInt8.ofNat (bit % 8))).toBitVec.getLsbD 8 =
        !parity octet.toBitVec.getLsbD 8 := by
    rw [← Bool.xor_true, ← mask, ← parity_xor]
    exact parity_congr fun place _ => by rw [UInt8.toBitVec_xor, BitVec.getLsbD_xor]
  rw [flipBit, flipped, shape, bitParity_append, bitParity_append, bitParity, bitParity, changed,
    Bool.not_xor, Bool.xor_not]

/-- Every flip changes the parity, so that an odd number of them do. -/
theorem bitParity_flipBits (inside : ∀ bit ∈ bits, bit / 8 < octets.length) :
    bitParity (flipBits octets bits) = (bitParity octets ^^ decide (Odd bits.length)) := by
  induction bits generalizing octets with
  | nil => exact (Bool.xor_false _).symm
  | cons bit rest inductionHypothesis =>
      rw [List.forall_mem_cons] at inside
      rw [flipBits, List.foldl_cons, ← flipBits, inductionHypothesis, bitParity_flipBit inside.1,
        List.length_cons, decide_eq_decide.mpr Nat.odd_add_one, decide_not, Bool.not_xor,
        Bool.xor_not]
      intro other member
      rw [length_flipBit]
      exact inside.2 other member

end FlipBits

/-- A change to the octets of a frame that leaves alone the two in which it gives its chunk size. -/
inductive Alteration (octets : Bytes) : Bytes → Prop where
  /-- An odd number of bits are flipped. -/
  | odd
      (bits : List Nat)
      (count : Odd bits.length)
      (inside : ∀ bit ∈ bits, bit / 8 < octets.length)
      (outside : ∀ bit ∈ bits, bit / 8 ≠ 2 ∧ bit / 8 ≠ 3) :
      Alteration octets (flipBits octets bits)
  /-- At most two neighbours are replaced, in the checksum or behind the chunk size. -/
  | burst
      (front part other back : Bytes)
      (shape : octets = front ++ part ++ back)
      (sameLength : part.length = other.length)
      (short : part.length ≤ 2)
      (changed : part ≠ other)
      (place : front.length + part.length ≤ 2 ∨ 4 ≤ front.length) :
      Alteration octets (front ++ other ++ back)

namespace Alteration

variable {octets altered : Bytes}

theorem length_eq (alteration : Alteration octets altered) :
    altered.length = octets.length := by
  cases alteration with
  | odd bits => exact length_flipBits octets bits
  | burst front part other back shape sameLength =>
      rw [shape, List.length_append, List.length_append, List.length_append, List.length_append,
        sameLength]

theorem sizeOctets_eq (alteration : Alteration octets altered) :
    sizeOctets altered = sizeOctets octets := by
  cases alteration with
  | odd bits count inside outside => exact sizeOctets_flipBits outside
  | burst front part other back shape sameLength short changed place =>
      rw [shape]
      rcases place with inChecksum | behind
      · exact congrArg (List.take 2) (drop_eq_of_replaced sameLength inChecksum).symm
      · rw [List.append_assoc, List.append_assoc, sizeOctets_append behind,
          sizeOctets_append behind]

/-- Octets that begin with their checksum do so no longer. -/
theorem not_checked
    (alteration : Alteration octets altered)
    (checked : Checked octets) :
    ¬ Checked altered := by
  intro stillChecked
  cases alteration with
  | odd bits count inside outside =>
      have parity := bitParity_flipBits inside
      rw [checked.bitParity_eq_false, stillChecked.bitParity_eq_false, decide_eq_true count]
        at parity
      exact nomatch parity
  | burst front part other back shape sameLength short changed place =>
      rw [shape] at checked
      exact changed (checked.eq_of_append stillChecked sameLength short (by omega))

end Alteration

/--
A sealed header and its payload are read back and verify.  Altered in an odd number
of bits, or in at most two neighbouring octets, but not in the chunk size, they are
read as a header of the same chunk size with a payload that it does not verify.
-/
theorem detects_alteration
    (identity : Identity)
    (chunkSize : UInt16)
    (payload : Bytes) :
    let header := (Header.unsealed identity chunkSize).sealFor payload
    let octets := header.bytes ++ payload
    Header.parse? octets = some (header, payload) ∧
      header.verifies payload = true ∧
      ∀ altered, Alteration octets altered →
        ∃ found behind,
          Header.parse? altered = some (found, behind) ∧
            found.chunkSize = chunkSize ∧
            behind.length = payload.length ∧
            found.verifies behind = false := by
  intro header octets
  have verifies : header.verifies payload = true := Header.verifies_sealFor _ payload
  refine ⟨Header.parse?_bytes_append header payload, verifies, fun altered alteration => ?_⟩
  have length : altered.length = headerLength + payload.length := by
    rw [alteration.length_eq, List.length_append, Header.length_bytes]
  have enough : headerLength ≤ altered.length := length ▸ Nat.le_add_right _ _
  obtain ⟨⟨found, behind⟩, parsed⟩ := Option.isSome_iff_exists.mp (Header.isSome_parse? enough)
  have shape := Header.eq_append_of_parse? parsed
  refine ⟨found, behind, parsed, ?_, ?_, ?_⟩
  · have size := alteration.sizeOctets_eq
    rw [shape] at size
    exact BigEndian.eq_of_encode16_eq size
  · rw [shape, List.length_append, Header.length_bytes] at length
    exact Nat.add_left_cancel length
  · have failed := alteration.not_checked (Header.verifies_iff_checked.mp verifies)
    rw [shape, ← Header.verifies_iff_checked] at failed
    exact Bool.eq_false_iff.mpr failed

/-- Three bits of a frame are flipped, or its last two octets are replaced. -/
theorem detects_alteration_sample :
    let octets := write ⟨⟨1, 2⟩, ⟨3, 4⟩⟩ 1 [5]
    let flipped := flipBits octets [0, 9, 128]
    let replaced := octets.take 15 ++ [6, 7] ++ []
    Alteration octets flipped ∧
      Alteration octets replaced ∧
      (∃ found behind,
        Header.parse? flipped = some (found, behind) ∧ found.verifies behind = false) ∧
      ∃ found behind,
        Header.parse? replaced = some (found, behind) ∧ found.verifies behind = false := by
  intro octets flipped replaced
  have odd : Alteration octets flipped := .odd [0, 9, 128] (by decide) (by decide) (by decide)
  have burst : Alteration octets replaced :=
    .burst (octets.take 15) [4, 5] [6, 7] [] (by decide +kernel) rfl (by decide) (by decide)
      (.inr (by decide))
  obtain ⟨-, -, detects⟩ := detects_alteration ⟨⟨1, 2⟩, ⟨3, 4⟩⟩ 1 [5]
  obtain ⟨found, behind, parsed, -, -, failed⟩ := detects flipped odd
  obtain ⟨other, rest, otherParsed, -, -, otherFailed⟩ := detects replaced burst
  exact ⟨odd, burst, ⟨found, behind, parsed, failed⟩, ⟨other, rest, otherParsed, otherFailed⟩⟩

end Frame

end EventWire
