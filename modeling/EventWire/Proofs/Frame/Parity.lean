import EventWire.Proofs.Frame.Checksum

namespace EventWire

/-!
# Even numbers of set bits

The polynomial of the checksum has an even number of terms.  A bit that leaves the
register therefore takes as much with it as comes back, and the register holds an
odd number of set bits just when the octets that it has taken do.  So octets that
begin with their checksum have an even number of set bits in all.
-/

namespace Frame

/-- Whether an odd number of the first places are set. -/
def parity (places : Nat → Bool) : Nat → Bool
  | 0 => false
  | count + 1 => parity places count ^^ places count

section Parity

variable {places others : Nat → Bool} {count : Nat}

theorem parity_congr (same : ∀ place < count, places place = others place) :
    parity places count = parity others count := by
  induction count with
  | zero => rfl
  | succ count inductionHypothesis =>
      rw [parity, parity, same count (Nat.lt_succ_self _),
        inductionHypothesis fun place before => same place (Nat.lt_succ_of_lt before)]

theorem parity_eq_false (unset : ∀ place < count, places place = false) :
    parity places count = false := by
  induction count with
  | zero => rfl
  | succ count inductionHypothesis =>
      rw [parity, unset count (Nat.lt_succ_self _),
        inductionHypothesis fun place before => unset place (Nat.lt_succ_of_lt before)]
      rfl

theorem parity_xor (places others : Nat → Bool) (count : Nat) :
    parity (fun place => places place ^^ others place) count =
      (parity places count ^^ parity others count) := by
  induction count with
  | zero => rfl
  | succ count inductionHypothesis =>
      rw [parity, parity, parity, inductionHypothesis, Bool.xor_assoc, Bool.xor_assoc,
        Bool.xor_left_comm (parity others count)]

theorem parity_and (chosen : Bool) (places : Nat → Bool) (count : Nat) :
    parity (fun place => chosen && places place) count = (chosen && parity places count) := by
  induction count with
  | zero => exact (Bool.and_false chosen).symm
  | succ count inductionHypothesis =>
      rw [parity, parity, inductionHypothesis, Bool.and_xor_distrib_left]

theorem parity_add (places : Nat → Bool) (first second : Nat) :
    parity places (first + second) =
      (parity places first ^^ parity (fun place => places (first + place)) second) := by
  induction second with
  | zero => exact (Bool.xor_false _).symm
  | succ second inductionHypothesis =>
      rw [← Nat.add_assoc, parity, parity, inductionHypothesis, Bool.xor_assoc]

/-- Moving the places down by one drops the lowest and takes in the next. -/
theorem parity_succ (places : Nat → Bool) (count : Nat) :
    parity (fun place => places (place + 1)) count =
      (places 0 ^^ (parity places count ^^ places count)) := by
  induction count with
  | zero => rw [parity, parity, Bool.false_xor, Bool.xor_self]
  | succ count inductionHypothesis =>
      rw [parity, inductionHypothesis, Bool.xor_assoc, ← parity]

end Parity

/-- Whether an odd number of the bits of octets are set. -/
def bitParity : Bytes → Bool
  | [] => false
  | octet :: rest => parity octet.toBitVec.getLsbD 8 ^^ bitParity rest

theorem bitParity_append (front back : Bytes) :
    bitParity (front ++ back) = (bitParity front ^^ bitParity back) := by
  induction front with
  | nil => exact (Bool.false_xor _).symm
  | cons octet rest inductionHypothesis =>
      rw [List.cons_append, bitParity, bitParity, inductionHypothesis, Bool.xor_assoc]

theorem bitParity_encode16 (word : UInt16) :
    bitParity (BigEndian.encode16 word) = parity word.toBitVec.getLsbD 16 := by
  have halves := parity_add word.toBitVec.getLsbD 8 8
  have lower :
      parity word.toUInt8.toBitVec.getLsbD 8 = parity word.toBitVec.getLsbD 8 :=
    parity_congr fun place before => by simp [before]
  have upper :
      parity (word >>> 8).toUInt8.toBitVec.getLsbD 8 =
        parity (fun place => word.toBitVec.getLsbD (8 + place)) 8 :=
    parity_congr fun place before => by simp [before]
  rw [BigEndian.encode16, bitParity, bitParity, bitParity, halves, lower, upper, Bool.xor_false,
    Bool.xor_comm]

namespace Checksum

/-- Moving the register keeps the parity: of the polynomial's terms three come back for one. -/
theorem parity_shift (register : UInt16) :
    parity (shift register).toBitVec.getLsbD 16 = parity register.toBitVec.getLsbD 16 := by
  have moved :
      parity (shift register).toBitVec.getLsbD 16 =
        parity
          (fun bit =>
            register.toBitVec.getLsbD (bit + 1) ^^
              (register.toBitVec[0] && polynomial.toBitVec.getLsbD bit))
          16 :=
    parity_congr fun bit before => by
      rw [BitVec.getLsbD_eq_getElem before, BitVec.getLsbD_eq_getElem before,
        getElem_shift register before]
  have terms : parity polynomial.toBitVec.getLsbD 16 = true := by decide
  rw [moved, parity_xor, parity_and, terms, parity_succ,
    BitVec.getLsbD_of_ge register.toBitVec 16 (Nat.le_refl _), Bool.xor_false, Bool.and_true,
    BitVec.getLsbD_eq_getElem (by decide : 0 < 16), Bool.xor_comm, ← Bool.xor_assoc,
    Bool.xor_self, Bool.false_xor]

theorem parity_word_xor (one other : UInt16) :
    parity (one ^^^ other).toBitVec.getLsbD 16 =
      (parity one.toBitVec.getLsbD 16 ^^ parity other.toBitVec.getLsbD 16) := by
  rw [← parity_xor]
  exact parity_congr fun bit _ => by rw [UInt16.toBitVec_xor, BitVec.getLsbD_xor]

theorem parity_toUInt16 (octet : UInt8) :
    parity octet.toUInt16.toBitVec.getLsbD 16 = parity octet.toBitVec.getLsbD 8 := by
  have lower :
      parity octet.toUInt16.toBitVec.getLsbD 8 = parity octet.toBitVec.getLsbD 8 :=
    parity_congr fun bit before => by simp; omega
  have upper : parity (fun bit => octet.toUInt16.toBitVec.getLsbD (8 + bit)) 8 = false :=
    parity_eq_false fun bit before => by simp
  rw [parity_add _ 8 8, lower, upper, Bool.xor_false]

theorem parity_step (register : UInt16) (octet : UInt8) :
    parity (step register octet).toBitVec.getLsbD 16 =
      (parity register.toBitVec.getLsbD 16 ^^ parity octet.toBitVec.getLsbD 8) := by
  simp only [step, parity_shift, parity_word_xor, parity_toUInt16]

/-- The register takes in the parity of the octets. -/
theorem parity_feed (register : UInt16) (octets : Bytes) :
    parity (feed register octets).toBitVec.getLsbD 16 =
      (parity register.toBitVec.getLsbD 16 ^^ bitParity octets) := by
  induction octets generalizing register with
  | nil => exact (Bool.xor_false _).symm
  | cons octet rest inductionHypothesis =>
      rw [bitParity, ← Bool.xor_assoc, ← parity_step]
      exact inductionHypothesis (step register octet)

/-- The checksum of octets has as many set bits as they have, up to an even number. -/
theorem bitParity_ofBytes (octets : Bytes) :
    bitParity (BigEndian.encode16 (ofBytes octets)) = bitParity octets := by
  have even : parity (0xFFFF : UInt16).toBitVec.getLsbD 16 = false := by decide
  rw [bitParity_encode16, ofBytes, final, parity_word_xor, parity_feed, initial, even,
    Bool.false_xor, Bool.xor_false]

end Checksum

/-- Octets that begin with the checksum of all others have an even number of set bits. -/
theorem Checked.bitParity_eq_false {octets : Bytes} (checked : Checked octets) :
    bitParity octets = false := by
  rw [← List.take_append_drop 2 octets, bitParity_append, checked, Checksum.bitParity_ofBytes,
    Bool.xor_self]

end Frame

end EventWire
