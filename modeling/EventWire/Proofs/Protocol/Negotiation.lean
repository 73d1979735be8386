import EventWire.Proofs.Event.Extent
import EventWire.Proofs.Protocol.Control

namespace EventWire

/-!
# Negotiation records read in two ways

The registry reads a negotiation record field by field from the front, and fails
if the body ends in one of the fields.  A mismatch is reported all the same, from
the places at which the fields of a record stand.  Both see the same record in a
body that holds all fields.  In a shorter one the report shows what the registry
would read if the rest had arrived, whatever the rest, as far as whole fields go.
-/

namespace VersionRecord

section Places

variable {body : Bytes} {position length : Nat}

theorem le_length_drop (inside : position + length ≤ body.length) :
    length ≤ (body.drop position).length := by
  rw [List.length_drop]
  exact Nat.le_sub_of_add_le' inside

/-- More octets behind a body change no number whose octets were all there. -/
theorem numberAt_append
    (inside : position + length ≤ body.length)
    (extra : Bytes) :
    numberAt (body ++ extra) position length = numberAt body position length := by
  have insideLonger : position + length ≤ (body ++ extra).length := by
    rw [List.length_append]
    exact Nat.le_add_right_of_le inside
  rw [numberAt, numberAt, if_pos inside, if_pos insideLonger,
    List.drop_append_of_le_length (Nat.le_of_add_right_le inside),
    List.take_append_of_le_length (le_length_drop inside)]

/-- A number whose octets are all there is that of every longer body, any other is zero. -/
theorem numberAt_eq_ite (body extra : Bytes) (position length : Nat) :
    numberAt body position length =
      if position + length ≤ body.length then numberAt (body ++ extra) position length else 0 := by
  split_ifs with inside
  · exact (numberAt_append inside extra).symm
  · exact if_neg inside

theorem ofNat_eq_decode16 (high low : UInt8) :
    UInt16.ofNat (256 * (256 * 0 + high.toNat) + low.toNat) = BigEndian.decode16 high low := by
  rw [← UInt16.toNat_inj, BigEndian.toNat_decode16, UInt16.toNat_ofNat']
  have highBound := high.toNat_lt
  have lowBound := low.toNat_lt
  omega

theorem ofNat_eq_decode32 (first second third fourth : UInt8) :
    UInt32.ofNat
        (256 * (256 * (256 * (256 * 0 + first.toNat) + second.toNat) + third.toNat) +
          fourth.toNat) =
      BigEndian.decode32 first second third fourth := by
  rw [← UInt32.toNat_inj, BigEndian.toNat_decode32, UInt32.toNat_ofNat']
  have firstBound := first.toNat_lt
  have secondBound := second.toNat_lt
  have thirdBound := third.toNat_lt
  have fourthBound := fourth.toNat_lt
  omega

/-- The number at a place is the word that is written there. -/
theorem encode16_numberAt (inside : position + 2 ≤ body.length) :
    BigEndian.encode16 (.ofNat (numberAt body position 2)) = (body.drop position).take 2 := by
  rw [numberAt, if_pos inside]
  match body.drop position, le_length_drop inside with
  | high :: low :: rest, _ =>
      simp only [List.take_succ_cons, List.take_zero, List.foldl_cons, List.foldl_nil,
        ofNat_eq_decode16, BigEndian.encode16_decode16]

theorem encode32_numberAt (inside : position + 4 ≤ body.length) :
    BigEndian.encode32 (.ofNat (numberAt body position 4)) = (body.drop position).take 4 := by
  rw [numberAt, if_pos inside]
  match body.drop position, le_length_drop inside with
  | first :: second :: third :: fourth :: rest, _ =>
      simp only [List.take_succ_cons, List.take_zero, List.foldl_cons, List.foldl_nil,
        ofNat_eq_decode32, BigEndian.encode32_decode32]

end Places

section Bodies

variable {body : Bytes}

/-- The record that the octets of a body stand for. -/
def ofBody (body : Bytes) : VersionRecord where
  claim := claimOfUnreadable body
  extensions := .ofNat (numberAt body 10 4)

/-- The fields of a record take the front of a body without a gap. -/
theorem body_ofBody (long : 14 ≤ body.length) : (ofBody body).body = body.take 14 := by
  have magic := encode32_numberAt (show 0 + 4 ≤ body.length by omega)
  have major := encode16_numberAt (show 4 + 2 ≤ body.length by omega)
  have minor := encode16_numberAt (show 6 + 2 ≤ body.length by omega)
  have patch := encode16_numberAt (show 8 + 2 ≤ body.length by omega)
  have extensions := encode32_numberAt (show 10 + 4 ≤ body.length by omega)
  calc
    (ofBody body).body =
        body.take 4 ++ (body.drop 4).take 2 ++ (body.drop 6).take 2 ++ (body.drop 8).take 2 ++
          (body.drop 10).take 4 := by
      rw [VersionRecord.body, ofBody, claimOfUnreadable, magic, major, minor, patch, extensions,
        List.drop_zero]
    _ = body.take 14 := by
      rw [← List.take_add, ← List.take_add, ← List.take_add, ← List.take_add]

/-- A body that is long enough is read as the record that its first octets stand for. -/
theorem deserialize_of_long (long : 14 ≤ body.length) :
    (Registry.control.value.deserialize EventType.versionRecord body).value =
      .ok (ofBody body).toRecord := by
  have read := (ofBody body).deserialize_body
  have conclusive :
      Conclusive
        (Registry.control.value.deserialize EventType.versionRecord (ofBody body).body).value := by
    rw [read]
    exact conclusive_ok _
  have extended := Registry.deserialize_append conclusive (body.drop 14)
  rw [body_ofBody long, List.take_append_drop, ← body_ofBody long] at extended
  exact extended.trans read

/-- A shorter body ends in one of the fields. -/
theorem cutIn_of_short (short : body.length < 14) :
    ∃ field ∈ schema.table,
      CutIn field.name
        (Registry.control.value.deserialize EventType.versionRecord body).value := by
  -- With octets behind it the body becomes that of a record, of which it is a strict beginning.
  let padded := body ++ List.replicate (14 - body.length) 0
  have whole : padded.length = 14 := by
    rw [List.length_append, List.length_replicate, Nat.add_sub_cancel' short.le]
  have written : (ofBody padded).body = padded := by
    rw [body_ofBody whole.ge, List.take_of_length_le whole.le]
  have begins : body <+: (ofBody padded).body := by
    rw [written]
    exact List.prefix_append ..
  have strict : body ≠ (ofBody padded).body := by
    intro same
    rw [same, length_body] at short
    exact Nat.lt_irrefl _ short
  have coherent :
      { Entry.ofSchema schema with blank := (offering .none).toRecord }.Coherent :=
    Entry.coherent_ofSchema schema
  obtain ⟨earlier, field, later, _, _, shape, -, -, -, -, cut⟩ :=
    Registry.exists_cut_of_deserialize rfl coherent (ofBody padded).serialize_toRecord begins strict
  refine ⟨field, ?_, cut⟩
  rw [show schema.table = earlier ++ field :: later from shape]
  exact List.mem_append_right _ (List.mem_cons_self ..)

end Bodies

/-- How many octets of a record's body its fields take, up to and with the one in a slot. -/
def reach (record : VersionRecord) (slot : Nat) : Nat :=
  ((record.toRecord.values.take (slot + 1)).flatMap FieldValue.encode).length

/-- The claim of a record by the first octets of its body: a field not whole in them is zero. -/
def claimWithin (record : VersionRecord) (length : Nat) : VersionClaim where
  magic := if record.reach 0 ≤ length then record.claim.magic else 0
  major := if record.reach 1 ≤ length then record.claim.major else 0
  minor := if record.reach 2 ≤ length then record.claim.minor else 0
  patch := if record.reach 3 ≤ length then record.claim.patch else 0

/-- The fields of the claim end at the same octets in every body. -/
theorem reach_eq (record : VersionRecord) :
    record.reach 0 = 4 ∧ record.reach 1 = 6 ∧ record.reach 2 = 8 ∧ record.reach 3 = 10 :=
  ⟨rfl, rfl, rfl, rfl⟩

/-- The front of a body tells as much of a record as its whole fields do. -/
theorem claimOfUnreadable_eq_claimWithin (body extra : Bytes) :
    claimOfUnreadable body = (ofBody (body ++ extra)).claimWithin body.length := by
  obtain ⟨magicEnd, majorEnd, minorEnd, patchEnd⟩ := (ofBody (body ++ extra)).reach_eq
  rw [claimWithin, magicEnd, majorEnd, minorEnd, patchEnd, claimOfUnreadable,
    numberAt_eq_ite body extra 0 4, numberAt_eq_ite body extra 4 2,
    numberAt_eq_ite body extra 6 2, numberAt_eq_ite body extra 8 2,
    apply_ite UInt32.ofNat, apply_ite UInt16.ofNat, apply_ite UInt16.ofNat,
    apply_ite UInt16.ofNat]
  rfl

/--
The registry reads a body exactly if it holds the fourteen octets of a record, and
then as the record whose claim a mismatch reports of the body.  Of a shorter body
a mismatch reports each field that is whole as the registry reads it from every
completion of the body, and zero for the others.
-/
theorem readings_agree (body : Bytes) :
    (14 ≤ body.length →
      ∃ record : VersionRecord,
        (Registry.control.value.deserialize EventType.versionRecord body).value =
            .ok record.toRecord ∧
          unreadable body = .versionMismatch record.claim) ∧
      (body.length < 14 →
        (∃ field ∈ schema.table,
          CutIn field.name
            (Registry.control.value.deserialize EventType.versionRecord body).value) ∧
          ∀ extra : Bytes,
            14 ≤ (body ++ extra).length →
            ∃ record : VersionRecord,
              (Registry.control.value.deserialize EventType.versionRecord (body ++ extra)).value =
                  .ok record.toRecord ∧
                unreadable body = .versionMismatch (record.claimWithin body.length)) := by
  constructor
  · intro long
    exact ⟨ofBody body, deserialize_of_long long, rfl⟩
  · intro short
    refine ⟨cutIn_of_short short, ?_⟩
    intro extra long
    refine ⟨ofBody (body ++ extra), deserialize_of_long long, ?_⟩
    rw [unreadable, claimOfUnreadable_eq_claimWithin body extra]

/-- A record with an octet behind it, and one that ends in the middle of its minor version. -/
theorem readings_agree_cut_in_minor :
    let body : Bytes := [86, 71, 73, 76, 0, 1, 0]
    let extra : Bytes := [9, 0, 5, 0, 0, 0, 3, 255]
    (14 ≤ (body ++ extra).length ∧
      ∃ record : VersionRecord,
        (Registry.control.value.deserialize EventType.versionRecord (body ++ extra)).value =
            .ok record.toRecord ∧
          unreadable (body ++ extra) = .versionMismatch record.claim ∧
          record.claim = ⟨magic, 1, 9, 5⟩) ∧
      body.length < 14 ∧
      (∃ field ∈ schema.table,
        CutIn field.name
          (Registry.control.value.deserialize EventType.versionRecord body).value) ∧
      ∃ record : VersionRecord,
        (Registry.control.value.deserialize EventType.versionRecord (body ++ extra)).value =
            .ok record.toRecord ∧
          unreadable body = .versionMismatch (record.claimWithin body.length) ∧
          record.claimWithin body.length = ⟨magic, 1, 0, 0⟩ := by
  intro body extra
  have long : 14 ≤ (body ++ extra).length := by decide
  have short : body.length < 14 := by decide
  obtain ⟨record, read, reported⟩ := (readings_agree (body ++ extra)).1 long
  obtain ⟨cut, completed⟩ := (readings_agree body).2 short
  obtain ⟨completion, readCompletion, shown⟩ := completed extra long
  exact
    ⟨⟨long, record, read, reported, (ProtocolError.versionMismatch.inj reported).symm⟩, short, cut,
      completion, readCompletion, shown, (ProtocolError.versionMismatch.inj shown).symm⟩

end VersionRecord

end EventWire
