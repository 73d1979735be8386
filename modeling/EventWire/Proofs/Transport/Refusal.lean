import EventWire.Proofs.Transport.Blocks
import Mathlib.Algebra.Order.Ring.GeomSum
import Mathlib.Data.Fintype.BigOperators

namespace EventWire

/-!
# Blocks that are refused

A filter makes one block of all it has gathered, however long the compressed
stream is, and gives its length in four octets.  The filter at the other end
yields what the block was made of just when the stream is no longer than a block
may be.  It refuses a longer one and, as the length stays where it is, everything
that arrives behind it; and a stream too long for its length to be given is cut
somewhere else.  No compressor spares a filter this: there is always something
that it makes longer than a block may be.
-/

namespace Filter

/-- What is yielded, call for call, when more chunks arrive before each. -/
def receiveEach (filter : Filter) : List (List Bytes) → List Arrival
  | [] => []
  | chunks :: later =>
    let called := (filter.hears chunks).receive.value
    called.1 :: called.2.receiveEach later

section Refusing

variable {filter : Filter} {length : Nat} (enabled : filter.enabled = true)
include enabled

/-- A length that no block may have stays where it is. -/
theorem receive_of_tooLong (tooLong : Front.ofBytes filter.unread = .tooLong length) :
    ∃ inbox counters received,
      filter.receive.value =
          (.failed (.blockTooLong length), filter.hearing inbox counters received) ∧
        (filter.hearing inbox counters received).unread = filter.unread := by
  obtain ⟨inbox, counters, received, yielded, left⟩ := receive_eq_next enabled
  rw [next, tooLong] at yielded left
  exact ⟨inbox, counters, received, yielded, left⟩

/-- Nothing is yielded any more once a block is refused, whatever arrives. -/
theorem receiveEach_of_tooLong
    (tooLong : Front.ofBytes filter.unread = .tooLong length)
    (deliveries : List (List Bytes)) :
    filter.receiveEach deliveries =
      List.replicate deliveries.length (.failed (.blockTooLong length)) := by
  induction deliveries generalizing filter with
  | nil => rfl
  | cons chunks later inductionHypothesis =>
      have still : Front.ofBytes (filter.hears chunks).unread = .tooLong length := by
        rw [unread_hears, Front.ofBytes_append (by rw [tooLong]; exact nofun), tooLong]
      obtain ⟨inbox, counters, received, yielded, left⟩ :=
        @receive_of_tooLong (filter.hears chunks) _ enabled still
      have others :=
        @inductionHypothesis ((filter.hears chunks).hearing inbox counters received) enabled
          (left ▸ still)
      rw [receiveEach, yielded]
      dsimp only
      rw [others]
      rfl

end Refusing

/-- What becomes of a block that has arrived is a matter of how long its stream is. -/
structure Fate (filter : Filter) (raw compressed : Bytes) : Prop where
  received :
    compressed.length ≤ maxBlock →
      announced compressed = compressed.length ∧
        filter.receive.value.1 = .data raw ∧ filter.receive.value.2.unread = []
  refused :
    maxBlock < compressed.length → compressed.length < UInt32.size →
      announced compressed = compressed.length ∧
        ∀ deliveries,
          filter.receiveEach deliveries =
            List.replicate deliveries.length (.failed (.blockTooLong compressed.length))
  misread :
    UInt32.size ≤ compressed.length →
      announced compressed < compressed.length ∧ filter.receive.value.2.unread ≠ []

section Arriving

variable {filter : Filter} {compressor : Compressor} {raw : Bytes}

/-- A block whose length cannot be given is not read as a whole. -/
theorem rest_ne_nil_of_announced_lt
    {compressed : Bytes}
    (arrived :
      filter.unread = BigEndian.encode32 (UInt32.ofNat compressed.length) ++ compressed)
    (lt : announced compressed < compressed.length) :
    filter.next.2 ≠ [] := by
  have some : filter.unread ≠ [] := by
    rw [arrived]
    exact List.cons_ne_nil _ _
  have front := ofBytes_encode32 (UInt32.ofNat compressed.length) compressed
  rw [← arrived] at front
  rw [announced] at lt
  have taken :
      (compressed.take (UInt32.ofNat compressed.length).toNat).length =
        (UInt32.ofNat compressed.length).toNat :=
    List.length_take_of_le (Nat.le_of_lt lt)
  rw [if_pos taken] at front
  split at front
  · rw [next, front]
    exact some
  · rw [next, front]
    refine fun nothing => Nat.not_le_of_lt lt ?_
    exact List.drop_eq_nil_iff.mp nothing

/-- What becomes of a block does not depend on where it was cut on its way. -/
theorem fate_of_block
    (enabled : filter.enabled = true)
    (opens : filter.compressor.decompress (compressor.compress raw) = some raw)
    (arrived : filter.unread = block compressor raw) :
    filter.Fate raw (compressor.compress raw) := by
  obtain ⟨inbox, counters, received, yielded, left⟩ := receive_eq_next enabled
  constructor
  case received =>
    intro short
    have whole := ofBytes_block short []
    rw [List.append_nil, ← arrived] at whole
    rw [next, whole] at yielded left
    dsimp only at yielded left
    rw [open?, opens] at yielded
    rw [yielded]
    exact ⟨announced_of_lt (Nat.lt_of_le_of_lt short (by decide)), rfl, left⟩
  case refused =>
    intro long lt
    have length := announced_of_lt lt
    refine ⟨length, receiveEach_of_tooLong enabled ?_⟩
    rw [announced] at length
    rw [arrived, block, ofBytes_encode32, length, if_pos long]
  case misread =>
    intro le
    have lt : announced (compressor.compress raw) < (compressor.compress raw).length :=
      Nat.lt_of_lt_of_le (UInt32.toNat_lt _) le
    refine ⟨lt, ?_⟩
    rw [yielded]
    exact left ▸ rest_ne_nil_of_announced_lt arrived lt

end Arriving

section Sent

variable {writer reader : Filter}

/-- The blocks in which a compressing filter that is handed octets sends what it has then. -/
def emitted (filter : Filter) (octets : Bytes) : List Bytes :=
  if filter.bufferSize ≤ (filter.gathered ++ octets).length ∧ filter.gathered ++ octets ≠ [] then
    [block filter.compressor (filter.gathered ++ octets)]
  else []

theorem eq_block_of_mem_emitted
    {octets chunk : Bytes}
    (member : chunk ∈ writer.emitted octets) :
    chunk = block writer.compressor (writer.gathered ++ octets) := by
  rw [emitted] at member
  split at member
  · exact List.mem_singleton.mp member
  · exact absurd member List.not_mem_nil

theorem exists_send_emitted
    (enabled : writer.enabled = true)
    (writable : writer.connection.Writable)
    (octets : Bytes) :
    ∃ next,
      (writer.send octets).value = (.ok (), next) ∧
        next.connection.outbox = writer.connection.outbox ++ writer.emitted octets := by
  rw [emitted]
  split
  · next full => exact ⟨_, value_send_of_full_of_writable enabled writable full, rfl⟩
  · next roomy =>
      rw [value_send_of_roomy enabled roomy]
      exact ⟨_, rfl, (List.append_nil _).symm⟩

/--
A block that is sent is yielded at the other end if its stream is no longer than
a block may be.  If the stream is longer, nothing is yielded any more; and if its
length cannot be given in four octets, part of it is taken for another block.
-/
theorem fate_of_send
    (writing : writer.enabled = true)
    (reading : reader.enabled = true)
    (writable : writer.connection.Writable)
    (fits :
      ∀ octets,
        reader.compressor.decompress (writer.compressor.compress octets) = some octets)
    (clear : reader.unread = [])
    (octets : Bytes) :
    ∃ next,
      (writer.send octets).value = (.ok (), next) ∧
        next.connection.outbox = writer.connection.outbox ++ writer.emitted octets ∧
        ∀ chunk ∈ writer.emitted octets,
          chunk = block writer.compressor (writer.gathered ++ octets) ∧
            ∀ chunks, chunks.flatten = chunk →
              (reader.hears chunks).Fate (writer.gathered ++ octets)
                (writer.compressor.compress (writer.gathered ++ octets)) := by
  obtain ⟨next, sent, outbox⟩ := exists_send_emitted writing writable octets
  refine ⟨next, sent, outbox, fun chunk member => ?_⟩
  have isBlock := eq_block_of_mem_emitted member
  refine ⟨isBlock, fun chunks cut => fate_of_block reading (fits _) ?_⟩
  rw [unread_hears, clear, List.nil_append, cut, isBlock]

end Sent

section Incompressible

/-- An octet is one of 256 numbers. -/
def octetEquiv : UInt8 ≃ Fin 256 where
  toFun := UInt8.toFin
  invFun := UInt8.ofFin

instance : Fintype UInt8 :=
  .ofEquiv _ octetEquiv.symm

theorem card_octets (length : Nat) : Fintype.card (List.Vector UInt8 length) = 256 ^ length := by
  rw [card_vector, Fintype.card_congr octetEquiv, Fintype.card_fin]

/-- Whatever keeps octets apart makes some of them longer, of every length there is. -/
theorem exists_length_lt
    {compress : Bytes → Bytes}
    (apart : Function.Injective compress)
    (length : Nat) :
    ∃ octets, octets.length = length + 1 ∧ length < (compress octets).length := by
  by_contra none
  have short (octets : List.Vector UInt8 (length + 1)) :
      (compress octets.1).length < length + 1 :=
    Nat.lt_of_not_le fun long => none ⟨octets.1, octets.2, long⟩
  let compressed (octets : List.Vector UInt8 (length + 1)) :
      Σ shorter : Fin (length + 1), List.Vector UInt8 shorter :=
    ⟨⟨_, short octets⟩, ⟨compress octets.1, rfl⟩⟩
  have fewer :
      Fintype.card (Σ shorter : Fin (length + 1), List.Vector UInt8 shorter) <
        Fintype.card (List.Vector UInt8 (length + 1)) := by
    simp only [Fintype.card_sigma, card_octets]
    rw [Fin.sum_univ_eq_sum_range (256 ^ ·)]
    exact Nat.geomSum_lt (by decide) fun _ => Finset.mem_range.mp
  obtain ⟨one, other, different, same⟩ :=
    Fintype.exists_ne_map_eq_of_card_lt compressed fewer
  have equal : compress one.1 = compress other.1 := congrArg (·.2.1) same
  exact different (Subtype.ext (apart equal))

/-- A block is not both yielded and used up unless it is as short as a block should be. -/
theorem Fate.long
    {filter : Filter}
    {raw compressed : Bytes}
    (fate : filter.Fate raw compressed)
    (long : maxBlock < compressed.length) :
    ¬ (filter.receive.value.1 = .data raw ∧ filter.receive.value.2.unread = []) := by
  rintro ⟨yielded, used⟩
  rcases Nat.lt_or_ge compressed.length UInt32.size with lt | le
  · have refused := (fate.refused long lt).2 [[]]
    have heard : filter.hears [] = filter := by
      rw [hears, List.append_nil]
    rw [receiveEach, heard] at refused
    cases yielded.symm.trans (List.cons.inj refused).1
  · exact (fate.misread le).2 used

/-- No compressor makes every block short: there are octets that the other end never yields. -/
theorem exists_not_received
    {writer reader : Filter}
    (writing : writer.enabled = true)
    (reading : reader.enabled = true)
    (writable : writer.connection.Writable)
    (fits :
      ∀ octets,
        reader.compressor.decompress (writer.compressor.compress octets) = some octets)
    (empty : writer.gathered = [])
    (clear : reader.unread = []) :
    ∃ octets next,
      (writer.send octets).value = (.ok (), next) ∧
        next.connection.outbox =
          writer.connection.outbox ++ [block writer.compressor octets] ∧
        ∀ chunks, chunks.flatten = block writer.compressor octets →
          ¬ ((reader.hears chunks).receive.value.1 = .data octets ∧
            (reader.hears chunks).receive.value.2.unread = []) := by
  have apart : Function.Injective writer.compressor.compress := fun one other same =>
    Option.some.inj ((fits one).symm.trans ((congrArg _ same).trans (fits other)))
  obtain ⟨octets, length, long⟩ := exists_length_lt apart (max maxBlock writer.bufferSize)
  have full : writer.bufferSize ≤ octets.length :=
    length ▸ Nat.le_succ_of_le (Nat.le_max_right _ _)
  have some : octets ≠ [] := List.ne_nil_of_length_eq_add_one length
  refine ⟨octets, _, value_send_of_writable writable some, ?_, fun chunks cut => ?_⟩
  · rw [accepted, if_pos writing, empty, List.nil_append, if_pos full]
    rfl
  · have arrived : (reader.hears chunks).unread = block writer.compressor octets := by
      rw [unread_hears, clear, List.nil_append, cut]
    have fate := @fate_of_block (reader.hears chunks) _ _ reading (fits octets) arrived
    exact fate.long (Nat.lt_of_le_of_lt (Nat.le_max_left _ _) long)

end Incompressible

section Sample

/-- An end that compresses octets to themselves. -/
def verbatim (id : ConnectionId) (bufferSize : Nat) : Filter :=
  .compressing (.fresh id) ⟨fun octets => octets, some⟩ bufferSize

theorem fate_of_send_sample :
    let writer := verbatim ⟨1⟩ 2
    let reader := verbatim ⟨2⟩ 2
    writer.enabled = true ∧ reader.enabled = true ∧ writer.connection.Writable ∧
      reader.unread = [] ∧
      ∃ next,
        (writer.send [7, 8, 9]).value = (.ok (), next) ∧
          next.connection.outbox = [[0, 0, 0, 3, 7, 8, 9]] ∧
          (reader.hears [[0, 0], [0, 3, 7], [8, 9]]).Fate [7, 8, 9] [7, 8, 9] := by
  obtain ⟨next, sent, outbox, fates⟩ :=
    @fate_of_send (verbatim ⟨1⟩ 2) (verbatim ⟨2⟩ 2) rfl rfl ⟨rfl, rfl⟩ (fun _ => rfl) rfl [7, 8, 9]
  refine ⟨rfl, rfl, ⟨rfl, rfl⟩, rfl, next, sent, outbox, ?_⟩
  exact (fates [0, 0, 0, 3, 7, 8, 9] List.mem_cons_self).2 _ rfl

theorem refuses_long
    {octets : Bytes}
    (length : octets.length = maxBlock + 1) :
    ∃ next,
      ((verbatim ⟨1⟩ 0).send octets).value = (.ok (), next) ∧
        next.connection.outbox = [block (verbatim ⟨1⟩ 0).compressor octets] ∧
        ((verbatim ⟨2⟩ 0).hears next.connection.outbox).receive.value.1 =
          .failed (.blockTooLong (maxBlock + 1)) := by
  have some : octets ≠ [] := List.ne_nil_of_length_eq_add_one length
  refine ⟨_, value_send_of_writable ⟨rfl, rfl⟩ some, rfl, ?_⟩
  have arrived :
      ((verbatim ⟨2⟩ 0).hears [block (verbatim ⟨1⟩ 0).compressor octets]).unread =
        block (verbatim ⟨1⟩ 0).compressor octets := by
    rw [unread_hears, List.flatten_singleton]
    rfl
  have fate := @fate_of_block _ (verbatim ⟨1⟩ 0).compressor octets rfl rfl arrived
  have long : ((verbatim ⟨1⟩ 0).compressor.compress octets).length = maxBlock + 1 := length
  have refused :=
    (fate.refused (long ▸ Nat.lt_succ_self _) (by rw [long]; decide)).2 [[]]
  rw [long, receiveEach] at refused
  exact (List.cons.inj refused).1

/-- A filter sends a block one octet longer than its peer accepts, and the peer refuses it. -/
theorem refuses_what_was_sent :
    (∀ octets,
      (verbatim ⟨2⟩ 0).compressor.decompress ((verbatim ⟨1⟩ 0).compressor.compress octets) =
        some octets) ∧
      ∃ next,
        ((verbatim ⟨1⟩ 0).send (List.replicate (maxBlock + 1) 0)).value = (.ok (), next) ∧
          next.connection.outbox =
            [block (verbatim ⟨1⟩ 0).compressor (List.replicate (maxBlock + 1) 0)] ∧
          ((verbatim ⟨2⟩ 0).hears next.connection.outbox).receive.value.1 =
            .failed (.blockTooLong (maxBlock + 1)) :=
  ⟨fun _ => rfl, refuses_long List.length_replicate⟩

end Sample

end Filter

end EventWire
