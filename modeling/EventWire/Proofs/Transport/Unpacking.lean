import EventWire.Proofs.Transport.Filter

namespace EventWire

/-!
# Octets in chunks

Every chunk that a filter sends stands for octets of its own: for itself or,
when the filter compresses, for what its block decompresses to.  A filter that
receives such chunks yields the octets of one after the other, and what all
octets on the way stand for can be told from them without their cuts.
-/

namespace Filter

/-- What the blocks that stand one behind the other at the front of octets stand for. -/
def unblocked (opener : Compressor) (octets : Bytes) : Bytes :=
  match _front : Front.ofBytes octets with
  | .whole compressed rest => (opener.decompress compressed).getD [] ++ unblocked opener rest
  | _ => []
termination_by octets.length
decreasing_by exact length_rest_lt _front

/-- What octets on the way stand for when they are received, compressed or not. -/
def unpacked
    (compressing : Bool)
    (opener : Compressor)
    (octets : Bytes) :
    Bytes :=
  if compressing then unblocked opener octets else octets

/-- A chunk stands for octets when it is received, compressed or not. -/
inductive Carries
    (compressing : Bool)
    (opener : Compressor)
    (octets : Bytes) :
    Bytes → Prop where
  | plain
      (plain : compressing = false) :
      Carries compressing opener octets octets
  | block
      {compressor : Compressor}
      (compresses : compressing = true)
      (short : (compressor.compress octets).length ≤ maxBlock)
      (opens : opener.decompress (compressor.compress octets) = some octets) :
      Carries compressing opener octets (block compressor octets)

/-- The chunk in which a filter sends octets. -/
def wrapped (filter : Filter) (octets : Bytes) : Bytes :=
  if filter.enabled then block filter.compressor octets else octets

section Unpacking

variable {compressing : Bool} {opener : Compressor}

theorem unpacked_nil (compressing : Bool) (opener : Compressor) :
    unpacked compressing opener [] = [] := by
  rw [unpacked]
  split
  · rw [unblocked]
    rfl
  · rfl

theorem unblocked_block
    {compressor : Compressor}
    {octets : Bytes}
    (short : (compressor.compress octets).length ≤ maxBlock)
    (opens : opener.decompress (compressor.compress octets) = some octets)
    (rest : Bytes) :
    unblocked opener (block compressor octets ++ rest) = octets ++ unblocked opener rest := by
  have front := ofBytes_block short rest
  rw [unblocked]
  split
  · next found =>
      cases front.symm.trans found
      rw [opens, Option.getD_some]
  · next other => exact absurd front (other _ _)

/-- A chunk is unpacked by itself, whatever follows it. -/
theorem Carries.unpacked_append
    {octets chunk : Bytes}
    (carries : Carries compressing opener octets chunk)
    (rest : Bytes) :
    unpacked compressing opener (chunk ++ rest) = octets ++ unpacked compressing opener rest := by
  cases carries with
  | plain plain => simp only [unpacked, plain, Bool.false_eq_true, ↓reduceIte]
  | block compresses short opens =>
      simp only [unpacked, compresses, ↓reduceIte]
      exact unblocked_block short opens rest

/-- Chunks are unpacked by themselves, whatever follows them. -/
theorem unpacked_flatten_append
    {chunks : List Bytes}
    (carry : ∀ chunk ∈ chunks, ∃ octets, Carries compressing opener octets chunk)
    (rest : Bytes) :
    unpacked compressing opener (chunks.flatten ++ rest) =
      unpacked compressing opener chunks.flatten ++ unpacked compressing opener rest := by
  induction chunks with
  | nil => rw [List.flatten_nil, List.nil_append, unpacked_nil, List.nil_append]
  | cons chunk others inductionHypothesis =>
      rw [List.forall_mem_cons] at carry
      obtain ⟨octets, carries⟩ := carry.1
      rw [List.flatten_cons, List.append_assoc, carries.unpacked_append, carries.unpacked_append,
        inductionHypothesis carry.2, List.append_assoc]

theorem carries_wrapped
    {filter : Filter}
    {octets : Bytes}
    (fits : ∀ octets, opener.decompress (filter.compressor.compress octets) = some octets)
    (short : filter.enabled = true → (filter.wrapped octets).length ≤ 4 + maxBlock) :
    Carries filter.enabled opener octets (filter.wrapped octets) := by
  rw [wrapped] at short ⊢
  split
  · next enabled =>
      have length := short enabled
      rw [if_pos enabled, block, List.length_append] at length
      exact .block enabled (Nat.le_of_add_le_add_left length) (fits _)
  · next disabled => exact .plain (Bool.eq_false_iff.mpr disabled)

/-- A chunk that arrives is received as the octets it stands for, and nothing is left of it. -/
theorem exists_receive_of_carries
    {filter : Filter}
    {octets chunk : Bytes}
    {rest : List Bytes}
    (clear : filter.received = [])
    (carries : Carries filter.enabled filter.compressor octets chunk)
    (inbox : filter.connection.inbox = chunk :: rest) :
    ∃ counters, filter.receive.value = (.data octets, filter.hearing rest counters []) := by
  cases carries with
  | plain plain =>
      rw [value_receive_of_disabled plain, inbox, clear]
      exact ⟨_, rfl⟩
  | block compresses short opens =>
      obtain ⟨counters, yields⟩ := value_receiveBlock_of_block clear inbox short
      rw [open?, opens] at yields
      rw [receive_of_enabled compresses]
      exact ⟨counters, yields⟩

end Unpacking

section Disposing

theorem exists_speaking_posted
    (filter : Filter)
    (octets : Bytes) :
    ∃ counters,
      { filter with gathered := [] }.posted octets =
        filter.speaking [] (filter.connection.outbox ++ [octets]) counters :=
  ⟨_, rfl⟩

/-- A filter sends octets in one chunk, or gathers them. -/
inductive Disposes (filter : Filter) (octets : Bytes) (next : Filter) : Prop where
  | sends
      (counters : Counters)
      (next_eq :
        next =
          filter.speaking [] (filter.connection.outbox ++ [filter.wrapped octets]) counters)
  | gathers
      (counters : Counters)
      (atOnce : filter.enabled = false → octets = [])
      (next_eq : next = filter.speaking octets filter.connection.outbox counters)

/-- No block on its way is longer than a block may be. -/
def Compact (filter : Filter) : Prop :=
  filter.enabled = true → ∀ chunk ∈ filter.connection.outbox, chunk.length ≤ 4 + maxBlock

section Disposes

variable {filter next : Filter} {octets : Bytes} (disposes : filter.Disposes octets next)
include disposes

theorem Disposes.compact (compact : next.Compact) : filter.Compact := by
  intro enabled chunk member
  cases disposes with
  | sends counters next_eq =>
      subst next_eq
      exact compact enabled chunk (List.mem_append_left _ member)
  | gathers counters atOnce next_eq =>
      subst next_eq
      exact compact enabled chunk member

theorem Disposes.atOnce (disabled : next.enabled = false) : next.gathered = [] := by
  cases disposes with
  | sends counters next_eq =>
      subst next_eq
      rfl
  | gathers counters atOnce next_eq =>
      subst next_eq
      exact atOnce disabled

/-- Octets that a filter disposes of it sends or still has. -/
theorem Disposes.gathered_cases : next.gathered = [] ∨ next.gathered = octets := by
  cases disposes with
  | sends counters next_eq =>
      subst next_eq
      exact .inl rfl
  | gathers counters atOnce next_eq =>
      subst next_eq
      exact .inr rfl

theorem Disposes.writable (writable : filter.connection.Writable) : next.connection.Writable := by
  cases disposes with
  | sends counters next_eq =>
      subst next_eq
      exact writable_speaking.mpr writable
  | gathers counters atOnce next_eq =>
      subst next_eq
      exact writable_speaking.mpr writable

end Disposes

variable {filter : Filter} (atOnce : filter.enabled = false → filter.gathered = [])
include atOnce

/-- Octets that are handed to a filter are sent behind those it has gathered, or gathered too. -/
theorem disposes_accepted (octets : Bytes) :
    filter.Disposes (filter.gathered ++ octets) (filter.accepted octets) := by
  rw [accepted]
  split
  · next enabled =>
      split
      · obtain ⟨counters, posted⟩ :=
          filter.exists_speaking_posted (block filter.compressor (filter.gathered ++ octets))
        exact .sends counters (by rw [posted, wrapped, if_pos enabled])
      · exact .gathers filter.connection.counters
          (fun disabled => by cases enabled.symm.trans disabled) rfl
  · next disabled =>
      have empty := atOnce (Bool.eq_false_iff.mpr disabled)
      refine .sends (filter.connection.posted octets).counters ?_
      rw [wrapped, if_neg disabled, empty, List.nil_append, speaking, ← empty]
      rfl

/-- Flushing sends what is gathered, if it is anything. -/
theorem disposes_pushed :
    filter.Disposes filter.gathered filter.pushed ∧ filter.pushed.gathered = [] := by
  rw [pushed]
  split
  · next pending =>
      obtain ⟨counters, posted⟩ :=
        filter.exists_speaking_posted (block filter.compressor filter.gathered)
      exact ⟨.sends counters (by rw [posted, wrapped, if_pos pending.1]), rfl⟩
  · next idle =>
      have empty : filter.gathered = [] := by
        cases enabled : filter.enabled with
        | false => exact atOnce enabled
        | true => exact Decidable.byContradiction fun some => idle ⟨enabled, some⟩
      exact ⟨.gathers filter.connection.counters atOnce rfl, empty⟩

end Disposing

end Filter

end EventWire
