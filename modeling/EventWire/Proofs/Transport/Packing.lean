import EventWire.Proofs.Frame.Holding
import EventWire.Proofs.Transport.Unpacking
import Mathlib.Data.List.Forall2

namespace EventWire

/-!
# Parcels in chunks

A filter that is handed the frames of whole parcels sends chunks that stand for
whole parcels: the frames themselves or, when it compresses, one block for all
parcels gathered since the last one.  A filter that receives such chunks yields
the frames of one chunk after the other.
-/

open EventWire.Frame

namespace Filter

section Sending

/-- The chunk in which a filter sends parcels. -/
def packed (filter : Filter) (parcels : List Parcel) : Bytes :=
  if filter.enabled then block filter.compressor (parcels.flatMap Parcel.wire)
  else parcels.flatMap Parcel.wire

/-- A filter has gathered the frames of whole parcels. -/
structure Gathers (filter : Filter) (unsent : List Parcel) : Prop where
  gathered_eq : filter.gathered = unsent.flatMap Parcel.wire
  atOnce : filter.enabled = false → unsent = []

/-- A filter has sent some of the parcels handed to it and gathered the others. -/
structure Emits
    (filter : Filter)
    (parcels : List Parcel)
    (groups : List (List Parcel))
    (unsent : List Parcel)
    (next : Filter) : Prop where
  next_eq :
    ∃ gathered counters,
      next =
        filter.speaking gathered (filter.connection.outbox ++ groups.map filter.packed) counters
  gathers : next.Gathers unsent
  kept : groups.flatten ++ unsent = parcels

variable {filter next last : Filter} {parcels unsent rest : List Parcel}
  {groups later : List (List Parcel)}

theorem Emits.nothing (gathers : filter.Gathers unsent) :
    filter.Emits unsent [] unsent filter where
  next_eq := by
    refine ⟨filter.gathered, filter.connection.counters, ?_⟩
    rw [List.map_nil, List.append_nil]
    rfl
  gathers := gathers
  kept := rfl

theorem Emits.trans
    {others : List Parcel}
    (emits : filter.Emits parcels groups unsent next)
    (further : next.Emits (unsent ++ others) later rest last) :
    filter.Emits (parcels ++ others) (groups ++ later) rest last where
  next_eq := by
    obtain ⟨_, _, rfl⟩ := emits.next_eq
    obtain ⟨gathered, counters, rfl⟩ := further.next_eq
    refine ⟨gathered, counters, ?_⟩
    rw [List.map_append, ← List.append_assoc]
    rfl
  gathers := further.gathers
  kept := by
    rw [← emits.kept, List.flatten_append, List.append_assoc, further.kept, List.append_assoc]

theorem flatMap_wire_eq_nil_iff : parcels.flatMap Parcel.wire = [] ↔ parcels = [] := by
  cases parcels with
  | nil => exact ⟨fun _ => rfl, fun _ => rfl⟩
  | cons parcel _ =>
      refine ⟨fun empty => ?_, nofun⟩
      exact absurd (List.append_eq_nil_iff.mp empty).1 parcel.wire_ne_nil

/-- The frames of parcels that a filter disposes of are sent as one group, or gathered. -/
theorem Disposes.exists_emits (disposes : filter.Disposes (parcels.flatMap Parcel.wire) next) :
    ∃ groups rest,
      filter.Emits parcels groups rest next ∧ (next.gathered = [] → rest = []) := by
  cases disposes with
  | sends counters next_eq =>
      refine ⟨[parcels], [], ⟨⟨[], counters, next_eq⟩, ⟨?_, fun _ => rfl⟩, ?_⟩, fun _ => rfl⟩
      · rw [next_eq]
        rfl
      · rw [List.flatten_singleton, List.append_nil]
  | gathers counters atOnce next_eq =>
      refine ⟨[], parcels, ⟨⟨parcels.flatMap Parcel.wire, counters, ?_⟩, ⟨?_, ?_⟩, rfl⟩, ?_⟩
      · rw [List.map_nil, List.append_nil, next_eq]
      · rw [next_eq]
        rfl
      · rw [next_eq]
        exact fun disabled => flatMap_wire_eq_nil_iff.mp (atOnce disabled)
      · rw [next_eq]
        exact flatMap_wire_eq_nil_iff.mp

theorem Gathers.empty_of_disabled
    (gathers : filter.Gathers unsent)
    (disabled : filter.enabled = false) :
    filter.gathered = [] := by
  rw [gathers.gathered_eq, gathers.atOnce disabled]
  rfl

/-- The frames of one more parcel are sent at once, or gathered, or sent with what is gathered. -/
theorem Gathers.exists_emits_accepted
    (gathers : filter.Gathers unsent)
    (parcel : Parcel) :
    ∃ groups rest, filter.Emits (unsent ++ [parcel]) groups rest (filter.accepted parcel.wire) := by
  have together :
      filter.gathered ++ parcel.wire = (unsent ++ [parcel]).flatMap Parcel.wire := by
    rw [List.flatMap_append, ← gathers.gathered_eq, List.flatMap_singleton]
  have disposes := disposes_accepted gathers.empty_of_disabled parcel.wire
  rw [together] at disposes
  obtain ⟨groups, rest, emits, -⟩ := disposes.exists_emits
  exact ⟨groups, rest, emits⟩

/-- Flushing sends everything that is gathered. -/
theorem Gathers.exists_emits_pushed
    (gathers : filter.Gathers unsent) :
    ∃ groups, filter.Emits unsent groups [] filter.pushed := by
  obtain ⟨disposes, empty⟩ := disposes_pushed gathers.empty_of_disabled
  rw [gathers.gathered_eq] at disposes
  obtain ⟨groups, rest, emits, nothing⟩ := disposes.exists_emits
  rw [nothing empty] at emits
  exact ⟨groups, emits⟩

end Sending

section Receiving

/-- What a chunk stands for when it is received, compressed or not. -/
inductive Unpacks
    (compressing : Bool)
    (opener : Compressor)
    (parcels : List Parcel) :
    Bytes → Prop where
  | plain
      (plain : compressing = false) :
      Unpacks compressing opener parcels (parcels.flatMap Parcel.wire)
  | block
      {compressor : Compressor}
      (compresses : compressing = true)
      (short : (compressor.compress (parcels.flatMap Parcel.wire)).length ≤ maxBlock)
      (opens :
        opener.decompress (compressor.compress (parcels.flatMap Parcel.wire)) =
          some (parcels.flatMap Parcel.wire)) :
      Unpacks compressing opener parcels (block compressor (parcels.flatMap Parcel.wire))

theorem unpacks_iff_carries
    {compressing : Bool}
    {opener : Compressor}
    {parcels : List Parcel}
    {chunk : Bytes} :
    Unpacks compressing opener parcels chunk ↔
      Carries compressing opener (parcels.flatMap Parcel.wire) chunk := by
  constructor
  · rintro (plain | ⟨compresses, short, opens⟩)
    · exact .plain plain
    · exact .block compresses short opens
  · rintro (plain | ⟨compresses, short, opens⟩)
    · exact .plain plain
    · exact .block compresses short opens

/-- What a filter sends another can unpack, if their compressors fit and its blocks are short. -/
theorem unpacks_packed
    {filter : Filter}
    {opener : Compressor}
    {parcels : List Parcel}
    (fits : ∀ octets, opener.decompress (filter.compressor.compress octets) = some octets)
    (short : filter.enabled = true → (filter.packed parcels).length ≤ 4 + maxBlock) :
    Unpacks filter.enabled opener parcels (filter.packed parcels) :=
  unpacks_iff_carries.mpr (carries_wrapped fits short)

variable {filter : Filter} (clear : filter.received = [])
include clear

/-- A chunk that arrives is received as the frames it stands for, and nothing is left of it. -/
theorem exists_receive_of_unpacks
    {parcels : List Parcel}
    {chunk : Bytes}
    {rest : List Bytes}
    (unpacks : Unpacks filter.enabled filter.compressor parcels chunk)
    (inbox : filter.connection.inbox = chunk :: rest) :
    ∃ counters,
      filter.receive.value =
        (.data (parcels.flatMap Parcel.wire), filter.hearing rest counters []) :=
  exists_receive_of_carries clear (unpacks_iff_carries.mp unpacks) inbox

theorem value_receive_of_empty
    (inbox : filter.connection.inbox = []) :
    filter.receive.value =
      (if filter.connection.peerFinished then .closed else .blocked, filter) := by
  cases enabled : filter.enabled with
  | true =>
      rw [receive_of_enabled enabled]
      exact value_receiveBlock_of_empty clear inbox
  | false => rw [value_receive_of_disabled enabled, inbox]

end Receiving

end Filter

end EventWire
