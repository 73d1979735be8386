import EventWire.Proofs.Frame.Cutting

namespace EventWire

/-!
# Whole parcels in a decoder

When the frames of whole parcels arrive at a decoder that is in the middle of
none, each call returns one of them and uses up exactly its frames, whatever
stands behind them.  So a decoder that is only ever given whole parcels holds
whole parcels at any time.
-/

namespace Frame

theorem Sealed.bytes_ne_nil (frame : Sealed) : frame.bytes ≠ [] := by
  intro empty
  have positive := frame.length_pos
  rw [← frame.length_bytes, empty] at positive
  exact Nat.lt_irrefl 0 positive

/-- A parcel is never carried by nothing. -/
theorem Parcel.wire_ne_nil (parcel : Parcel) : parcel.wire ≠ [] := by
  rw [← flatMap_bytes_carriers, carriers, carriersOf]
  split
  · exact fun empty => Sealed.bytes_ne_nil _ (List.append_eq_nil_iff.mp empty).1
  · exact fun empty => Sealed.bytes_ne_nil _ (List.append_eq_nil_iff.mp empty).1

/-- A frame of the held event, or the first frame of one, interrupts nothing. -/
theorem Reassembly.interrupt_of_getD
    {termination : Termination}
    {held : Option Partial}
    {identity : Identity}
    {front : Bytes}
    (continued : held.getD (.fresh identity) = ⟨identity, front, false⟩) :
    interrupt termination identity held = ([], held) := by
  cases held with
  | none => rfl
  | some event =>
      rw [Option.getD_some] at continued
      rw [continued]
      exact if_pos rfl

namespace Decoder

section Continued

variable {decoder : Decoder} {atEnd : Bool} {skipped : Nat} {frame : Sealed} {kept : Option Partial}

/-- A frame that ends no other event is absorbed. -/
theorem takeFrame_of_continued
    (stands : frameAt? decoder.buffer skipped = some frame)
    (continued :
      Reassembly.interrupt decoder.termination frame.identity decoder.held = ([], kept)) :
    let absorbed := Reassembly.absorb decoder.maxEventSize kept frame
    ∃ phase,
      (decoder.takeFrame skipped frame.header).value =
        (absorbed.1.head?, { decoder.behind skipped frame absorbed.2 with phase := phase }) := by
  obtain ⟨before, released⟩ := releaseFor_eq (decoder.aligned skipped) frame.identity
  have interrupted : Reassembly.interrupt (decoder.aligned skipped).termination frame.identity
      (decoder.aligned skipped).held = ([], kept) := continued
  simp only [interrupted, List.head?_nil] at released
  obtain ⟨after, accepted⟩ :=
    @accept_eq { decoder.aligned skipped with held := kept, phase := before } frame stands
  refine ⟨after, ?_⟩
  rw [takeFrame_of_kept released, accepted]
  simp only [aligned, behind, List.drop_drop]

end Continued

section

variable {decoder : Decoder} {atEnd : Bool} {rest : Bytes}

/-- A call takes the frames of the body whose front is held, and returns it. -/
theorem decode_of_carriersOf
    {identity : Identity}
    {front body : Bytes}
    (shape :
      decoder.buffer = (carriersOf .emptyFrame identity body).flatMap Sealed.bytes ++ rest)
    (continued : decoder.held.getD (.fresh identity) = ⟨identity, front, false⟩)
    (unsearched :
      ∀ frame ∈ (carriersOf .emptyFrame identity body).head?, decoder.verified < frame.length)
    (fits : front.length + body.length ≤ decoder.maxEventSize) :
    ∃ phase,
      (decoder.decode atEnd).value =
        (some ⟨identity, front ++ body⟩,
          { decoder with buffer := rest, held := none, phase := phase, verified := 0 }) := by
  fun_induction carriersOf .emptyFrame identity body generalizing decoder front with
  | case1 body short =>
      rw [List.flatMap_cons, List.flatMap_nil, List.append_nil] at shape
      have stands : frameAt? decoder.buffer 0 = some (.last identity body short) := by
        rw [shape]
        exact Sealed.front?_bytes_append _ _
      have behindFrame :
          decoder.buffer.drop (0 + (Sealed.last identity body short).length) = rest := by
        rw [shape, Nat.zero_add, ← Sealed.length_bytes, List.drop_left]
      have absorbed :
          Reassembly.absorb decoder.maxEventSize decoder.held (.last identity body short) =
            ([⟨identity, front ++ body⟩], none) := by
        simp only [Reassembly.absorb, Sealed.identity_last, continued, Sealed.payload_last,
          Reassembly.grow_of_le fits, Sealed.continues_last, Bool.false_eq_true, ↓reduceIte,
          Partial.delivered]
      obtain ⟨phase, taken⟩ :=
        takeFrame_of_continued stands (Reassembly.interrupt_of_getD continued)
      rw [absorbed] at taken
      rw [decode_of_found (rescan_of_front? stands (unsearched _ rfl)), taken]
      refine ⟨phase, ?_⟩
      simp only [List.head?_cons, Option.isSome_some, ↓reduceIte, behind, behindFrame]
      rfl
  | case2 body long inductionHypothesis =>
      have filled : (body.take maxChunk).length = maxChunk := by
        rw [List.length_take]
        exact Nat.min_eq_left (Nat.le_of_not_lt long)
      have lengths : (body.take maxChunk).length + (body.drop maxChunk).length = body.length := by
        rw [← List.length_append, List.take_append_drop]
      rw [if_neg (fun final => by cases final.2), List.flatMap_cons, List.append_assoc] at shape
      have stands :
          frameAt? decoder.buffer 0 = some (.full identity (body.take maxChunk) filled) := by
        rw [shape]
        exact Sealed.front?_bytes_append _ _
      have absorbed :
          Reassembly.absorb decoder.maxEventSize decoder.held
              (.full identity (body.take maxChunk) filled) =
            ([], some ⟨identity, front ++ body.take maxChunk, false⟩) := by
        have fits : front.length + (body.take maxChunk).length ≤ decoder.maxEventSize := by
          omega
        simp only [Reassembly.absorb, Sealed.identity_full, continued, Sealed.payload_full,
          Reassembly.grow_of_le fits, Sealed.continues_full, ↓reduceIte]
      obtain ⟨phase, taken⟩ :=
        takeFrame_of_continued stands (Reassembly.interrupt_of_getD continued)
      rw [absorbed] at taken
      rw [decode_of_found (rescan_of_front? stands (unsearched _ rfl)), taken]
      simp only [List.head?_nil, Option.isSome_none, Bool.false_eq_true, ↓reduceIte,
        value_decode_phase]
      have later :=
        @inductionHypothesis
          (decoder.behind 0 (.full identity (body.take maxChunk) filled)
            (some ⟨identity, front ++ body.take maxChunk, false⟩))
          (front ++ body.take maxChunk)
      rw [List.append_assoc, List.take_append_drop] at later
      refine later ?_ rfl (fun next _ => next.length_pos) ?_
      · simp only [behind, Nat.zero_add]
        rw [shape, ← Sealed.length_bytes, List.drop_left]
      · simp only [behind, List.length_append]
        omega

/-- A call returns the parcel whose frames stand at the front, and uses up just these. -/
theorem decode_of_wire
    {parcel : Parcel}
    (shape : decoder.buffer = parcel.wire ++ rest)
    (idle : decoder.held = none)
    (unsearched : ∀ frame ∈ parcel.carriers.head?, decoder.verified < frame.length)
    (fits : parcel.body.length ≤ decoder.maxEventSize) :
    ∃ phase,
      (decoder.decode atEnd).value =
        (some parcel,
          { decoder with buffer := rest, held := none, phase := phase, verified := 0 }) := by
  rw [← parcel.flatMap_bytes_carriers] at shape
  have nothingHeld : decoder.held.getD (.fresh parcel.identity) = ⟨parcel.identity, [], false⟩ := by
    rw [idle]
    rfl
  refine decode_of_carriersOf shape nothingHeld unsearched ?_
  rwa [List.length_nil, Nat.zero_add]

/-- Inside an unfinished frame that hides no other a call returns nothing. -/
theorem decode_of_hidden
    {frames : List Sealed}
    {later : Bytes}
    (unfinished : Unfinished frames decoder.buffer later)
    (hidden : framesIn decoder.buffer = []) :
    (decoder.decode false).value = (none, (decoder.await 0).value) := by
  have drained := value_drain_of_hidden unfinished hidden
  rw [value_drain] at drained
  split at drained
  · next returned =>
      cases drained
      exact returned
  · exact absurd (congrArg Prod.fst drained) (List.cons_ne_nil _ _)

end

/-- A decoder holds the frames of whole parcels that it accepts, and is in the middle of none. -/
structure Holds (decoder : Decoder) (parcels : List Parcel) : Prop where
  buffer_eq : decoder.buffer = parcels.flatMap Parcel.wire
  idle : decoder.held = none
  unsearched : decoder.verified = 0
  small : ∀ parcel ∈ parcels, parcel.body.length ≤ decoder.maxEventSize

namespace Holds

variable {decoder : Decoder} {parcel : Parcel} {parcels : List Parcel}

theorem fresh (termination : Termination) (maxEventSize : Nat) :
    (Decoder.fresh termination maxEventSize).Holds [] where
  buffer_eq := rfl
  idle := rfl
  unsearched := rfl
  small := nofun

theorem eq_nil
    (holds : decoder.Holds parcels)
    (empty : decoder.buffer = []) :
    parcels = [] := by
  cases parcels with
  | nil => rfl
  | cons first rest =>
      rw [holds.buffer_eq, List.flatMap_cons] at empty
      exact absurd (List.append_eq_nil_iff.mp empty).1 first.wire_ne_nil

theorem push
    (holds : decoder.Holds parcels)
    {others : List Parcel}
    (small : ∀ parcel ∈ others, parcel.body.length ≤ decoder.maxEventSize) :
    (decoder.push (others.flatMap Parcel.wire)).Holds (parcels ++ others) where
  buffer_eq := by rw [List.flatMap_append, ← holds.buffer_eq, Decoder.push]
  idle := holds.idle
  unsearched := holds.unsearched
  small parcel member := (List.mem_append.mp member).elim (holds.small parcel) (small parcel)

/-- The first parcel is returned, whether or not more may arrive. -/
theorem decode_cons
    (holds : decoder.Holds (parcel :: parcels))
    (atEnd : Bool) :
    ∃ next,
      (decoder.decode atEnd).value = (some parcel, next) ∧
        next.Holds parcels ∧
        next.maxEventSize = decoder.maxEventSize := by
  have small := List.forall_mem_cons.mp holds.small
  have shape : decoder.buffer = parcel.wire ++ parcels.flatMap Parcel.wire := holds.buffer_eq
  have unsearched : ∀ frame ∈ parcel.carriers.head?, decoder.verified < frame.length := by
    intro frame _
    rw [holds.unsearched]
    exact frame.length_pos
  obtain ⟨phase, returned⟩ := decode_of_wire shape holds.idle unsearched small.1
  exact ⟨_, returned, ⟨rfl, rfl, rfl, small.2⟩, rfl⟩

/-- A decoder that holds no parcel returns none, and goes on holding none. -/
theorem decode_nil
    (holds : decoder.Holds [])
    (atEnd : Bool) :
    ∃ next,
      (decoder.decode atEnd).value = (none, next) ∧
        next.Holds [] ∧
        next.maxEventSize = decoder.maxEventSize := by
  obtain ⟨termination, maxEventSize, buffer, held, phase, skipped, verified⟩ := decoder
  obtain ⟨rfl, rfl, rfl, -⟩ := holds
  cases atEnd with
  | false =>
      have searched : rescan [] false 0 = .incomplete 0 headerLength := rfl
      exact ⟨_, decode_of_incomplete searched, ⟨rfl, rfl, rfl, nofun⟩, rfl⟩
  | true =>
      have searched : rescan [] true 0 = .exhausted := rfl
      exact ⟨_, congrArg Noted.value (decode_of_exhausted searched), ⟨rfl, rfl, rfl, nofun⟩, rfl⟩

end Holds

end Decoder

end Frame

end EventWire
