import EventWire.Proofs.Frame.Attribution

namespace EventWire

/-!
# One wire form for every event

A checksum leaves nothing open in a frame but its identity, its payload and
whether more follow, and whether more follow is whether the payload is full.  So
the frames of an event are determined by its identity and its body.  A decoder
that takes any octets thus returns no event but from the octets that are sent
for it.
-/

namespace Frame

namespace Sealed

/-- A frame is the one that carries its payload. -/
theorem eq_carrying (frame : Sealed) :
    frame =
      carrying frame.identity frame.header.chunkSize frame.payload frame.length_payload := by
  obtain ⟨⟨checksum, chunkSize, identity⟩, payload, fits, verified⟩ := frame
  have sealing : checksum = (Header.unsealed identity chunkSize).expectedChecksum payload :=
    eq_of_beq verified
  subst sealing
  rfl

/-- A frame behind which more follow is full. -/
theorem eq_full
    {frame : Sealed}
    (goesOn : frame.continues = true) :
    ∃ filled, frame = full frame.identity frame.payload filled := by
  have marked : frame.header.chunkSize = moreFollow := eq_of_beq goesOn
  have filled : frame.payload.length = maxChunk := by
    rw [frame.length_payload, Header.payloadLength, marked]
    rfl
  refine ⟨filled, frame.eq_carrying.trans ?_⟩
  simp only [full, marked]

/-- The last frame of an event is not full. -/
theorem eq_last
    {frame : Sealed}
    (ends : frame.continues = false) :
    ∃ short, frame = last frame.identity frame.payload short := by
  have unmarked : frame.header.chunkSize ≠ moreFollow := ne_of_beq_false ends
  have length : frame.payload.length = frame.header.chunkSize.toNat := frame.length_payload
  have short : frame.payload.length < maxChunk := by
    have bound := frame.header.chunkSize.toNat_lt
    have other : frame.header.chunkSize.toNat ≠ moreFollow.toNat :=
      fun same => unmarked (UInt16.toNat.inj same)
    change frame.header.chunkSize.toNat ≠ maxChunk at other
    rw [length]
    simp only [maxChunk] at other ⊢
    omega
  have announced : frame.header.chunkSize = UInt16.ofNat frame.payload.length := by
    rw [length, UInt16.ofNat_toNat]
  refine ⟨short, frame.eq_carrying.trans ?_⟩
  simp only [last, announced]

end Sealed

/-- Behind a full chunk the carriers are those of the rest of the body. -/
theorem carriersOf_append_of_filled
    {payload : Bytes}
    (filled : payload.length = maxChunk)
    (identity : Identity)
    (rest : Bytes) :
    carriersOf .emptyFrame identity (payload ++ rest) =
      .full identity payload filled :: carriersOf .emptyFrame identity rest := by
  have long : ¬ (payload ++ rest).length < maxChunk := by
    rw [List.length_append, filled]
    exact Nat.not_lt.mpr (Nat.le_add_right _ _)
  rw [carriersOf, dif_neg long, if_neg (by rintro ⟨-, ⟨⟩⟩)]
  simp only [List.take_left' filled, List.drop_left' filled]

/-- Full frames and one that is not full carry what is in them. -/
theorem eq_carriersOf
    {identity : Identity}
    {front : List Sealed}
    {final : Sealed}
    (alike : ∀ frame ∈ front ++ [final], frame.identity = identity)
    (goOn : ∀ frame ∈ front, frame.continues = true)
    (ends : final.continues = false) :
    front ++ [final] =
      carriersOf .emptyFrame identity ((front ++ [final]).flatMap Sealed.payload) := by
  induction front with
  | nil =>
      obtain ⟨short, shape⟩ := Sealed.eq_last ends
      have same : final.identity = identity := alike final (List.mem_singleton_self final)
      rw [List.nil_append, List.flatMap_singleton, carriersOf_of_lt short, ← same, ← shape]
  | cons frame rest inductionHypothesis =>
      rw [List.cons_append, List.forall_mem_cons] at alike
      rw [List.forall_mem_cons] at goOn
      obtain ⟨filled, shape⟩ := Sealed.eq_full goOn.1
      rw [List.cons_append, List.flatMap_cons, carriersOf_append_of_filled filled,
        ← inductionHypothesis alike.2 goOn.2, ← alike.1, ← shape]

/-- An event is made up of no frames but those that carry it. -/
theorem Assembles.eq_carriers
    {frames : List Sealed}
    {parcel : Parcel}
    (assembles : Assembles frames parcel) :
    frames = parcel.carriers := by
  obtain ⟨front, final, shape, goOn, ends⟩ := assembles.shape
  have alike := assembles.identity
  have body := assembles.body
  rw [shape] at alike body ⊢
  rw [eq_carriersOf alike goOn ends, body]
  rfl

/-- When an empty frame closes full bodies, the frames of an event assemble it. -/
theorem Makes.assembles
    {limit : Nat}
    {frames : List Sealed}
    {parcel : Parcel}
    (makes : Makes .emptyFrame limit frames parcel) :
    Assembles frames parcel where
  identity := makes.identity
  body := makes.body
  shape := by
    refine ⟨frames.dropLast, frames.getLast makes.nonempty, ?_, makes.goOn, ?_⟩
    · exact (List.dropLast_concat_getLast makes.nonempty).symm
    · exact makes.ends rfl _ (List.getLast?_eq_some_getLast makes.nonempty)

/--
Whatever octets a decoder is given, the frames of every event it returns are
octet for octet what is sent for that event, and what is sent comes to it again.
-/
theorem bytes_of_returned
    (limit : Nat)
    (calls : List Decoder.Call) :
    let performed := (Decoder.fresh .emptyFrame limit).performAll calls
    ∃ log,
      Decoder.Logs (.fresh .emptyFrame limit) calls log ∧
        let origins := (ascribe [] log).1
        origins.filterMap Origin.parcel = performed.1.filterMap Decoder.Reply.parcel? ∧
          ∀ origin ∈ origins, ∀ parcel ∈ origin.parcel,
            let octets := origin.frames.flatMap Sealed.bytes
            octets = (frames parcel.identity .emptyFrame parcel.body).flatten ∧
              (((Decoder.fresh .emptyFrame limit).push octets).drain false).value.1 = [parcel] := by
  intro performed
  obtain ⟨log, logs⟩ := Decoder.exists_logs (.fresh .emptyFrame limit) calls
  obtain ⟨left, ascribes, -⟩ := logs.ascribes (.fresh .emptyFrame limit) rfl
  refine ⟨log, logs, ascribes.returned, fun origin member parcel same => ?_⟩
  have makes := ascribes.made origin member parcel same
  have carried : origin.frames = parcel.carriers := makes.assembles.eq_carriers
  rw [carried]
  refine ⟨parcel.flatMap_bytes_carriers, ?_⟩
  rw [(Decoder.drain_push_frames .emptyFrame limit parcel.carriers).1,
    Reassembly.run_carriers makes.fits]

end Frame

end EventWire
