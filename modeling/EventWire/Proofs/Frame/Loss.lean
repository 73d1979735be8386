import EventWire.Proofs.Frame.Provenance

namespace EventWire

/-!
# Losing frames

Any of the frames that carry parcels may be lost.  A header does not say which
chunk of its event it carries, so what is left of an event can pass for a whole
one, or be joined to frames of the same identity that follow.  That takes an
event whose first surviving frame is delivered while another frame of it is
lost; a parcel whose first frame belongs to an event that lost nothing is that
event.
-/

namespace Frame

/-- A parcel, and those of the frames that carry it which were not lost. -/
structure Transfer where
  sent : Parcel
  kept : List Sealed
  sublist : kept.Sublist sent.carriers

namespace Transfer

/-- No frame of the parcel was lost. -/
def Intact (transfer : Transfer) : Prop :=
  transfer.kept = transfer.sent.carriers

/-- The frames that arrive, each with the transfer it belongs to. -/
def arrivals (transfers : List Transfer) : List (Transfer × Sealed) :=
  transfers.flatMap fun transfer => transfer.kept.map (Prod.mk transfer)

theorem map_snd_label
    (transfer : Transfer)
    (frames : List Sealed) :
    (frames.map (Prod.mk transfer)).map Prod.snd = frames := by
  rw [List.map_map]
  exact List.map_id _

theorem map_snd_arrivals (transfers : List Transfer) :
    (arrivals transfers).map Prod.snd = transfers.flatMap kept := by
  rw [arrivals, List.map_flatMap]
  congr 1
  funext transfer
  exact map_snd_label transfer transfer.kept

/-- Whatever frames are lost, each one left belongs to one of the parcels. -/
theorem exists_of_sublist
    {parcels : List Parcel}
    {frames : List Sealed}
    (survived : frames.Sublist (parcels.flatMap Parcel.carriers)) :
    ∃ transfers : List Transfer,
      transfers.map sent = parcels ∧ transfers.flatMap kept = frames := by
  induction parcels generalizing frames with
  | nil =>
      rw [List.flatMap_nil, List.sublist_nil] at survived
      exact ⟨[], rfl, survived.symm⟩
  | cons parcel rest inductionHypothesis =>
      rw [List.flatMap_cons, List.sublist_append_iff] at survived
      obtain ⟨first, others, rfl, firstSurvived, othersSurvived⟩ := survived
      obtain ⟨transfers, rfl, rfl⟩ := inductionHypothesis othersSurvived
      exact ⟨⟨parcel, first, firstSurvived⟩ :: transfers, rfl, rfl⟩

/-- An arrival stands among the frames kept of its transfer. -/
theorem exists_of_arrivals_eq
    {transfers : List Transfer}
    {before after : List (Transfer × Sealed)}
    {arrival : Transfer × Sealed}
    (shape : arrivals transfers = before ++ arrival :: after) :
    arrival.1 ∈ transfers ∧
      ∃ earlier front behind later,
        arrival.1.kept = front ++ arrival.2 :: behind ∧
          before.map Prod.snd = earlier ++ front ∧
          after.map Prod.snd = behind ++ later := by
  induction transfers generalizing before with
  | nil => simp [arrivals] at shape
  | cons transfer rest inductionHypothesis =>
      have fromRest :
          ∀ between,
            before = transfer.kept.map (Prod.mk transfer) ++ between →
            arrivals rest = between ++ arrival :: after →
            arrival.1 ∈ transfer :: rest ∧
              ∃ earlier front behind later,
                arrival.1.kept = front ++ arrival.2 :: behind ∧
                  before.map Prod.snd = earlier ++ front ∧
                  after.map Prod.snd = behind ++ later := by
        rintro between rfl restShape
        obtain ⟨member, earlier, front, behind, later, kept, betweenShape, afterShape⟩ :=
          inductionHypothesis restShape
        refine ⟨List.mem_cons_of_mem _ member, transfer.kept ++ earlier, front, behind, later,
          kept, ?_, afterShape⟩
        rw [List.map_append, map_snd_label, betweenShape, List.append_assoc]
      rw [arrivals, List.flatMap_cons, ← arrivals, List.append_eq_append_iff] at shape
      rcases shape with ⟨between, beforeShape, restShape⟩ | ⟨split, keptShape, restShape⟩
      · exact fromRest between beforeShape restShape
      · cases split with
        | nil =>
            rw [List.append_nil] at keptShape
            exact fromRest [] (by rw [keptShape, List.append_nil]) restShape.symm
        | cons found split =>
            rw [List.cons_append] at restShape
            obtain ⟨rfl, rfl⟩ := List.cons.inj restShape
            obtain ⟨front, tail, kept, rfl, tailShape⟩ := List.map_eq_append_iff.mp keptShape
            obtain ⟨frame, behind, rfl, rfl, rfl⟩ := List.map_eq_cons_iff.mp tailShape
            refine ⟨List.mem_cons_self .., [], front, behind, (arrivals rest).map Prod.snd,
              kept, map_snd_label transfer front, ?_⟩
            rw [List.map_append, map_snd_label]

/--
Of a parcel whose first frame belongs to an event that lost nothing, all frames
are those of the event.
-/
theorem sent_eq_of_intact
    {transfers : List Transfer}
    {before rest after : List (Transfer × Sealed)}
    {first : Transfer × Sealed}
    {parcel : Parcel}
    (shape : arrivals transfers = before ++ (first :: rest) ++ after)
    (closed : Closed parcel.identity (before.map Prod.snd))
    (assembles : Assembles ((first :: rest).map Prod.snd) parcel)
    (intact : first.1.Intact) :
    parcel = first.1.sent := by
  rw [List.append_assoc, List.cons_append] at shape
  obtain ⟨-, earlier, front, behind, later, kept, beforeShape, afterShape⟩ :=
    exists_of_arrivals_eq shape
  have whole := assembles_carriers first.1.sent
  rw [← intact, kept] at whole
  have identity : first.2.identity = parcel.identity :=
    assembles.identity first.2 (List.mem_cons_self ..)
  -- A frame of the same event before the first one would have been part of the parcel.
  have atFront : front = [] := by
    rcases List.eq_nil_or_concat front with empty | ⟨init, previous, rfl⟩
    · exact empty
    · rw [List.concat_eq_append] at whole beforeShape
      have previousMember : previous ∈ init ++ [previous] := by simp
      have latest : previous ∈ (before.map Prod.snd).getLast? := by
        rw [beforeShape, ← List.append_assoc, List.getLast?_concat]
        rfl
      have alike : previous.identity = first.2.identity :=
        (whole.identity previous (List.mem_append_left _ previousMember)).trans
          (whole.identity first.2 (by simp)).symm
      exact absurd (alike.trans identity)
        (closed previous latest (whole.continues_of_mem previousMember))
  subst atFront
  have same :
      (first.2 :: behind) ++ later = (first :: rest).map Prod.snd ++ after.map Prod.snd := by
    rw [← List.map_append, List.cons_append, List.cons_append, List.map_cons, afterShape]
  have frames := whole.frames_eq assembles same
  rw [← frames] at assembles
  exact assembles.parcel_eq whole

theorem exists_of_sublist_bytes
    {parcels : List Parcel}
    {survivors : List Bytes}
    (survived :
      survivors.Sublist
        (parcels.flatMap fun parcel => frames parcel.identity .emptyFrame parcel.body)) :
    ∃ transfers : List Transfer,
      transfers.map sent = parcels ∧
        (transfers.flatMap kept).map Sealed.bytes = survivors := by
  have shape :
      (parcels.flatMap fun parcel => frames parcel.identity .emptyFrame parcel.body) =
        (parcels.flatMap Parcel.carriers).map Sealed.bytes := by
    rw [List.map_flatMap]
    congr 1
    funext parcel
    exact (map_bytes_carriersOf ..).symm
  rw [shape, List.sublist_map_iff] at survived
  obtain ⟨frames, survived, rfl⟩ := survived
  obtain ⟨transfers, sents, rfl⟩ := exists_of_sublist survived
  exact ⟨transfers, sents, rfl⟩

end Transfer

open Transfer in
/--
Whatever frames are lost, what is delivered is made up of frames that follow each
other among those left; and it is a parcel that was sent, unless the parcel its
first frame carried a part of has lost another frame.
-/
theorem origin_of_delivered
    (maxEventSize : Nat)
    {parcels : List Parcel}
    {survivors : List Bytes}
    (survived :
      survivors.Sublist
        (parcels.flatMap fun parcel => frames parcel.identity .emptyFrame parcel.body)) :
    let decoder := (Decoder.fresh .emptyFrame maxEventSize).push survivors.flatten
    (∃ transfers : List Transfer,
      transfers.map sent = parcels ∧
        (transfers.flatMap kept).map Sealed.bytes = survivors) ∧
      ∀ transfers : List Transfer,
        transfers.map sent = parcels →
        (transfers.flatMap kept).map Sealed.bytes = survivors →
        ∀ parcel ∈ (decoder.drain true).value.1,
          ∃ before first rest after,
            arrivals transfers = before ++ (first :: rest) ++ after ∧
              Assembles ((first :: rest).map Prod.snd) parcel ∧
              first.1 ∈ transfers ∧
              (first.1.Intact → parcel = first.1.sent ∧ parcel ∈ parcels) := by
  refine ⟨exists_of_sublist_bytes survived, ?_⟩
  rintro transfers rfl rfl parcel delivered
  rw [← List.flatMap_def, (Decoder.drain_push_frames_atEnd ..).1] at delivered
  obtain ⟨before, taken, after, shape, closed, assembles⟩ :=
    Reassembly.exists_of_mem_parcels delivered
  rw [← map_snd_arrivals, List.map_eq_append_iff] at shape
  obtain ⟨front, behind, shape, frontShape, rfl⟩ := shape
  obtain ⟨earlier, run, rfl, rfl, rfl⟩ := List.map_eq_append_iff.mp frontShape
  cases run with
  | nil =>
      obtain ⟨frame, member⟩ := assembles.exists_mem
      simp at member
  | cons first rest =>
      have place := shape
      rw [List.append_assoc, List.cons_append] at place
      have member := (exists_of_arrivals_eq place).1
      refine ⟨earlier, first, rest, behind, shape, assembles, member, fun intact => ?_⟩
      have same := sent_eq_of_intact shape closed assembles intact
      refine ⟨same, ?_⟩
      rw [same]
      exact List.mem_map_of_mem member

open Transfer in
theorem origin_of_delivered_behind_lost :
    let identity : Identity := ⟨⟨1, 2⟩, ⟨3, 4⟩⟩
    let parcels : List Parcel := [⟨identity, [1]⟩, ⟨identity, [2]⟩]
    let survivors := frames identity .emptyFrame [2]
    let decoder := (Decoder.fresh .emptyFrame 16).push survivors.flatten
    survivors.Sublist
        (parcels.flatMap fun parcel => frames parcel.identity .emptyFrame parcel.body) ∧
      ∃ transfers : List Transfer,
        transfers.map sent = parcels ∧
          ∀ parcel ∈ (decoder.drain true).value.1,
            ∃ first ∈ transfers, first.Intact → parcel = first.sent ∧ parcel ∈ parcels := by
  intro identity parcels survivors decoder
  have survived :
      survivors.Sublist
        (parcels.flatMap fun parcel => frames parcel.identity .emptyFrame parcel.body) := by
    simp only [parcels, List.flatMap_cons, List.flatMap_nil, List.append_nil]
    exact List.sublist_append_right ..
  obtain ⟨⟨transfers, sents, kepts⟩, origin⟩ := origin_of_delivered 16 survived
  refine ⟨survived, transfers, sents, fun parcel delivered => ?_⟩
  obtain ⟨_, first, _, _, _, _, member, sentIfIntact⟩ :=
    origin transfers sents kepts parcel delivered
  exact ⟨first.1, member, sentIfIntact⟩

/-- Losing the frame that closes a full chunk joins two parcels of one identity. -/
theorem joined_of_lost_end
    {payload : Bytes}
    (filled : payload.length = maxChunk)
    (identity : Identity)
    {rest : Bytes}
    (short : rest.length < maxChunk) :
    let parcels : List Parcel := [⟨identity, payload⟩, ⟨identity, rest⟩]
    let survivors :=
      [write identity moreFollow payload, write identity (UInt16.ofNat rest.length) rest]
    let decoder :=
      (Decoder.fresh .emptyFrame Decoder.defaultMaxEventSize).push survivors.flatten
    survivors.Sublist
        (parcels.flatMap fun parcel => frames parcel.identity .emptyFrame parcel.body) ∧
      (decoder.drain true).value.1 = [⟨identity, payload ++ rest⟩] := by
  intro parcels survivors decoder
  have ending : frames identity .emptyFrame rest =
      [write identity (UInt16.ofNat rest.length) rest] :=
    frames_of_lt short identity
  constructor
  · have whole : frames identity .emptyFrame payload =
        write identity moreFollow payload :: frames identity .emptyFrame [] := by
      rw [← frames_append_of_filled filled, List.append_nil]
    simp only [parcels, List.flatMap_cons, List.flatMap_nil, List.append_nil, whole, ending,
      List.cons_append]
    exact (List.sublist_append_right ..).cons_cons _
  · let joined : Parcel := ⟨identity, payload ++ rest⟩
    have arrived : survivors.flatten = [joined].flatMap Parcel.wire := by
      rw [List.flatMap_singleton, Parcel.wire, frames_append_of_filled filled, ending]
    have small : ∀ parcel ∈ [joined], parcel.body.length ≤ Decoder.defaultMaxEventSize := by
      rw [List.forall_mem_singleton, List.length_append, filled]
      simp only [maxChunk, Decoder.defaultMaxEventSize] at short ⊢
      omega
    simp only [decoder, arrived]
    rw [← Parcel.flatMap_carriers, (Decoder.drain_push_frames_atEnd ..).1,
      Reassembly.parcels_flatMap_carriers small]

/-- A decoder delivers a body that was never sent when the frame that closed one is lost. -/
theorem delivered_not_sent :
    let identity : Identity := ⟨⟨1, 2⟩, ⟨3, 4⟩⟩
    let payload : Bytes := List.replicate 65535 0
    let parcels : List Parcel := [⟨identity, payload⟩, ⟨identity, [7]⟩]
    let survivors := [write identity moreFollow payload, write identity 1 [7]]
    let decoder :=
      (Decoder.fresh .emptyFrame Decoder.defaultMaxEventSize).push survivors.flatten
    survivors.Sublist
        (parcels.flatMap fun parcel => frames parcel.identity .emptyFrame parcel.body) ∧
      ∃ parcel ∈ (decoder.drain true).value.1, parcel ∉ parcels := by
  intro identity payload parcels survivors decoder
  have filled : payload.length = maxChunk := List.length_replicate
  obtain ⟨survived, delivered⟩ :=
    joined_of_lost_end filled identity (show [(7 : UInt8)].length < maxChunk by decide)
  have returned : (decoder.drain true).value.1 = [⟨identity, payload ++ [7]⟩] := delivered
  refine ⟨survived, ⟨identity, payload ++ [7]⟩, ?_, ?_⟩
  · rw [returned]
    exact List.mem_singleton_self _
  · intro member
    have longer : (payload ++ [7]).length = maxChunk + 1 := by
      rw [List.length_append, filled]
      rfl
    rcases List.mem_cons.mp member with first | others
    · have body : payload ++ [7] = payload := congrArg Parcel.body first
      rw [body, filled] at longer
      exact absurd longer (by decide)
    · have body : payload ++ [7] = [7] := congrArg Parcel.body (List.mem_singleton.mp others)
      rw [body] at longer
      exact absurd longer (by decide)

end Frame

end EventWire
