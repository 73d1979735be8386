import EventWire.Proofs.Frame.Draining

namespace EventWire

/-!
# Frames that carry a body

Cutting a body into chunks and sealing each gives frames that the rules of
reassembly put together again, whatever is in the body.  A decoder that finds
such frames at the front of its buffer takes them one after the other, so it
never looks inside a payload.
-/

namespace Frame

namespace Sealed

/-- The frame that carries a chunk. -/
def carrying
    (identity : Identity)
    (chunkSize : UInt16)
    (payload : Bytes)
    (fits : payload.length = chunkSize.toNat) :
    Sealed where
  header := (Header.unsealed identity chunkSize).sealFor payload
  payload := payload
  length_payload := fits
  verifies := Header.verifies_sealFor _ _

theorem toNat_ofNat_of_lt_maxChunk
    {length : Nat}
    (short : length < maxChunk) :
    (UInt16.ofNat length).toNat = length := by
  rw [UInt16.toNat_ofNat']
  exact Nat.mod_eq_of_lt (Nat.lt_trans short (by decide))

/-- The frame that carries a full chunk, behind which more follow. -/
def full
    (identity : Identity)
    (payload : Bytes)
    (filled : payload.length = maxChunk) :
    Sealed :=
  carrying identity moreFollow payload filled

/-- The frame that carries the last chunk of a body. -/
def last
    (identity : Identity)
    (payload : Bytes)
    (short : payload.length < maxChunk) :
    Sealed :=
  carrying identity (UInt16.ofNat payload.length) payload (toNat_ofNat_of_lt_maxChunk short).symm

section Shape

variable {identity : Identity} {payload : Bytes}

@[simp] theorem identity_full (filled : payload.length = maxChunk) :
    (full identity payload filled).identity = identity :=
  rfl

@[simp] theorem identity_last (short : payload.length < maxChunk) :
    (last identity payload short).identity = identity :=
  rfl

@[simp] theorem payload_full (filled : payload.length = maxChunk) :
    (full identity payload filled).payload = payload :=
  rfl

@[simp] theorem payload_last (short : payload.length < maxChunk) :
    (last identity payload short).payload = payload :=
  rfl

@[simp] theorem continues_full (filled : payload.length = maxChunk) :
    (full identity payload filled).continues = true :=
  rfl

@[simp] theorem continues_last (short : payload.length < maxChunk) :
    (last identity payload short).continues = false := by
  change (UInt16.ofNat payload.length == moreFollow) = false
  rw [beq_eq_false_iff_ne]
  intro same
  have number := congrArg UInt16.toNat same
  rw [toNat_ofNat_of_lt_maxChunk short] at number
  exact absurd number (Nat.ne_of_lt short)

end Shape

end Sealed

/-- The frames that carry a body. -/
def carriersOf
    (termination : Termination)
    (identity : Identity)
    (body : Bytes) :
    List Sealed :=
  if short : body.length < maxChunk then [.last identity body short]
  else
    .full identity (body.take maxChunk)
        (by rw [List.length_take]; exact Nat.min_eq_left (Nat.le_of_not_lt short)) ::
      if body.length = maxChunk ∧ termination = .implicit then []
      else carriersOf termination identity (body.drop maxChunk)
termination_by body.length
decreasing_by
  rw [List.length_drop]
  simp only [maxChunk] at *
  omega

theorem carriersOf_of_lt
    {body : Bytes}
    (short : body.length < maxChunk)
    (termination : Termination)
    (identity : Identity) :
    carriersOf termination identity body = [.last identity body short] := by
  rw [carriersOf, dif_pos short]

theorem identity_of_mem_carriersOf
    (termination : Termination)
    (identity : Identity)
    (body : Bytes) :
    ∀ frame ∈ carriersOf termination identity body, frame.identity = identity := by
  fun_induction carriersOf termination identity body with
  | case1 body short => exact List.forall_mem_singleton.mpr rfl
  | case2 body long inductionHypothesis =>
      refine List.forall_mem_cons.mpr ⟨rfl, ?_⟩
      split
      · exact List.forall_mem_nil _
      · exact inductionHypothesis

/-- Their octets are those that are sent. -/
theorem map_bytes_carriersOf
    (termination : Termination)
    (identity : Identity)
    (body : Bytes) :
    (carriersOf termination identity body).map Sealed.bytes =
      frames identity termination body := by
  fun_induction carriersOf termination identity body with
  | case1 body short =>
      rw [frames, chunks, if_pos short]
      rfl
  | case2 body long inductionHypothesis =>
      rw [frames, chunks, if_neg long, List.map_cons, List.map_cons]
      congr 1
      by_cases final : body.length = maxChunk ∧ termination = .implicit
      · rw [if_pos final, if_pos final]
        rfl
      · rw [if_neg final, if_neg final, inductionHypothesis]
        rfl

/-- Behind a full chunk the frames are those of the rest of the body. -/
theorem frames_append_of_filled
    {payload : Bytes}
    (filled : payload.length = maxChunk)
    (identity : Identity)
    (rest : Bytes) :
    frames identity .emptyFrame (payload ++ rest) =
      write identity moreFollow payload :: frames identity .emptyFrame rest := by
  have long : ¬ (payload ++ rest).length < maxChunk := by
    rw [List.length_append, filled]
    exact Nat.not_lt.mpr (Nat.le_add_right _ _)
  have marked :
      ¬ ((payload ++ rest).length = maxChunk ∧ Termination.emptyFrame = .implicit) :=
    fun final => absurd final.2 (by decide)
  rw [frames, chunks, if_neg long, if_neg marked, List.map_cons, List.take_left' filled,
    List.drop_left' filled]
  rfl

theorem frames_of_lt
    {body : Bytes}
    (short : body.length < maxChunk)
    (identity : Identity) :
    frames identity .emptyFrame body = [write identity (UInt16.ofNat body.length) body] := by
  rw [frames, chunks, if_pos short]
  rfl

/-- A body fills its chunks when the last one is full too, so no frame of it need show its end. -/
def Fills (body : Bytes) : Prop :=
  body ≠ [] ∧ maxChunk ∣ body.length

instance (body : Bytes) : Decidable (Fills body) :=
  inferInstanceAs (Decidable (_ ∧ _))

namespace Fills

variable {body : Bytes}

theorem not_lt (fills : Fills body) : ¬ body.length < maxChunk := fun short =>
  fills.1 (List.length_eq_zero_iff.mp (Nat.eq_zero_of_dvd_of_lt fills.2 short))

theorem of_length_eq (exact : body.length = maxChunk) : Fills body where
  left empty := by
    rw [empty] at exact
    exact nomatch exact
  right := exact ▸ Nat.dvd_refl _

/-- Behind a full chunk that is not the last, the rest fills its chunks if the whole does. -/
theorem drop_iff
    (long : maxChunk ≤ body.length)
    (more : body.length ≠ maxChunk) :
    Fills (body.drop maxChunk) ↔ Fills body := by
  have rest : body.drop maxChunk ≠ [] := fun empty =>
    more (Nat.le_antisymm (List.drop_eq_nil_iff.mp empty) long)
  have whole : body ≠ [] := fun empty => rest (by rw [empty, List.drop_nil])
  rw [Fills, Fills, List.length_drop, Nat.dvd_sub_iff_left long (Nat.dvd_refl _)]
  exact and_congr_left' (iff_of_true rest whole)

/-- Whether the end of a body stays unmarked is decided by the rest behind a full chunk. -/
theorem unmarked_drop_iff
    {sent : Termination}
    (long : ¬ body.length < maxChunk)
    (more : ¬ (body.length = maxChunk ∧ sent = .implicit)) :
    (sent = .implicit ∧ Fills (body.drop maxChunk)) ↔ (sent = .implicit ∧ Fills body) :=
  and_congr_right fun unmarked =>
    drop_iff (Nat.le_of_not_lt long) fun exact => more ⟨exact, unmarked⟩

end Fills

namespace Parcel

/-- The frames that carry a parcel, closed by one that is not full. -/
def carriers (parcel : Parcel) : List Sealed :=
  carriersOf .emptyFrame parcel.identity parcel.body

/-- The octets that carry a parcel. -/
def wire (parcel : Parcel) : Bytes :=
  (frames parcel.identity .emptyFrame parcel.body).flatten

theorem flatMap_bytes_carriers (parcel : Parcel) :
    parcel.carriers.flatMap Sealed.bytes = parcel.wire := by
  rw [List.flatMap_def, carriers, map_bytes_carriersOf, wire]

theorem flatMap_carriers (parcels : List Parcel) :
    (parcels.flatMap carriers).flatMap Sealed.bytes = parcels.flatMap wire := by
  rw [List.flatMap_assoc]
  congr 1
  funext parcel
  exact flatMap_bytes_carriers parcel

theorem carriers_of_lt
    {parcel : Parcel}
    (short : parcel.body.length < maxChunk) :
    parcel.carriers = [.last parcel.identity parcel.body short] := by
  rw [carriers, carriersOf_of_lt short]

theorem wire_of_lt
    {parcel : Parcel}
    (short : parcel.body.length < maxChunk) :
    parcel.wire = (Sealed.last parcel.identity parcel.body short).bytes := by
  rw [← flatMap_bytes_carriers, carriers_of_lt short, List.flatMap_singleton]

end Parcel

/-- A body that does not fill a chunk has the same frame under both policies. -/
theorem flatten_frames_of_lt
    {body : Bytes}
    (short : body.length < maxChunk)
    (identity : Identity)
    (termination : Termination) :
    (frames identity termination body).flatten = Parcel.wire ⟨identity, body⟩ := by
  rw [Parcel.wire, ← map_bytes_carriersOf, ← map_bytes_carriersOf, carriersOf_of_lt short,
    carriersOf_of_lt short]

/-- The parcels that are not longer than a limit. -/
def fitting (limit : Nat) (parcels : List Parcel) : List Parcel :=
  parcels.filter fun parcel => parcel.body.length ≤ limit

theorem fitting_cons (limit : Nat) (parcel : Parcel) (rest : List Parcel) :
    fitting limit (parcel :: rest) =
      (if parcel.body.length ≤ limit then [parcel] else []) ++ fitting limit rest := by
  simp only [fitting, List.filter_cons, decide_eq_true_eq]
  split <;> rfl

theorem fitting_of_forall
    {limit : Nat}
    {parcels : List Parcel}
    (small : ∀ parcel ∈ parcels, parcel.body.length ≤ limit) :
    fitting limit parcels = parcels :=
  List.filter_eq_self.mpr fun parcel member => decide_eq_true (small parcel member)

theorem fitting_append (limit : Nat) (front back : List Parcel) :
    fitting limit (front ++ back) = fitting limit front ++ fitting limit back :=
  List.filter_append _ _

namespace Reassembly

variable {termination : Termination} {limit : Nat}

/-- A frame of the held event, or the first frame of one, is absorbed. -/
theorem take_of_getD
    {held : Option Partial}
    {frame : Sealed}
    {event : Partial}
    (continued : held.getD (.fresh frame.identity) = event)
    (same : event.identity = frame.identity) :
    take termination limit held frame = absorb limit (some event) frame := by
  cases held with
  | none =>
      subst continued
      rfl
  | some kept =>
      subst continued
      have kept : interrupt termination frame.identity (some kept) = ([], some kept) :=
        if_pos same
      simp only [take, kept, Option.getD_some, List.nil_append]

theorem grow_of_le
    {identity : Identity}
    {front payload : Bytes}
    (fits : front.length + payload.length ≤ limit) :
    Partial.grow limit ⟨identity, front, false⟩ payload =
      ⟨identity, front ++ payload, false⟩ := by
  simp only [Partial.grow, Bool.false_eq_true, ↓reduceIte]
  rw [if_neg (Nat.not_lt.mpr fits)]

/--
The frames of a body add it to the event held before them, and end the event
unless the body fills its chunks and nothing is sent behind them.
-/
theorem run_carriersOf_eq
    {sent : Termination}
    {held : Option Partial}
    {identity : Identity}
    {body : Bytes}
    {event : Partial}
    (continued : held.getD (.fresh identity) = event)
    (same : event.identity = identity) :
    run termination limit held (carriersOf sent identity body) =
      if sent = .implicit ∧ Fills body then ([], some (event.grow limit body))
      else ((event.grow limit body).delivered, none) := by
  fun_induction carriersOf sent identity body generalizing held event with
  | case1 body short =>
      rw [run, take_of_getD continued same, if_neg (fun unmarked => unmarked.2.not_lt short)]
      simp only [run, absorb, Option.getD_some, Sealed.payload_last, Sealed.continues_last,
        Bool.false_eq_true, ↓reduceIte, List.append_nil]
  | case2 body long inductionHypothesis =>
      have absorbed :
          absorb limit (some event) (.full identity (body.take maxChunk)
              (List.length_take.trans (Nat.min_eq_left (Nat.le_of_not_lt long)))) =
            ([], some (event.grow limit (body.take maxChunk))) :=
        rfl
      rw [run, take_of_getD continued same, absorbed]
      simp only [List.nil_append, Prod.eta]
      by_cases final : body.length = maxChunk ∧ sent = .implicit
      · have whole : body.take maxChunk = body := List.take_of_length_le (Nat.le_of_eq final.1)
        rw [if_pos final, if_pos ⟨final.2, .of_length_eq final.1⟩, whole]
        rfl
      · have continues :
            (some (event.grow limit (body.take maxChunk))).getD (.fresh identity) =
              event.grow limit (body.take maxChunk) :=
          rfl
        rw [if_neg final, inductionHypothesis continues ((event.identity_grow limit _).trans same),
          Partial.grow_grow, List.take_append_drop]
        simp only [Fills.unmarked_drop_iff long final]

/-- Where an empty frame follows a body that fills its chunks, the frames always end the event. -/
theorem run_carriersOf_emptyFrame
    {held : Option Partial}
    {identity : Identity}
    {body : Bytes}
    {event : Partial}
    (continued : held.getD (.fresh identity) = event)
    (same : event.identity = identity) :
    run termination limit held (carriersOf .emptyFrame identity body) =
      ((event.grow limit body).delivered, none) := by
  have marked : ¬ (Termination.emptyFrame = .implicit ∧ Fills body) :=
    fun unmarked => absurd unmarked.1 (by decide)
  rw [run_carriersOf_eq continued same, if_neg marked]

/-- The frames of a body complete the event whose front is held. -/
theorem run_carriersOf
    {held : Option Partial}
    {identity : Identity}
    {front body : Bytes}
    (continued : held.getD (.fresh identity) = ⟨identity, front, false⟩)
    (fits : front.length + body.length ≤ limit) :
    run termination limit held (carriersOf .emptyFrame identity body) =
      ([⟨identity, front ++ body⟩], none) := by
  rw [run_carriersOf_emptyFrame continued rfl, grow_of_le fits]
  rfl

/-- A parcel is put together again from the frames that carry it. -/
theorem run_carriers
    {parcel : Parcel}
    (small : parcel.body.length ≤ limit) :
    run termination limit none parcel.carriers = ([parcel], none) := by
  rw [Parcel.carriers, run_carriersOf rfl]
  · rfl
  · rw [List.length_nil, Nat.zero_add]
    exact small

/-- Of parcels those not too long are put together again from the frames that carry them. -/
theorem run_flatMap_carriers_eq (parcels : List Parcel) :
    run termination limit none (parcels.flatMap Parcel.carriers) =
      (fitting limit parcels, none) := by
  induction parcels with
  | nil => rfl
  | cons parcel rest inductionHypothesis =>
      have carried :
          run termination limit none parcel.carriers =
            (if parcel.body.length ≤ limit then [parcel] else [], none) := by
        rw [Parcel.carriers, run_carriersOf_emptyFrame rfl rfl, Option.getD_none,
          Partial.delivered_grow_fresh]
      simp only [List.flatMap_cons, run_append, carried, inductionHypothesis, fitting_cons]

/-- Parcels are put together again from the frames that carry them. -/
theorem run_flatMap_carriers
    {parcels : List Parcel}
    (small : ∀ parcel ∈ parcels, parcel.body.length ≤ limit) :
    run termination limit none (parcels.flatMap Parcel.carriers) = (parcels, none) := by
  rw [run_flatMap_carriers_eq, fitting_of_forall small]

theorem parcels_flatMap_carriers
    {parcels : List Parcel}
    (small : ∀ parcel ∈ parcels, parcel.body.length ≤ limit) :
    Reassembly.parcels termination limit (parcels.flatMap Parcel.carriers) = parcels := by
  rw [Reassembly.parcels, run_flatMap_carriers small]
  exact List.append_nil parcels

end Reassembly

end Frame

end EventWire
