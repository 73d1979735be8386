import EventWire.Proofs.Frame.Sending

namespace EventWire

/-!
# Parcels told apart

The frames of parcels sent one behind the other say which parcel each belongs
to and, unless the last chunk of a body is full, where a body ends.  Under the
one policy an empty frame closes a body whose last chunk is full.  Under the
other nothing does: the parcel takes in the one behind it if their identities are
the same.  Of the parcels that are told apart in this way a decoder delivers
those that are not longer than its limit.
-/

namespace Frame

/-- The octets in which parcels are sent one behind the other. -/
def encoded (termination : Termination) (parcels : List Parcel) : Bytes :=
  parcels.flatMap fun parcel => (frames parcel.identity termination parcel.body).flatten

/-- A parcel whose body fills its chunks takes in the one behind it, if it has the same identity. -/
def merged : List Parcel → List Parcel
  | [] => []
  | parcel :: rest =>
    match merged rest with
    | [] => [parcel]
    | next :: others =>
      if Fills parcel.body ∧ next.identity = parcel.identity then
        ⟨parcel.identity, parcel.body ++ next.body⟩ :: others
      else parcel :: next :: others

/-- The parcels sent, as far as their frames tell them apart. -/
def Termination.toldApart : Termination → List Parcel → List Parcel
  | .emptyFrame, parcels => parcels
  | .implicit, parcels => merged parcels

theorem merged_cons_of_not_fills
    {parcel : Parcel}
    (unfilled : ¬ Fills parcel.body)
    (rest : List Parcel) :
    merged (parcel :: rest) = parcel :: merged rest := by
  rw [merged]
  split
  · next nothing => rw [nothing]
  · next shape => rw [shape, if_neg fun joined => unfilled joined.1]

/-- Parcels that are merged begin with the identity that they began with before. -/
theorem exists_merged_cons (parcel : Parcel) (rest : List Parcel) :
    ∃ next others, merged (parcel :: rest) = next :: others ∧ next.identity = parcel.identity := by
  rw [merged]
  split
  · exact ⟨_, _, rfl, rfl⟩
  · split
    · exact ⟨_, _, rfl, rfl⟩
    · exact ⟨_, _, rfl, rfl⟩

theorem exists_carriersOf_cons
    (termination : Termination)
    (identity : Identity)
    (body : Bytes) :
    ∃ frame rest,
      carriersOf termination identity body = frame :: rest ∧ frame.identity = identity := by
  rw [carriersOf]
  split
  · exact ⟨_, _, rfl, Sealed.identity_last _⟩
  · exact ⟨_, _, rfl, Sealed.identity_full _⟩

theorem flatMap_bytes_carriersOf (termination : Termination) (parcels : List Parcel) :
    (parcels.flatMap fun parcel => carriersOf termination parcel.identity parcel.body).flatMap
        Sealed.bytes =
      encoded termination parcels := by
  rw [List.flatMap_assoc, encoded]
  congr 1
  funext parcel
  rw [List.flatMap_def, map_bytes_carriersOf]

namespace Reassembly

variable {limit : Nat}

/-- What merged parcels come to behind the held event, when nothing marks a full chunk's end. -/
def settled (limit : Nat) : Option Partial → List Parcel → List Parcel
  | none, parcels => fitting limit parcels
  | some event, [] => event.delivered
  | some event, next :: others =>
    if next.identity = event.identity then
      (event.grow limit next.body).delivered ++ fitting limit others
    else event.delivered ++ fitting limit (next :: others)

/-- The first parcel continues the event that is held, or the one that its identity begins. -/
theorem settled_cons
    {held : Option Partial}
    {event : Partial}
    {next : Parcel}
    (continued : held.getD (.fresh next.identity) = event)
    (same : event.identity = next.identity)
    (others : List Parcel) :
    settled limit held (next :: others) =
      (event.grow limit next.body).delivered ++ fitting limit others := by
  cases held with
  | none =>
      subst continued
      rw [settled, fitting_cons, Option.getD_none, Partial.delivered_grow_fresh]
  | some kept =>
      subst continued
      exact if_pos same.symm

/-- A frame of another identity delivers the held event and is taken as if none were held. -/
theorem completed_cons_of_other
    {event : Partial}
    {frame : Sealed}
    (other : event.identity ≠ frame.identity)
    (rest : List Sealed) :
    completed .implicit limit (some event) (frame :: rest) =
      event.delivered ++ completed .implicit limit none (frame :: rest) := by
  have released : interrupt .implicit frame.identity (some event) = (event.delivered, none) :=
    if_neg other
  have nothing : interrupt .implicit frame.identity none = ([], none) := rfl
  simp only [completed, run, take, released, nothing, List.nil_append, List.append_assoc]

/-- A parcel in front that continues the held event, or begins one, goes into what is merged. -/
theorem settled_merged_cons
    {held : Option Partial}
    {event : Partial}
    {parcel : Parcel}
    (continued : held.getD (.fresh parcel.identity) = event)
    (same : event.identity = parcel.identity)
    (rest : List Parcel) :
    settled limit held (merged (parcel :: rest)) =
      if Fills parcel.body then settled limit (some (event.grow limit parcel.body)) (merged rest)
      else (event.grow limit parcel.body).delivered ++ fitting limit (merged rest) := by
  by_cases fills : Fills parcel.body
  · rw [if_pos fills, merged]
    cases merged rest with
    | nil =>
        dsimp only
        rw [settled_cons continued same, settled]
        exact List.append_nil _
    | cons next others =>
        dsimp only
        by_cases alike : next.identity = parcel.identity
        · rw [if_pos ⟨fills, alike⟩, settled, Partial.identity_grow, same, if_pos alike,
            Partial.grow_grow]
          exact @settled_cons limit held event ⟨parcel.identity, parcel.body ++ next.body⟩
            continued same others
        · rw [if_neg fun joined => alike joined.2, settled, Partial.identity_grow, same,
            if_neg alike]
          exact settled_cons continued same _
  · rw [if_neg fills, merged_cons_of_not_fills fills]
    exact settled_cons continued same _

/-- Without a mark behind full chunks, frames come to the merged parcels that fit. -/
theorem completed_carriersOf_implicit
    (limit : Nat)
    (held : Option Partial)
    (parcels : List Parcel) :
    completed .implicit limit held
        (parcels.flatMap fun parcel => carriersOf .implicit parcel.identity parcel.body) =
      settled limit held (merged parcels) := by
  induction parcels generalizing held with
  | nil =>
      cases held with
      | none => rfl
      | some event => rfl
  | cons parcel rest inductionHypothesis =>
      have continuing
          (held : Option Partial)
          (same : (held.getD (.fresh parcel.identity)).identity = parcel.identity) :
          completed .implicit limit held
              ((parcel :: rest).flatMap fun parcel =>
                carriersOf .implicit parcel.identity parcel.body) =
            settled limit held (merged (parcel :: rest)) := by
        rw [settled_merged_cons rfl same, List.flatMap_cons, completed_append,
          run_carriersOf_eq rfl same]
        by_cases fills : Fills parcel.body
        · rw [if_pos ⟨rfl, fills⟩, if_pos fills, inductionHypothesis, List.nil_append]
        · rw [if_neg fun unmarked => fills unmarked.2, if_neg fills, inductionHypothesis]
          rfl
      cases held with
      | none => exact continuing none rfl
      | some event =>
          by_cases same : event.identity = parcel.identity
          · exact continuing (some event) same
          · -- The held event was complete, and the parcel is taken as if none had been held.
            obtain ⟨frame, others, shape, identity⟩ :=
              exists_carriersOf_cons .implicit parcel.identity parcel.body
            obtain ⟨next, later, merges, alike⟩ := exists_merged_cons parcel rest
            have alone := continuing none rfl
            rw [List.flatMap_cons, shape, List.cons_append, merges] at alone ⊢
            rw [completed_cons_of_other (identity ▸ same), alone, settled, settled,
              if_neg fun joined => same (joined.symm.trans alike)]

/-- The frames of parcels come to those that are told apart and fit. -/
theorem completed_carriersOf
    (termination : Termination)
    (limit : Nat)
    (parcels : List Parcel) :
    completed termination limit none
        (parcels.flatMap fun parcel => carriersOf termination parcel.identity parcel.body) =
      fitting limit (termination.toldApart parcels) := by
  cases termination with
  | emptyFrame =>
      have followed : run .emptyFrame limit none (parcels.flatMap Parcel.carriers) = _ :=
        run_flatMap_carriers_eq parcels
      change completed .emptyFrame limit none (parcels.flatMap Parcel.carriers) = _
      rw [completed, followed]
      exact List.append_nil _
  | implicit => exact completed_carriersOf_implicit limit none parcels

end Reassembly

/--
Parcels sent under a policy and delivered under the same one are those that the
policy tells apart, in order and without the ones that outgrow the limit; no
octet is passed over, and none is left.
-/
theorem drain_encoded
    (termination : Termination)
    (limit : Nat)
    (parcels : List Parcel) :
    let decoder := (Decoder.fresh termination limit).push (encoded termination parcels)
    let waiting := (decoder.drain false).value
    let ended := (waiting.2.drain true).value
    waiting.1 ++ ended.1 = fitting limit (termination.toldApart parcels) ∧
      ended.2.skipped = 0 ∧
      ended.2.buffer = [] := by
  rw [← flatMap_bytes_carriersOf, ← Reassembly.completed_carriersOf]
  exact Decoder.drain_push_frames_then_atEnd termination limit _

end Frame

end EventWire
