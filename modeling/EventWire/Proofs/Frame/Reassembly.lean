import EventWire.Proofs.Frame.Sealed

namespace EventWire

/-!
# The rules of reassembly

What becomes of a sequence of frames does not depend on how they were found.
The rules are stated on the frames alone, with the event whose end has not come
as the only state.
-/

namespace Frame

namespace Partial

/-- What is delivered of an event that has come to its end. -/
def delivered (event : Partial) : List Parcel :=
  if event.oversized then [] else [⟨event.identity, event.body⟩]

/-- The event with one more chunk; growing beyond the limit drops its body for good. -/
def grow
    (limit : Nat)
    (event : Partial)
    (payload : Bytes) :
    Partial :=
  if event.oversized then event
  else if limit < event.body.length + payload.length then
    { event with oversized := true, body := [] }
  else { event with body := event.body ++ payload }

@[simp] theorem identity_grow
    (limit : Nat)
    (event : Partial)
    (payload : Bytes) :
    (event.grow limit payload).identity = event.identity := by
  unfold grow
  split
  · rfl
  · split <;> rfl

/-- Growing by two chunks, one after the other, is growing by both at once. -/
theorem grow_grow
    (limit : Nat)
    (event : Partial)
    (front back : Bytes) :
    (event.grow limit front).grow limit back = event.grow limit (front ++ back) := by
  obtain ⟨identity, body, oversized⟩ := event
  cases oversized with
  | true => rfl
  | false =>
      simp only [grow, Bool.false_eq_true, ↓reduceIte, List.length_append]
      by_cases outgrown : limit < body.length + front.length
      · have outgrownByBoth : limit < body.length + (front.length + back.length) := by omega
        simp only [if_pos outgrown, if_pos outgrownByBoth, ↓reduceIte]
      · simp only [if_neg outgrown, Bool.false_eq_true, ↓reduceIte, List.length_append,
          Nat.add_assoc, List.append_assoc]

/-- A whole body is delivered unless it is longer than the limit. -/
theorem delivered_grow_fresh
    (limit : Nat)
    (identity : Identity)
    (body : Bytes) :
    ((fresh identity).grow limit body).delivered =
      if body.length ≤ limit then [⟨identity, body⟩] else [] := by
  simp only [grow, fresh, Bool.false_eq_true, ↓reduceIte, List.length_nil, Nat.zero_add]
  by_cases fits : body.length ≤ limit
  · rw [if_neg (Nat.not_lt.mpr fits), if_pos fits]
    rfl
  · rw [if_pos (Nat.lt_of_not_le fits), if_neg fits]
    rfl

end Partial

namespace Reassembly

/-- What is delivered of an event that ends without its last chunk. -/
def ending : Termination → Partial → List Parcel
  | .implicit, event => event.delivered
  | .emptyFrame, _ => []

/-- A frame of another event ends the held one. -/
def interrupt
    (termination : Termination)
    (identity : Identity) :
    Option Partial → List Parcel × Option Partial
  | none => ([], none)
  | some event =>
    if event.identity = identity then ([], some event)
    else (ending termination event, none)

/-- A frame continues the held event or begins one, and ends it unless more frames follow. -/
def absorb
    (limit : Nat)
    (held : Option Partial)
    (frame : Sealed) :
    List Parcel × Option Partial :=
  let event := (held.getD (.fresh frame.identity)).grow limit frame.payload
  if frame.continues then ([], some event) else (event.delivered, none)

/-- What a frame delivers, and the event held after it. -/
def take
    (termination : Termination)
    (limit : Nat)
    (held : Option Partial)
    (frame : Sealed) :
    List Parcel × Option Partial :=
  let interrupted := interrupt termination frame.identity held
  let absorbed := absorb limit interrupted.2 frame
  (interrupted.1 ++ absorbed.1, absorbed.2)

/-- What frames deliver one after the other, and the event held after them. -/
def run
    (termination : Termination)
    (limit : Nat) :
    Option Partial → List Sealed → List Parcel × Option Partial
  | held, [] => ([], held)
  | held, frame :: rest =>
    let taken := take termination limit held frame
    let later := run termination limit taken.2 rest
    (taken.1 ++ later.1, later.2)

/-- What the end of the stream delivers. -/
def close (termination : Termination) (held : Option Partial) : List Parcel :=
  held.elim [] (ending termination)

/-- What frames and then the end of the stream deliver. -/
def parcels
    (termination : Termination)
    (limit : Nat)
    (frames : List Sealed) :
    List Parcel :=
  let delivered := run termination limit none frames
  delivered.1 ++ close termination delivered.2

/-- What frames and then the end of the stream deliver behind a held event. -/
def completed
    (termination : Termination)
    (limit : Nat)
    (held : Option Partial)
    (frames : List Sealed) :
    List Parcel :=
  let followed := run termination limit held frames
  followed.1 ++ close termination followed.2

@[simp] theorem toList_head?_absorb
    (limit : Nat)
    (held : Option Partial)
    (frame : Sealed) :
    (absorb limit held frame).1.head?.toList = (absorb limit held frame).1 := by
  unfold absorb Partial.delivered
  dsimp only
  split
  · rfl
  · split <;> rfl

/-- An event that ends without its last chunk is delivered whole or not at all. -/
theorem ending_cases
    (termination : Termination)
    (event : Partial) :
    ending termination event = [] ∨ ∃ parcel, ending termination event = [parcel] := by
  cases termination with
  | emptyFrame => exact .inl rfl
  | implicit =>
      rw [ending, Partial.delivered]
      split
      · exact .inl rfl
      · exact .inr ⟨_, rfl⟩

/-- An interruption delivers nothing, or the held event alone, and then nothing is held. -/
theorem interrupt_cases
    (termination : Termination)
    (identity : Identity)
    (held : Option Partial) :
    (∃ kept, interrupt termination identity held = ([], kept)) ∨
      ∃ parcel, interrupt termination identity held = ([parcel], none) := by
  cases held with
  | none => exact .inl ⟨none, rfl⟩
  | some event =>
      by_cases same : event.identity = identity
      · exact .inl ⟨some event, if_pos same⟩
      · rw [interrupt, if_neg same]
        rcases ending_cases termination event with silent | ⟨parcel, ended⟩
        · exact .inl ⟨none, by rw [silent]⟩
        · exact .inr ⟨parcel, by rw [ended]⟩

theorem close_cases
    (termination : Termination)
    (held : Option Partial) :
    close termination held = [] ∨ ∃ parcel, close termination held = [parcel] := by
  cases held with
  | none => exact .inl rfl
  | some event => exact ending_cases termination event

theorem run_append
    (termination : Termination)
    (limit : Nat)
    (held : Option Partial)
    (front back : List Sealed) :
    run termination limit held (front ++ back) =
      let first := run termination limit held front
      let second := run termination limit first.2 back
      (first.1 ++ second.1, second.2) := by
  induction front generalizing held with
  | nil => rfl
  | cons frame rest inductionHypothesis =>
      simp only [List.cons_append, run, inductionHypothesis, List.append_assoc]

theorem completed_append
    (termination : Termination)
    (limit : Nat)
    (held : Option Partial)
    (front back : List Sealed) :
    completed termination limit held (front ++ back) =
      (run termination limit held front).1 ++
        completed termination limit (run termination limit held front).2 back := by
  simp only [completed, run_append, List.append_assoc]

section Outcomes

variable {termination : Termination} {limit : Nat} {held kept : Option Partial} {frame : Sealed}
  {parcels : List Parcel}

/-- An event that a frame ends is delivered as it would be at the end of the stream. -/
theorem ending_of_interrupt
    {identity : Identity}
    {event : Partial}
    {parcel : Parcel}
    (ended : interrupt termination identity (some event) = ([parcel], none)) :
    ending termination event = [parcel] := by
  by_cases alike : event.identity = identity
  · rw [interrupt, if_pos alike] at ended
    exact nomatch (Prod.mk.inj ended).1
  · rw [interrupt, if_neg alike] at ended
    exact (Prod.mk.inj ended).1

/-- What a frame leaves held was held before, and is of its identity. -/
theorem mem_of_interrupt
    {identity : Identity}
    {event : Partial}
    (interrupted : interrupt termination identity held = (parcels, kept))
    (member : event ∈ kept) :
    event ∈ held ∧ event.identity = identity := by
  cases held with
  | none =>
      cases interrupted
      exact nomatch member
  | some before =>
      by_cases same : before.identity = identity
      · rw [interrupt, if_pos same] at interrupted
        cases interrupted
        cases member
        exact ⟨rfl, same⟩
      · rw [interrupt, if_neg same] at interrupted
        cases interrupted
        exact nomatch member

theorem exists_mem_of_interrupt
    {identity : Identity}
    {parcel : Parcel}
    (ended : interrupt termination identity held = ([parcel], none)) :
    ∃ event ∈ held, parcel.identity = event.identity := by
  cases held with
  | none => exact nomatch ended
  | some event =>
      have closed := ending_of_interrupt ended
      cases termination with
      | emptyFrame => exact nomatch closed
      | implicit =>
          rw [ending, Partial.delivered] at closed
          split at closed
          · exact nomatch closed
          · cases closed
            exact ⟨event, rfl, rfl⟩

/-- What a frame delivers and what it leaves held is of its identity. -/
theorem identity_of_absorb
    (alike : ∀ event ∈ kept, event.identity = frame.identity)
    (absorbed : absorb limit kept frame = (parcels, held)) :
    (∀ parcel ∈ parcels, parcel.identity = frame.identity) ∧
      ∀ event ∈ held, event.identity = frame.identity := by
  have same : (kept.getD (.fresh frame.identity)).identity = frame.identity := by
    cases kept with
    | none => rfl
    | some event => exact alike event rfl
  unfold absorb at absorbed
  dsimp only at absorbed
  split at absorbed
  · cases absorbed
    refine ⟨nofun, fun event member => ?_⟩
    cases member
    rw [Partial.identity_grow, same]
  · cases absorbed
    refine ⟨fun parcel member => ?_, nofun⟩
    unfold Partial.delivered at member
    split at member
    · exact nomatch member
    · rw [List.mem_singleton.mp member, Partial.identity_grow, same]

/-- A frame that delivers an event leaves none held. -/
theorem held_of_delivered
    {parcel : Parcel}
    (absorbed : absorb limit kept frame = ([parcel], held)) :
    held = none := by
  unfold absorb at absorbed
  dsimp only at absorbed
  split at absorbed
  · exact nomatch (Prod.mk.inj absorbed).1
  · exact (Prod.mk.inj absorbed).2.symm

end Outcomes

end Reassembly

end Frame

end EventWire
