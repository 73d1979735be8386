import EventWire.Proofs.Frame.Backlog
import EventWire.Proofs.Frame.Holding

namespace EventWire

/-!
# Handing the stream over

When another layer takes the stream over, a decoder hands over the octets that it
has not used up.  What is seen of it from then on is what is seen of a fresh one
that holds the same event: the count of skipped octets goes on without any
effect, and the event whose end has not come is not given up.  A frame can
still continue that event, so the handover is clean exactly when there is none.
-/

namespace Frame

theorem Sealed.payload_ne_nil_of_continues
    {frame : Sealed}
    (continues : frame.continues = true) :
    frame.payload ≠ [] := by
  intro empty
  have size : frame.header.chunkSize = moreFollow := eq_of_beq continues
  have length := frame.length_payload
  rw [empty, Header.payloadLength, size] at length
  exact absurd length (by decide)

namespace Partial

/-- Some of the body has been kept, unless the event was dropped. -/
def Begun (event : Partial) : Prop :=
  event.oversized = true ∨ event.body ≠ []

theorem begun_grow
    {payload : Bytes}
    (some : payload ≠ [])
    (limit : Nat)
    (event : Partial) :
    (event.grow limit payload).Begun := by
  unfold grow
  split
  · next dropped => exact .inl dropped
  · split
    · exact .inl rfl
    · exact .inr fun empty => some (List.append_eq_nil_iff.mp empty).2

theorem grow_nil
    {limit : Nat}
    {event : Partial}
    (fits : event.body.length ≤ limit) :
    event.grow limit [] = event := by
  obtain ⟨identity, body, oversized⟩ := event
  cases oversized with
  | true => rfl
  | false =>
      have within : ¬ limit < body.length + 0 := Nat.not_lt.mpr fits
      simp only [grow, Bool.false_eq_true, ↓reduceIte, List.length_nil, if_neg within,
        List.append_nil]

/-- An event that has been begun is not delivered without a body. -/
theorem Begun.head?_delivered_ne
    {event : Partial}
    (begun : event.Begun)
    (identity : Identity) :
    event.delivered.head? ≠ some ⟨identity, []⟩ := by
  unfold delivered
  split
  · exact nofun
  · next kept =>
      intro same
      have body : event.body = [] := congrArg Parcel.body (Option.some.inj same)
      exact begun.elim kept fun some => some body

end Partial

theorem Reassembly.begun_of_absorb
    {limit : Nat}
    {kept held : Option Partial}
    {frame : Sealed}
    {parcels : List Parcel}
    (absorbed : absorb limit kept frame = (parcels, held)) :
    ∀ event ∈ held, event.Begun := by
  unfold absorb at absorbed
  dsimp only at absorbed
  split at absorbed
  · next continues =>
      cases absorbed
      intro event member
      cases member
      exact Partial.begun_grow (Sealed.payload_ne_nil_of_continues continues) limit _
  · cases absorbed
    exact nofun

namespace Decoder

section Held

variable {decoder next : Decoder} {atEnd : Bool} {deeds : List Deed} {result : Option Parcel}

/-- A call leaves an event that frames have begun, and none when it has returned one. -/
theorem Decodes.held
    (begun : ∀ event ∈ decoder.held, event.Begun)
    (decodes : Decodes atEnd decoder deeds result next) :
    (∀ event ∈ next.held, event.Begun) ∧ (result ≠ none → next.held = none) := by
  induction decodes with
  | waits searched => exact ⟨begun, fun returned => absurd rfl returned⟩
  | ends searched closed => exact ⟨nofun, fun _ => rfl⟩
  | releases searched stands ended => exact ⟨nofun, fun _ => rfl⟩
  | completes searched stands continued absorbed => exact ⟨nofun, fun _ => rfl⟩
  | absorbs searched stands continued absorbed later inductionHypothesis =>
      exact inductionHypothesis (Reassembly.begun_of_absorb absorbed)

theorem held_decode
    (begun : ∀ event ∈ decoder.held, event.Begun)
    (atEnd : Bool) :
    (∀ event ∈ (decoder.decode atEnd).value.2.held, event.Begun) ∧
      ((decoder.decode atEnd).value.1 ≠ none → (decoder.decode atEnd).value.2.held = none) := by
  obtain ⟨deeds, decodes⟩ := exists_decodes atEnd decoder
  exact decodes.held begun

theorem begun_performAll
    (begun : ∀ event ∈ decoder.held, event.Begun)
    (calls : List Call) :
    ∀ event ∈ (decoder.performAll calls).2.held, event.Begun := by
  induction calls generalizing decoder with
  | nil => exact begun
  | cons call later inductionHypothesis =>
      cases call with
      | push octets => exact @inductionHypothesis (decoder.push octets) begun
      | decode atEnd => exact inductionHypothesis (held_decode begun atEnd).1
      | takeRemaining => exact @inductionHypothesis decoder.takeRemaining.2 begun

end Held

section Passing

/-- The same decoder when it has passed over more octets before. -/
def passing (earlier : Nat) (decoder : Decoder) : Decoder :=
  { decoder with skipped := earlier + decoder.skipped }

variable (earlier : Nat) (decoder : Decoder)

theorem aligned_passing (skipped : Nat) :
    (decoder.passing earlier).aligned skipped = (decoder.aligned skipped).passing earlier := by
  simp only [aligned, passing, Nat.add_assoc]

theorem complete_passing (event : Partial) :
    (decoder.passing earlier).complete event =
      ((decoder.complete event).1, (decoder.complete event).2.passing earlier) := by
  unfold complete
  split <;> rfl

theorem value_release_passing (loss : Partial → Notice) :
    ((decoder.passing earlier).release loss).value =
      ((decoder.release loss).value.1, (decoder.release loss).value.2.passing earlier) := by
  obtain ⟨termination, maxEventSize, buffer, held, phase, skipped, verified⟩ := decoder
  cases held with
  | none => rfl
  | some event =>
      cases termination with
      | implicit =>
          exact complete_passing earlier
            ⟨.implicit, maxEventSize, buffer, none, phase, skipped, verified⟩ event
      | emptyFrame => rfl

theorem value_releaseFor_passing (identity : Identity) :
    ((decoder.passing earlier).releaseFor identity).value =
      ((decoder.releaseFor identity).value.1,
        (decoder.releaseFor identity).value.2.passing earlier) := by
  obtain ⟨termination, maxEventSize, buffer, held, phase, skipped, verified⟩ := decoder
  cases held with
  | none => rfl
  | some event =>
      by_cases same : event.identity = identity
      · simp only [releaseFor, passing, if_pos same, Noted.value_silent]
      · simp only [releaseFor, passing, if_neg same]
        exact value_release_passing earlier
          ⟨termination, maxEventSize, buffer, some event, phase, skipped, verified⟩ _

theorem value_accept_passing (header : Header) :
    ((decoder.passing earlier).accept header).value =
      ((decoder.accept header).value.1, (decoder.accept header).value.2.passing earlier) := by
  simp only [accept, Noted.value_bind, value_append]
  split
  · rfl
  · exact complete_passing earlier
      { decoder with buffer := decoder.buffer.drop header.length, held := none } _

theorem value_takeFrame_passing (skipped : Nat) (header : Header) :
    ((decoder.passing earlier).takeFrame skipped header).value =
      ((decoder.takeFrame skipped header).value.1,
        (decoder.takeFrame skipped header).value.2.passing earlier) := by
  rw [value_takeFrame, value_takeFrame, aligned_passing]
  dsimp only
  rw [value_releaseFor_passing]
  split
  · rfl
  · exact value_accept_passing earlier _ header

/-- How many octets have been passed over does not influence what a call does. -/
theorem value_decode_passing (decoder : Decoder) (atEnd : Bool) :
    ((decoder.passing earlier).decode atEnd).value =
      ((decoder.decode atEnd).value.1, (decoder.decode atEnd).value.2.passing earlier) := by
  match searched : rescan decoder.buffer atEnd decoder.verified with
  | .incomplete skipped needed =>
      rw [decode_of_incomplete searched,
        @decode_of_incomplete _ (decoder.passing earlier) _ _ searched]
      simp only [await, skip, passing, Noted.value_bind, Noted.value_pure, Nat.add_assoc]
      rfl
  | .exhausted =>
      rw [decode_of_exhausted searched, @decode_of_exhausted _ (decoder.passing earlier) searched]
      simp only [finish, Noted.value_bind]
      rw [← value_release_passing]
      simp only [passing, Nat.add_assoc]
  | .found skipped header =>
      have used := weight_takeFrame_lt (Scan.le_of_rescan_eq_found searched)
      rw [decode_of_found searched, @decode_of_found _ (decoder.passing earlier) _ _ searched,
        value_takeFrame_passing]
      split
      · rfl
      · exact value_decode_passing _ atEnd
termination_by decoder.weight

end Passing

section Observed

/--
What is seen of a decoder while calls are made: what each call returns, where the
decoder then stands, and how many octets it has passed over meanwhile.
-/
def observe (decoder : Decoder) : List Call → List (Reply × Phase × Nat)
  | [] => []
  | call :: later =>
    let performed := decoder.perform call
    (performed.1, performed.2.phase, performed.2.skipped - decoder.skipped) ::
      performed.2.observe later

theorem perform_passing (earlier : Nat) (decoder : Decoder) (call : Call) :
    (decoder.passing earlier).perform call =
      ((decoder.perform call).1, (decoder.perform call).2.passing earlier) := by
  cases call with
  | push octets => rfl
  | decode atEnd =>
      simp only [perform]
      rw [value_decode_passing]
  | takeRemaining => rfl

theorem observe_passing (earlier : Nat) (decoder : Decoder) (calls : List Call) :
    (decoder.passing earlier).observe calls = decoder.observe calls := by
  induction calls generalizing decoder with
  | nil => rfl
  | cons call later inductionHypothesis =>
      rw [observe, observe, perform_passing]
      dsimp only
      rw [inductionHypothesis]
      simp only [passing, Nat.add_sub_add_left]

/-- A decoder that has handed over is a fresh one, but for what it holds and has skipped. -/
theorem Steady.takeRemaining_eq
    {termination : Termination}
    {limit : Nat}
    {decoder : Decoder}
    (steady : decoder.Steady termination limit) :
    decoder.takeRemaining.2 =
      { Decoder.fresh termination limit with held := decoder.held }.passing decoder.skipped := by
  rw [Decoder.takeRemaining, steady.termination, steady.maxEventSize]
  rfl

/-- The last frame of an event, with nothing in it, delivers what was held of the event. -/
theorem decode_empty_last
    {decoder : Decoder}
    {event : Partial}
    (shape : decoder.buffer = (Sealed.last event.identity [] (by decide)).bytes)
    (unsearched : decoder.verified = 0)
    (continued : decoder.held.getD (.fresh event.identity) = event)
    (fits : event.body.length ≤ decoder.maxEventSize) :
    (decoder.decode false).value.1 = event.delivered.head? := by
  let frame := Sealed.last event.identity [] (by decide)
  have stands : frameAt? decoder.buffer 0 = some frame := by
    rw [shape, ← List.append_nil frame.bytes]
    exact Sealed.front?_bytes_append _ _
  have interrupted :
      Reassembly.interrupt decoder.termination frame.identity decoder.held =
        ([], decoder.held) := by
    cases held : decoder.held with
    | none => rfl
    | some kept =>
        rw [held, Option.getD_some] at continued
        rw [continued]
        exact if_pos rfl
  have absorbed :
      Reassembly.absorb decoder.maxEventSize decoder.held frame = (event.delivered, none) := by
    have grown :
        (decoder.held.getD (.fresh frame.identity)).grow decoder.maxEventSize [] = event := by
      rw [show frame.identity = event.identity from rfl, continued]
      exact Partial.grow_nil fits
    simp only [Reassembly.absorb, frame, Sealed.payload_last, Sealed.continues_last,
      Bool.false_eq_true, ↓reduceIte]
    rw [grown]
  obtain ⟨phase, taken⟩ := takeFrame_of_continued stands interrupted
  rw [absorbed] at taken
  rw [decode_of_found (rescan_of_front? stands (unsearched ▸ frame.length_pos)), taken]
  cases delivered : event.delivered.head? with
  | some parcel => rfl
  | none =>
      have left : decoder.buffer.drop (0 + frame.length) = [] := by
        rw [shape, Nat.zero_add, ← Sealed.length_bytes, List.drop_length]
      have empty : Holds { decoder.behind 0 frame none with phase := phase } [] :=
        ⟨left, rfl, rfl, List.forall_mem_nil _⟩
      obtain ⟨next, returned, -⟩ := empty.decode_nil false
      simp only [Option.isSome_none, Bool.false_eq_true, ↓reduceIte]
      rw [returned]

variable {termination : Termination} {limit : Nat}

/-- An event that frames have begun shows, since its last frame may follow with nothing in it. -/
theorem exists_observe_ne
    {event : Partial}
    (begun : event.Begun)
    (fits : event.body.length ≤ limit) :
    ∃ later,
      { Decoder.fresh termination limit with held := some event }.observe later ≠
        (Decoder.fresh termination limit).observe later := by
  let octets := (Sealed.last event.identity [] (by decide)).bytes
  let holding := { Decoder.fresh termination limit with held := some event }.push octets
  let empty := (Decoder.fresh termination limit).push octets
  refine ⟨[.push octets, .decode false], fun same => ?_⟩
  have held : (holding.decode false).value.1 = event.delivered.head? :=
    decode_empty_last rfl rfl rfl fits
  have begins : (empty.decode false).value.1 = some ⟨event.identity, []⟩ :=
    @decode_empty_last empty (.fresh event.identity) rfl rfl rfl (Nat.zero_le _)
  have replies := congrArg (fun seen => seen.map Prod.fst) same
  have returned : (holding.decode false).value.1 = (empty.decode false).value.1 := by
    simpa only [observe, perform, List.map_cons, List.map_nil, List.cons.injEq,
      Reply.decoded.injEq, true_and, and_true] using replies
  exact begun.head?_delivered_ne event.identity (held.symm.trans (returned.trans begins))

/--
A decoder that has handed over its octets is seen to do what a fresh one that
holds the same event does, and what a fresh one does exactly when no event is
held.  None is when the call before has returned one, as always where a stream
changes hands.
-/
theorem observe_takeRemaining
    (termination : Termination)
    (limit : Nat)
    (calls : List Call) :
    let fresh := Decoder.fresh termination limit
    let decoder := (fresh.performAll calls).2
    let left := decoder.takeRemaining.2
    (∀ later, left.observe later = { fresh with held := decoder.held }.observe later) ∧
      ((∀ later, left.observe later = fresh.observe later) ↔ decoder.held = none) ∧
      ∀ atEnd, (decoder.decode atEnd).value.1 ≠ none → ∀ later,
        (decoder.decode atEnd).value.2.takeRemaining.2.observe later = fresh.observe later := by
  intro fresh decoder left
  have steady : decoder.Steady termination limit :=
    (Steady.fresh termination limit).performAll calls
  have begun : ∀ event ∈ decoder.held, event.Begun := @begun_performAll fresh (by exact nofun) calls
  have seen (later : List Call) :
      left.observe later = { fresh with held := decoder.held }.observe later := by
    rw [show left = _ from steady.takeRemaining_eq, observe_passing]
  refine ⟨seen, ⟨fun clean => ?_, fun idle later => ?_⟩, fun atEnd returned later => ?_⟩
  · cases held : decoder.held with
    | none => rfl
    | some event =>
        obtain ⟨later, differ⟩ :=
          @exists_observe_ne termination limit event (begun event held)
            (steady.within event held)
        refine absurd (clean later) ?_
        rwa [seen, held]
  · rw [seen, idle]
    rfl
  · obtain ⟨-, idle⟩ := held_decode begun atEnd
    rw [(steady.decode atEnd).takeRemaining_eq, observe_passing, idle returned]
    rfl

/-- A full chunk is held, also when nothing is left to be handed over. -/
theorem takeRemaining_decode_full
    {decoder : Decoder}
    {identity : Identity}
    {chunk : Bytes}
    (filled : chunk.length = maxChunk)
    (shape : decoder.buffer = write identity moreFollow chunk)
    (idle : decoder.held = none)
    (unsearched : decoder.verified = 0)
    (fits : chunk.length ≤ decoder.maxEventSize) :
    (decoder.decode false).value.2.takeRemaining =
      ([],
        { decoder with
          buffer := []
          held := some ⟨identity, chunk, false⟩
          phase := .scanning
          verified := 0 }) := by
  let frame := Sealed.full identity chunk filled
  have stands : frameAt? decoder.buffer 0 = some frame := by
    rw [shape, ← List.append_nil (write identity moreFollow chunk)]
    exact Sealed.front?_bytes_append frame _
  have absorbed :
      Reassembly.absorb decoder.maxEventSize none frame =
        ([], some ⟨identity, chunk, false⟩) := by
    have grown :=
      @Reassembly.grow_of_le decoder.maxEventSize identity [] chunk (by simpa using fits)
    simp only [Reassembly.absorb, frame, Sealed.identity_full, Sealed.payload_full,
      Sealed.continues_full, ↓reduceIte, Option.getD_none, Partial.fresh, grown, List.nil_append]
  have interrupted :
      Reassembly.interrupt decoder.termination frame.identity decoder.held = ([], none) := by
    rw [idle]
    rfl
  have left : decoder.buffer.drop (0 + frame.length) = [] := by
    rw [shape, Nat.zero_add, ← Sealed.length_bytes]
    exact List.drop_length
  obtain ⟨phase, taken⟩ := takeFrame_of_continued stands interrupted
  rw [absorbed] at taken
  rw [decode_of_found (rescan_of_front? stands (unsearched ▸ frame.length_pos)), taken]
  have waits : rescan (decoder.buffer.drop (0 + frame.length)) false 0 =
      .incomplete 0 headerLength := by
    rw [left]
    rfl
  simp only [List.head?_nil, Option.isSome_none, Bool.false_eq_true, ↓reduceIte, behind]
  rw [decode_of_incomplete waits]
  simp only [await, skip, Noted.value_bind, takeRemaining, left, List.drop_nil]
  rfl

/-- What is held goes on with the frames that arrive behind the handover. -/
theorem decode_last_of_held
    {held : Option Partial}
    {identity : Identity}
    {front body : Bytes}
    (continued : held.getD (.fresh identity) = ⟨identity, front, false⟩)
    (short : body.length < maxChunk)
    (fits : front.length + body.length ≤ limit) :
    let holding := { Decoder.fresh .emptyFrame limit with held := held }
    ((holding.push (write identity (UInt16.ofNat body.length) body)).decode false).value.1 =
      some ⟨identity, front ++ body⟩ := by
  intro holding
  have carriers := carriersOf_of_lt short .emptyFrame identity
  obtain ⟨phase, decoded⟩ :=
    @decode_of_carriersOf (holding.push (write identity (UInt16.ofNat body.length) body)) false []
      identity front body
      (by rw [carriers, List.flatMap_singleton]; exact (List.append_nil _).symm) continued
      (by rw [carriers]; exact fun frame _ => frame.length_pos) fits
  rw [decoded]

/-- A chunk decoded before the handover is joined to a chunk that arrives behind it. -/
theorem performAll_across_handover
    {identity : Identity}
    {chunk body : Bytes}
    (filled : chunk.length = maxChunk)
    (short : body.length < maxChunk)
    (fits : chunk.length + body.length ≤ limit) :
    let fresh := Decoder.fresh .emptyFrame limit
    let decoder := (fresh.performAll [.push (write identity moreFollow chunk), .decode false]).2
    let later := [.push (write identity (UInt16.ofNat body.length) body), .decode false]
    decoder.takeRemaining.1 = [] ∧
      decoder.takeRemaining.2.phase = .scanning ∧
      (decoder.takeRemaining.2.performAll later).1 =
        [.pushed, .decoded (some ⟨identity, chunk ++ body⟩)] ∧
      (fresh.performAll later).1 = [.pushed, .decoded (some ⟨identity, body⟩)] := by
  intro fresh decoder later
  have left : decoder.takeRemaining =
      ([], { fresh with held := some ⟨identity, chunk, false⟩ }) :=
    takeRemaining_decode_full filled rfl rfl rfl (Nat.le_of_add_right_le fits)
  have replied (holding : Decoder) :
      (holding.performAll later).1 =
        [.pushed, .decoded
          ((holding.push (write identity (UInt16.ofNat body.length) body)).decode false).value.1] :=
    rfl
  refine ⟨by rw [left], by rw [left]; rfl, ?_, ?_⟩
  · rw [left, replied, decode_last_of_held rfl short fits]
  · have alone := @decode_last_of_held limit none identity [] body rfl short
      (by rw [List.length_nil, Nat.zero_add]; exact Nat.le_of_add_left_le fits)
    rw [replied]
    exact congrArg (fun parcel => [Reply.pushed, .decoded parcel]) alone

/-- An event that is decoded behind a handover begins with what was decoded before. -/
theorem joined_across_handover :
    let identity : Identity := ⟨⟨1, 2⟩, ⟨3, 4⟩⟩
    let chunk : Bytes := List.replicate 65535 0
    let fresh := Decoder.fresh .emptyFrame Decoder.defaultMaxEventSize
    let decoder := (fresh.performAll [.push (write identity moreFollow chunk), .decode false]).2
    let later := [.push (write identity 1 [7]), .decode false]
    decoder.takeRemaining.1 = [] ∧
      decoder.takeRemaining.2.phase = .scanning ∧
      (decoder.takeRemaining.2.performAll later).1 =
        [.pushed, .decoded (some ⟨identity, chunk ++ [7]⟩)] ∧
      (fresh.performAll later).1 = [.pushed, .decoded (some ⟨identity, [7]⟩)] := by
  intro identity chunk
  have filled : chunk.length = maxChunk := List.length_replicate
  have fits : chunk.length + [(7 : UInt8)].length ≤ Decoder.defaultMaxEventSize := by
    rw [filled]
    decide
  generalize chunk = front at *
  generalize Decoder.defaultMaxEventSize = limit at *
  exact @performAll_across_handover limit identity front [7] filled (by decide) fits

end Observed

end Decoder

end Frame

end EventWire
