import EventWire.Proofs.Frame.Backlog
import EventWire.Proofs.Frame.Turns

namespace EventWire

/-!
# Where a decoder says it stands

A decoder notes its phase whenever an event is begun, completed or dropped, also
in the middle of a call.  What counts is the last turn of the call: whatever was
noted before, the phase then agrees with what the call has returned and with
what the decoder keeps back.
-/

namespace Frame.Decoder

/-- What has returned an event is done, and holds none. -/
def Concluded (outcome : Option Parcel × Decoder) : Prop :=
  outcome.1 ≠ none → outcome.2.phase = .done ∧ outcome.2.held = none

section Concluding

variable {decoder : Decoder}

theorem concluded_complete
    (idle : decoder.held = none)
    (event : Partial) :
    Concluded (decoder.complete event) := by
  intro returned
  unfold complete at returned ⊢
  split at returned
  · exact absurd rfl returned
  · next kept =>
      rw [if_neg kept]
      exact ⟨rfl, idle⟩

theorem concluded_release (decoder : Decoder) (loss : Partial → Notice) :
    Concluded (decoder.release loss).value := by
  unfold release
  split
  · exact fun returned => absurd rfl returned
  · split
    · exact concluded_complete rfl _
    · exact fun returned => absurd rfl returned

theorem concluded_releaseFor (decoder : Decoder) (identity : Identity) :
    Concluded (decoder.releaseFor identity).value := by
  unfold releaseFor
  split
  · exact fun returned => absurd rfl returned
  · split
    · exact fun returned => absurd rfl returned
    · exact concluded_release decoder interruptedNotice

theorem concluded_accept (decoder : Decoder) (header : Header) :
    Concluded (decoder.accept header).value := by
  simp only [accept, Noted.value_bind]
  split
  · exact fun returned => absurd rfl returned
  · exact concluded_complete rfl _

theorem concluded_takeFrame (decoder : Decoder) (skipped : Nat) (header : Header) :
    Concluded (decoder.takeFrame skipped header).value := by
  rw [value_takeFrame]
  dsimp only
  split
  · exact concluded_releaseFor _ header.identity
  · exact concluded_accept _ header

theorem concluded_finish (decoder : Decoder) : Concluded decoder.finish.value :=
  concluded_release _ unfinishedNotice

end Concluding

/-- A decoder that holds neither octets nor an event, as a fresh one. -/
structure Emptied (decoder : Decoder) : Prop where
  buffer : decoder.buffer = []
  held : decoder.held = none
  phase : decoder.phase = .scanning
  verified : decoder.verified = 0

/-- Nothing is left at the end of the stream when no event is returned. -/
theorem emptied_finish
    {decoder : Decoder}
    (nothing : decoder.finish.value.1 = none) :
    decoder.finish.value.2.Emptied := by
  obtain ⟨termination, maxEventSize, buffer, held, phase, skipped, verified⟩ := decoder
  simp only [finish, Noted.value_bind, release] at nothing ⊢
  cases held with
  | none => exact ⟨rfl, rfl, rfl, rfl⟩
  | some event =>
      cases termination with
      | emptyFrame => exact ⟨rfl, rfl, rfl, rfl⟩
      | implicit =>
          simp only [Noted.value_silent, complete] at nothing ⊢
          split at nothing
          · next dropped =>
              rw [if_pos dropped]
              exact ⟨rfl, rfl, rfl, rfl⟩
          · exact absurd nothing (Option.some_ne_none _)

/-- A header is buffered when the octets at the front lack some of its payload. -/
theorem headed_iff_of_shortage_pos
    {octets : Bytes}
    (lacking : 0 < shortage octets) :
    headerLength ≤ octets.length ↔
      ∃ header behind,
        Header.parse? octets = some (header, behind) ∧ octets.length < header.length := by
  constructor
  · intro headed
    exact (truncated_of_shortage_pos lacking).lacking.resolve_left (Nat.not_lt.mpr headed)
  · rintro ⟨header, behind, parsed, -⟩
    refine Nat.le_of_not_lt fun short => ?_
    rw [Header.parse?_eq_none_iff.mpr short] at parsed
    exact nomatch parsed

section LastTurn

variable {atEnd : Bool} {decoder next : Decoder} {result : Option Parcel}

theorem Turned.concluded (turned : Turned atEnd decoder (.ends result next)) :
    Concluded (result, next) := by
  cases turned with
  | waits _ => exact fun returned => absurd rfl returned
  | finishes _ => exact concluded_finish decoder
  | @completes skipped header _ _ _ taken =>
      rw [← taken]
      exact concluded_takeFrame decoder skipped header

/-- A call that returns nothing while the stream is open leaves a decoder that waits. -/
theorem Turned.exists_await (turned : Turned false decoder (.ends none next)) :
    ∃ skipped, next = (decoder.await skipped).value ∧ 0 < shortage next.buffer := by
  generalize returned : (none : Option Parcel) = result at turned
  cases turned with
  | @waits skipped _ searched => exact ⟨skipped, rfl, (lacking_of_rescan searched).2.2.1⟩
  | finishes searched => exact nomatch atEnd_of_rescan_exhausted searched
  | completes _ _ => exact nomatch returned

/-- A call that returns nothing at the end of the stream leaves nothing. -/
theorem Turned.emptied (turned : Turned true decoder (.ends none next)) :
    next.Emptied := by
  generalize returned : (none : Option Parcel) = result at turned
  cases turned with
  | waits searched => exact nomatch atEnd_of_rescan_incomplete searched
  | finishes _ => exact emptied_finish returned.symm
  | completes _ _ => exact nomatch returned

end LastTurn

/--
Right behind a call the phase is true.  When the call has returned an event, the
decoder is done and holds none.  When it has returned nothing of an open stream,
the decoder is reassembling if it holds an event, and otherwise it awaits a
payload if it has buffered a header, and with the header always less than its
payload.  At the end of the stream nothing is left.
-/
theorem phase_of_decode (decoder : Decoder) (atEnd : Bool) :
    let result := (decoder.decode atEnd).value.1
    let next := (decoder.decode atEnd).value.2
    (result ≠ none → next.phase = .done ∧ next.held = none) ∧
      (result = none → atEnd = false →
        (next.phase = .reassembling ↔ next.held.isSome) ∧
          (next.held = none →
            (next.phase = .awaitingPayload ↔ headerLength ≤ next.buffer.length) ∧
              (next.phase = .scanning ↔ next.buffer.length < headerLength)) ∧
          (headerLength ≤ next.buffer.length ↔
            ∃ header behind,
              Header.parse? next.buffer = some (header, behind) ∧
                next.buffer.length < header.length)) ∧
      (result = none → atEnd = true →
        next.phase = .scanning ∧ next.buffer = [] ∧ next.held = none) := by
  intro result next
  obtain ⟨last, turned⟩ := exists_last_turn atEnd decoder
  refine ⟨turned.concluded, fun nothing goesOn => ?_, fun nothing ended => ?_⟩
  · change Turned atEnd last (.ends result next) at turned
    rw [nothing, goesOn] at turned
    obtain ⟨skipped, waiting, lacking⟩ := turned.exists_await
    have phase :
        next.phase =
          if next.held.isSome then .reassembling
          else if headerLength ≤ next.buffer.length then .awaitingPayload
          else .scanning := by
      rw [waiting]
      rfl
    refine ⟨?_, fun idle => ?_, headed_iff_of_shortage_pos lacking⟩
    · rw [phase]
      split
      · next holds => exact iff_of_true rfl holds
      · next idle => split <;> exact iff_of_false nofun idle
    · rw [phase, idle]
      simp only [Option.isSome_none, Bool.false_eq_true, ↓reduceIte]
      split
      · next headed => exact ⟨iff_of_true rfl headed, iff_of_false nofun (Nat.not_lt.mpr headed)⟩
      · next short => exact ⟨iff_of_false nofun short, iff_of_true rfl (Nat.lt_of_not_le short)⟩
  · change Turned atEnd last (.ends result next) at turned
    rw [nothing, ended] at turned
    exact ⟨turned.emptied.phase, turned.emptied.buffer, turned.emptied.held⟩

theorem phase_of_decode_damaged_length :
    let octets := write ⟨⟨1, 2⟩, ⟨3, 4⟩⟩ 200 [1, 2]
    let decoder := ((fresh .emptyFrame 16).performAll [.push octets]).2
    ((decoder.decode false).value.1 = none ∧
        (decoder.decode false).value.2.phase = .awaitingPayload) ∧
      ((decoder.decode true).value.1 = none ∧
        (decoder.decode true).value.2.phase = .scanning) := by
  intro octets decoder
  have waits : rescan decoder.buffer false decoder.verified = .incomplete 0 198 := by
    decide +kernel
  have ends : rescan decoder.buffer true decoder.verified = .exhausted := by
    decide +kernel
  have decoded := decode_of_incomplete waits
  have nothing : (decoder.decode false).value.1 = none := by
    rw [decoded]
  have nothingLeft : (decoder.decode true).value.1 = none := by
    rw [decode_of_exhausted ends]
    rfl
  have idle : (decoder.decode false).value.2.held = none := by
    rw [decoded]
    rfl
  have headed : headerLength ≤ (decoder.decode false).value.2.buffer.length := by
    rw [decoded]
    decide +kernel
  obtain ⟨-, stillOpen, -⟩ := phase_of_decode decoder false
  obtain ⟨-, -, ended⟩ := phase_of_decode decoder true
  obtain ⟨-, standing, -⟩ := stillOpen nothing rfl
  exact ⟨⟨nothing, (standing idle).1.mpr headed⟩, nothingLeft, (ended nothingLeft rfl).1⟩

end Frame.Decoder

end EventWire
