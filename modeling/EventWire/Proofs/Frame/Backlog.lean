import EventWire.Proofs.Frame.Calls
import EventWire.Proofs.Frame.Isolation

namespace EventWire

/-!
# What a decoder keeps back

A decoder that has no event to return has taken every frame that has arrived.
What it keeps is the unfinished candidate at the front, which a header bounds,
and the event whose end has not come, which the limit bounds.  Both hold after
any calls, since a search never passes over a candidate that could still become
a frame and remembers only what it has judged.
-/

namespace Frame

/-- The candidate at the front has not fully arrived, or not even its header. -/
structure Truncated (octets : Bytes) : Prop where
  short : octets.length < headerLength + maxChunk
  lacking :
    octets.length < headerLength ∨
      ∃ header behind,
        Header.parse? octets = some (header, behind) ∧ octets.length < header.length

/-- What lacks octets is less than one frame. -/
theorem truncated_of_shortage_pos
    {octets : Bytes}
    (lacking : 0 < shortage octets) :
    Truncated octets := by
  unfold shortage at lacking
  split at lacking
  · next missing =>
      have few : octets.length < headerLength := by omega
      exact ⟨Nat.lt_of_lt_of_le few (Nat.le_add_right _ _), .inl few⟩
  · next header behind parsed =>
      have few : octets.length < header.length := by omega
      have largest : header.payloadLength ≤ maxChunk :=
        Nat.le_of_lt_succ header.chunkSize.toNat_lt
      refine ⟨?_, .inr ⟨header, behind, parsed, few⟩⟩
      rw [Header.length] at few
      omega

namespace Partial

theorem length_body_grow
    {limit : Nat}
    {event : Partial}
    (fits : event.body.length ≤ limit)
    (payload : Bytes) :
    (event.grow limit payload).body.length ≤ limit := by
  unfold grow
  split
  · exact fits
  · split
    · exact Nat.zero_le _
    · next within =>
        rw [List.length_append]
        exact Nat.le_of_not_lt within

end Partial

namespace Reassembly

/-- The body of the held event is within the limit. -/
def Within (limit : Nat) (held : Option Partial) : Prop :=
  ∀ event ∈ held, event.body.length ≤ limit

section Step

variable {termination : Termination} {limit : Nat} {held kept : Option Partial} {frame : Sealed}
  {parcels : List Parcel}

theorem within_none : Within limit none := by
  intro event member
  exact nomatch member

theorem Within.interrupt
    {identity : Identity}
    (within : Within limit held)
    (interrupted : interrupt termination identity held = (parcels, kept)) :
    Within limit kept := by
  cases held with
  | none =>
      cases interrupted
      exact within_none
  | some event =>
      by_cases same : event.identity = identity
      · rw [Reassembly.interrupt, if_pos same] at interrupted
        cases interrupted
        exact within
      · rw [Reassembly.interrupt, if_neg same] at interrupted
        cases interrupted
        exact within_none

/-- The event that a frame goes into. -/
theorem Within.getD
    (within : Within limit held)
    (identity : Identity) :
    (held.getD (.fresh identity)).body.length ≤ limit := by
  cases held with
  | none => exact Nat.zero_le _
  | some event => exact within event rfl

theorem Within.absorb
    (within : Within limit kept)
    (absorbed : absorb limit kept frame = (parcels, held)) :
    Within limit held := by
  unfold Reassembly.absorb at absorbed
  dsimp only at absorbed
  split at absorbed
  · cases absorbed
    intro event member
    cases member
    exact Partial.length_body_grow (within.getD frame.identity) frame.payload
  · cases absorbed
    exact within_none

end Step

end Reassembly

namespace Decoder

/-- What every call leaves true of a decoder with a policy and a limit. -/
structure Steady (termination : Termination) (limit : Nat) (decoder : Decoder) : Prop where
  termination : decoder.termination = termination
  maxEventSize : decoder.maxEventSize = limit
  sound : decoder.Sound
  within : Reassembly.Within limit decoder.held

namespace Steady

variable {termination : Termination} {limit : Nat} {decoder next : Decoder} {atEnd : Bool}
  {deeds : List Deed} {result : Option Parcel}

theorem fresh
    (termination : Termination)
    (limit : Nat) :
    (fresh termination limit).Steady termination limit where
  termination := rfl
  maxEventSize := rfl
  sound := .of_verified_eq_zero rfl
  within := Reassembly.within_none

theorem push
    (steady : decoder.Steady termination limit)
    (octets : Bytes) :
    (decoder.push octets).Steady termination limit where
  termination := steady.termination
  maxEventSize := steady.maxEventSize
  sound := steady.sound.push octets
  within := steady.within

theorem takeRemaining (steady : decoder.Steady termination limit) :
    decoder.takeRemaining.2.Steady termination limit where
  termination := steady.termination
  maxEventSize := steady.maxEventSize
  sound := .of_verified_eq_zero rfl
  within := steady.within

/-- Behind a frame nothing has been searched, and the event with it is within the limit. -/
theorem absorb
    {skipped : Nat}
    {frame : Sealed}
    {kept held : Option Partial}
    {parcels : List Parcel}
    {phase : Phase}
    (steady : decoder.Steady termination limit)
    (continued :
      Reassembly.interrupt decoder.termination frame.identity decoder.held = ([], kept))
    (absorbed : Reassembly.absorb decoder.maxEventSize kept frame = (parcels, held)) :
    Steady termination limit { decoder.behind skipped frame held with phase := phase } where
  termination := steady.termination
  maxEventSize := steady.maxEventSize
  sound := .of_verified_eq_zero rfl
  within := by
    rw [steady.maxEventSize] at absorbed
    exact (steady.within.interrupt continued).absorb absorbed

theorem decodes
    (steady : decoder.Steady termination limit)
    (decodes : Decodes atEnd decoder deeds result next) :
    next.Steady termination limit := by
  induction decodes with
  | waits searched =>
      exact ⟨steady.termination, steady.maxEventSize, steady.sound.await searched, steady.within⟩
  | ends searched closed =>
      exact
        ⟨steady.termination, steady.maxEventSize, .of_verified_eq_zero rfl, Reassembly.within_none⟩
  | releases searched stands ended =>
      exact
        ⟨steady.termination, steady.maxEventSize, .of_verified_eq_zero rfl, Reassembly.within_none⟩
  | completes searched stands continued absorbed => exact steady.absorb continued absorbed
  | absorbs searched stands continued absorbed later inductionHypothesis =>
      exact inductionHypothesis (steady.absorb continued absorbed)

theorem decode
    (steady : decoder.Steady termination limit)
    (atEnd : Bool) :
    (decoder.decode atEnd).value.2.Steady termination limit := by
  obtain ⟨deeds, decodes⟩ := exists_decodes atEnd decoder
  exact steady.decodes decodes

theorem perform
    (steady : decoder.Steady termination limit)
    (call : Call) :
    (decoder.perform call).2.Steady termination limit := by
  cases call with
  | push octets => exact steady.push octets
  | decode atEnd => exact steady.decode atEnd
  | takeRemaining => exact steady.takeRemaining

theorem performAll
    (steady : decoder.Steady termination limit)
    (calls : List Call) :
    (decoder.performAll calls).2.Steady termination limit := by
  induction calls generalizing decoder with
  | nil => exact steady
  | cons call later inductionHypothesis => exact inductionHypothesis (steady.perform call)

/-- A call that returns no event leaves no frame behind, and at the end nothing at all. -/
theorem starved
    (steady : decoder.Steady termination limit)
    (decodes : Decodes atEnd decoder deeds result next)
    (none : result = none) :
    (atEnd = false → (∀ offset, frameAt? next.buffer offset = Option.none) ∧
        Truncated next.buffer) ∧
      (atEnd = true → next.buffer = [] ∧ next.held = Option.none) := by
  induction decodes with
  | waits searched =>
      obtain ⟨-, -, lacking, -⟩ := lacking_of_rescan searched
      refine ⟨fun _ => ⟨steady.sound.frameAt?_await searched, ?_⟩, fun ended => ?_⟩
      · exact truncated_of_shortage_pos lacking
      · rw [atEnd_of_rescan_incomplete searched] at ended
        exact nomatch ended
  | ends searched closed =>
      refine ⟨fun goesOn => ?_, fun _ => ⟨rfl, rfl⟩⟩
      rw [atEnd_of_rescan_exhausted searched] at goesOn
      exact nomatch goesOn
  | releases searched stands ended => exact nomatch none
  | completes searched stands continued absorbed => exact nomatch none
  | absorbs searched stands continued absorbed later inductionHypothesis =>
      exact inductionHypothesis (steady.absorb continued absorbed) none

end Steady

end Decoder

/--
After any calls the held body is within the limit.  A decoder with no event to
return keeps less than one frame of an open stream, whose front is unfinished,
and nothing of one that has ended.
-/
theorem backlog_of_decode
    (termination : Termination)
    (limit : Nat)
    (calls : List Decoder.Call) :
    let decoder := ((Decoder.fresh termination limit).performAll calls).2
    (∀ event ∈ decoder.held, event.body.length ≤ limit) ∧
      ((decoder.decode false).value.1 = none →
        let next := (decoder.decode false).value.2
        (∀ offset, frameAt? next.buffer offset = none) ∧
          next.buffer.length ≤ 65550 ∧
          (next.buffer.length < headerLength ∨
            ∃ header behind,
              Header.parse? next.buffer = some (header, behind) ∧
                next.buffer.length < header.length)) ∧
      ((decoder.decode true).value.1 = none →
        let next := (decoder.decode true).value.2
        next.buffer = [] ∧ next.held = none) := by
  intro decoder
  have steady := (Decoder.Steady.fresh termination limit).performAll calls
  obtain ⟨_, waits⟩ := Decoder.exists_decodes false decoder
  obtain ⟨_, ends⟩ := Decoder.exists_decodes true decoder
  refine ⟨steady.within, fun none => ?_, fun none => (steady.starved ends none).2 rfl⟩
  obtain ⟨empty, truncated⟩ := (steady.starved waits none).1 rfl
  exact ⟨empty, Nat.le_of_lt_succ truncated.short, truncated.lacking⟩

theorem backlog_of_decode_damaged_length :
    let identity : Identity := ⟨⟨1, 2⟩, ⟨3, 4⟩⟩
    let octets := write identity 200 [1, 2]
    let decoder := ((Decoder.fresh .emptyFrame 16).performAll [.push octets]).2
    ((decoder.decode false).value.1 = none ∧ (decoder.decode true).value.1 = none) ∧
      (∀ offset, frameAt? (decoder.decode false).value.2.buffer offset = none) ∧
      (decoder.decode false).value.2.buffer.length ≤ 65550 ∧
      (decoder.decode true).value.2.buffer = [] := by
  intro identity octets decoder
  have waits : rescan decoder.buffer false decoder.verified = .incomplete 0 198 := by
    decide +kernel
  have ends : rescan decoder.buffer true decoder.verified = .exhausted := by
    decide +kernel
  have nothing : (decoder.decode false).value.1 = none := by
    rw [Decoder.decode_of_incomplete waits]
  have nothingLeft : (decoder.decode true).value.1 = none := by
    rw [Decoder.decode_of_exhausted ends]
    rfl
  obtain ⟨-, stillOpen, ended⟩ := backlog_of_decode .emptyFrame 16 [.push octets]
  obtain ⟨empty, short, -⟩ := stillOpen nothing
  exact ⟨⟨nothing, nothingLeft⟩, empty, short, (ended nothingLeft).1⟩

end Frame

end EventWire
