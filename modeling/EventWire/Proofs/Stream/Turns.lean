import EventWire.Proofs.Stream.Agreement
import EventWire.Proofs.Stream.Reading

namespace EventWire

/-!
# An end that takes its turns

An end negotiates and then reads, while octets arrive.  Each time it has a turn
it goes on with the handshake, and when that is over it reads.  The clock matters
only to its call, so what happens afterwards never breaks off.
-/

namespace Outcome

/-- Whether an operation has come to anything. -/
def isSettled {Value : Type} : Outcome Value → Bool
  | blocked _ => false
  | _ => true

theorem isSettled_iff
    {Value : Type}
    {outcome : Outcome Value} :
    outcome.isSettled = true ↔ ∀ wait, outcome ≠ .blocked wait := by
  cases outcome with
  | blocked wait =>
      exact ⟨fun settled => absurd settled Bool.false_ne_true,
        fun unblocked => absurd rfl (unblocked wait)⟩
  | _ => exact ⟨(fun _ _ same => by cases same), fun _ => rfl⟩

/-- The opaque octets that an outcome hands over. -/
def payload : Outcome Event → Bytes
  | done (.raw octets) => octets
  | _ => []

end Outcome

namespace Stream

/-- The octets that arrive when something happens. -/
def Occurrence.octets : Occurrence → Bytes
  | arrival octets => octets
  | _ => []

/-- All octets that arrive while things happen. -/
def arriving (occurrences : List Occurrence) : Bytes :=
  occurrences.flatMap Occurrence.octets

/-- Whether the peer closes while things happen. -/
def closing (occurrences : List Occurrence) : Bool :=
  occurrences.contains .peerCloses

/-- An end takes its turns while octets arrive, until its peer closes or for ever. -/
inductive Orderly : List Occurrence → Prop where
  | nil : Orderly []
  | read
      {occurrences : List Occurrence}
      (later : Orderly occurrences) :
      Orderly (.read :: occurrences)
  | arrival
      {occurrences : List Occurrence}
      (octets : Bytes)
      (later : Orderly occurrences) :
      Orderly (.arrival octets :: occurrences)
  | peerCloses
      {occurrences : List Occurrence}
      (silent : arriving occurrences = [])
      (later : Orderly occurrences) :
      Orderly (.peerCloses :: occurrences)

/-- Another turn at the end brings nothing more. -/
theorem Orderly.append_read
    {occurrences : List Occurrence}
    (orderly : Orderly occurrences) :
    Orderly (occurrences ++ [.read]) ∧
      arriving (occurrences ++ [.read]) = arriving occurrences ∧
      closing (occurrences ++ [.read]) = closing occurrences := by
  have same (occurrences : List Occurrence) :
      arriving (occurrences ++ [.read]) = arriving occurrences := by
    rw [arriving, List.flatMap_append]
    exact List.append_nil _
  refine ⟨?_, same occurrences, ?_⟩
  · induction orderly with
    | nil => exact .read .nil
    | read _ inductionHypothesis => exact .read inductionHypothesis
    | arrival octets _ inductionHypothesis => exact .arrival octets inductionHypothesis
    | @peerCloses occurrences silent _ inductionHypothesis =>
        exact .peerCloses ((same occurrences).trans silent) inductionHypothesis
  · simp [closing]

end Stream

namespace Party

open EventWire.Stream

/-- An end goes on with its handshake; once that is over it reads. -/
def turn (party : Party) : List (Outcome Event) × Party :=
  match party.call with
  | some (.done _) =>
    ([party.stream.read.value.1], { party with stream := party.stream.read.value.2 })
  | _ => ([], party.proceed)

/-- Something happens at an end, with what it reads; a read is its turn to go on. -/
def meet (party : Party) : Occurrence → List (Outcome Event) × Party
  | .read => party.turn
  | occurrence => ([], { party with stream := occurrence.after party.stream })

/-- Things happen at an end one after the other. -/
def meetAll (party : Party) : List Occurrence → List (Outcome Event) × Party
  | [] => ([], party)
  | occurrence :: later =>
    let met := party.meet occurrence
    let others := met.2.meetAll later
    (met.1 ++ others.1, others.2)

/-- A turn at some instant, unless it breaks off. -/
def turnAt
    (clock : Clock)
    (now : clock.Instant)
    (party : Party) :
    Option (List (Outcome Event) × Party) :=
  match party.call with
  | some (.done _) =>
    (party.stream.readAt clock now).map fun read =>
      ([read.value.1], { party with stream := read.value.2 })
  | _ => (party.proceedAt clock now).map fun next => ([], next)

/-- Something happens at an end at some instant, unless it breaks off. -/
def meetAt
    (clock : Clock)
    (now : clock.Instant)
    (party : Party) :
    Occurrence → Option (List (Outcome Event) × Party)
  | .read => party.turnAt clock now
  | occurrence => some (party.meet occurrence)

/-- Things happen at an end that calls at some instant, unless one of them breaks off. -/
def meetAllAt
    (clock : Clock)
    (now : clock.Instant)
    (party : Party) :
    List Occurrence → Option (List (Outcome Event) × Party)
  | [] => some ([], party)
  | occurrence :: later => do
    let met ← party.meetAt clock now occurrence
    let others ← met.2.meetAllAt clock now later
    return (met.1 ++ others.1, others.2)

theorem meetAll_append
    (party : Party)
    (occurrences later : List Occurrence) :
    party.meetAll (occurrences ++ later) =
      ((party.meetAll occurrences).1 ++ ((party.meetAll occurrences).2.meetAll later).1,
        ((party.meetAll occurrences).2.meetAll later).2) := by
  induction occurrences generalizing party with
  | nil => rfl
  | cons occurrence rest inductionHypothesis =>
      rw [List.cons_append, meetAll, meetAll, inductionHypothesis, List.append_assoc]

/-- What the call of an end has returned is agreed at its stream. -/
def Faithful (party : Party) : Prop :=
  ∀ agreed, party.call = some (.done agreed) → party.stream.negotiated = some agreed

section Instants

variable {party : Party}

theorem faithful_of_uncalled (uncalled : party.call = none) : party.Faithful :=
  fun _ called => nomatch uncalled.symm.trans called

theorem Faithful.proceed (faithful : party.Faithful) : party.proceed.Faithful := by
  intro agreed called
  obtain ⟨stream, role, call⟩ := party
  cases call with
  | none => exact negotiated_negotiate (Prod.ext (Option.some.inj called) rfl)
  | some outcome =>
      cases outcome with
      | done _ => exact faithful agreed called
      | failed _ => exact nomatch called
      | blocked _ => exact negotiated_continueHandshake (Prod.ext (Option.some.inj called) rfl)

theorem Faithful.meet
    (faithful : party.Faithful)
    (occurrence : Occurrence) :
    (party.meet occurrence).2.Faithful := by
  cases occurrence with
  | read =>
      rw [Party.meet, turn]
      split
      · next returned called =>
          intro agreed same
          have negotiated := faithful agreed same
          exact (negotiated_read (Option.isSome_of_eq_some negotiated)).trans negotiated
      · exact faithful.proceed
  | _ => exact faithful

variable {clock : Clock} {now : clock.Instant}

theorem Faithful.turnAt_eq
    (faithful : party.Faithful)
    (timely :
      party.call = none → (clock.later? now party.stream.config.handshakeTimeout).isSome) :
    party.turnAt clock now = some party.turn := by
  rw [turnAt, turn]
  split
  · next agreed called =>
      rw [readAt, callAt_of_negotiated (faithful agreed called)]
      rfl
  · cases called : party.call with
    | none =>
        rw [proceedAt_of_timely (timely called)]
        rfl
    | some outcome =>
        rw [proceedAt, called]
        rfl

/-- A turn breaks off where the call does. -/
theorem turnAt_eq_none
    (uncalled : party.call = none)
    (undecided : party.stream.negotiated = none)
    (endless : clock.later? now party.stream.config.handshakeTimeout = none) :
    party.turnAt clock now = none := by
  rw [turnAt, uncalled, proceedAt_eq_none uncalled undecided endless]
  rfl

/-- Whatever happens around it, the first turn of an end breaks off where its call does. -/
theorem meetAllAt_eq_none
    (uncalled : party.call = none)
    (undecided : party.stream.negotiated = none)
    (endless : clock.later? now party.stream.config.handshakeTimeout = none)
    {earlier : List Occurrence}
    (noTurn : .read ∉ earlier)
    (later : List Occurrence) :
    party.meetAllAt clock now (earlier ++ .read :: later) = none := by
  induction earlier generalizing party with
  | nil =>
      rw [List.nil_append, meetAllAt, meetAt, turnAt_eq_none uncalled undecided endless]
      rfl
  | cons occurrence rest inductionHypothesis =>
      obtain ⟨noRead, noTurnThen⟩ := List.ne_and_not_mem_of_not_mem_cons noTurn
      have goesOn :=
        @inductionHypothesis { party with stream := occurrence.after party.stream } uncalled
      rw [List.cons_append, meetAllAt]
      cases occurrence with
      | read => exact absurd rfl noRead
      | _ =>
          rw [meetAt, Option.bind_eq_bind, Option.bind_some, meet,
            goesOn undecided endless noTurnThen]
          · rfl
          all_goals exact nofun

/-- An end that has had a turn has called. -/
theorem call_turn_ne_none (party : Party) : party.turn.2.call ≠ none := by
  rw [turn]
  split
  · next agreed called =>
      dsimp only
      rw [called]
      exact nofun
  · exact nofun

/-- Nothing breaks off at an end whose clock can tell, when it calls, until when it waits. -/
theorem Faithful.meetAllAt_eq
    (faithful : party.Faithful)
    (timely :
      party.call = none → (clock.later? now party.stream.config.handshakeTimeout).isSome)
    (occurrences : List Occurrence) :
    party.meetAllAt clock now occurrences = some (party.meetAll occurrences) := by
  induction occurrences generalizing party with
  | nil => rfl
  | cons occurrence later inductionHypothesis =>
      have met : party.meetAt clock now occurrence = some (party.meet occurrence) := by
        cases occurrence with
        | read => exact faithful.turnAt_eq timely
        | _ => rfl
      -- Without a turn the end keeps its settings, and after one it has called.
      have timelyThen :
          (party.meet occurrence).2.call = none →
            (clock.later? now (party.meet occurrence).2.stream.config.handshakeTimeout).isSome := by
        cases occurrence with
        | read => exact fun uncalled => absurd uncalled party.call_turn_ne_none
        | _ => exact timely
      rw [meetAllAt, met, Option.bind_eq_bind, Option.bind_some,
        inductionHypothesis (faithful.meet occurrence) timelyThen]
      rfl

end Instants

section Over

variable {party : Party} {agreed : Extensions} (called : party.call = some (.done agreed))
include called

theorem meet_read_of_done :
    party.meet .read =
      ([party.stream.read.value.1], { party with stream := party.stream.read.value.2 }) := by
  rw [meet, turn, called]

/-- A handshake that is over stays so. -/
theorem call_meetAll (occurrences : List Occurrence) :
    (party.meetAll occurrences).2.call = some (.done agreed) := by
  induction occurrences generalizing party with
  | nil => exact called
  | cons occurrence rest inductionHypothesis =>
      refine inductionHypothesis ?_
      cases occurrence with
      | read =>
          rw [meet_read_of_done called]
          exact called
      | _ => exact called

end Over

end Party

end EventWire
