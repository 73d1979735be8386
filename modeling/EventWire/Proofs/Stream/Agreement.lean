import EventWire.Proofs.Stream.Handshake
import Mathlib.Logic.Relation

namespace EventWire

/-!
# Both ends agree

Two ends negotiate over channels that keep the octets of each end in order but
cut them in any way.  Whatever the order in which they call, are given octets
and go on, neither call fails; there is always something left to happen until
both calls have returned; and this does not go on for ever.  Both calls then
have returned the extensions that both ends offered, and these are in force.

All this takes a clock that can tell until when the ends wait.  Ends that are to
wait for the longest span of time get no further than their calls.
-/

open VersionRecord

theorem Extensions.inter_comm (left right : Extensions) :
    left.inter right = right.inter left := by
  rw [inter, inter, Bool.and_comm, Bool.and_comm left.coarse]

/-- What an end sends of its own accord as soon as it has called. -/
def Role.opening (own : Extensions) : Role → Bytes
  | initiator => greeting own
  | responder => []

namespace Stream

/-- An end that has received its peer's record sends what it has not yet sent of its own. -/
theorem exists_emitted_of_answered
    (role : Role)
    (stream : Stream) :
    ∃ emitted,
      role.opening stream.config.advertised ++ emitted = greeting stream.config.advertised ∧
        (stream.answered role).filter.connection.outbox.flatten =
          stream.filter.connection.outbox.flatten ++ emitted ∧
        (stream.answered role).filter.connection.inbox = stream.filter.connection.inbox := by
  cases role with
  | initiator => exact ⟨[], List.append_nil _, (List.append_nil _).symm, rfl⟩
  | responder =>
      refine ⟨greeting stream.config.advertised, List.nil_append _, ?_, rfl⟩
      rw [answered, greeted, Filter.posted, Connection.posted, List.flatten_append,
        List.flatten_cons, List.flatten_nil, List.append_nil]

theorem config_answered (role : Role) (stream : Stream) :
    (stream.answered role).config = stream.config := by
  cases role <;> rfl

theorem peerFinished_answered (role : Role) (stream : Stream) :
    (stream.answered role).filter.connection.peerFinished =
      stream.filter.connection.peerFinished := by
  cases role <;> rfl

theorem Undecided.answered
    {stream : Stream}
    (undecided : stream.Undecided)
    (role : Role) :
    (stream.answered role).Undecided := by
  cases role with
  | initiator => exact undecided
  | responder => exact undecided.of_standing rfl

section Continue

variable {stream : Stream} {offered : Extensions} {heard : Bytes}

/--
Going on with a handshake: it stays blocked while part of the record is
missing, and succeeds as soon as the record is there.
-/
theorem Expects.continueHandshake_cases
    (expects : stream.Expects offered heard)
    (undecided : stream.Undecided)
    (attended : stream.filter.connection.peerFinished = false)
    (part : heard ++ stream.filter.connection.inbox.flatten <+: greeting offered)
    (role : Role) :
    (∃ counters decoder,
        let waiting :=
          { stream with
            filter := stream.filter.hearing [] counters stream.filter.received
            decoder := decoder }
        waiting.Expects offered (heard ++ stream.filter.connection.inbox.flatten) ∧
          (stream.continueHandshake role).value = (.blocked .forRecord, waiting)) ∨
      heard ++ stream.filter.connection.inbox.flatten = greeting offered ∧
        ∃ inbox counters decoder,
          let received :=
            { stream with
              filter := stream.filter.hearing inbox counters stream.filter.received
              decoder := decoder }
          inbox.flatten = [] ∧
            inbox <:+ stream.filter.connection.inbox ∧
            (stream.continueHandshake role).value =
              (.done (stream.config.advertised.inter offered),
                (received.answered role).settled (stream.config.advertised.inter offered)) := by
  by_cases unfinished : (heard ++ stream.filter.connection.inbox.flatten).length < 30
  · obtain ⟨counters, _, stillExpects, blocked⟩ :=
      expects.value_continueHandshake_of_part attended part unfinished role
    exact .inl ⟨counters, _, stillExpects, blocked⟩
  · have whole : heard ++ stream.filter.connection.inbox.flatten = greeting offered := by
      refine part.eq_of_length (Nat.le_antisymm part.length_le ?_)
      rw [length_greeting]
      exact Nat.le_of_not_lt unfinished
    obtain ⟨_, rest, counters, _, nothing, left, done⟩ :=
      expects.value_continueHandshake_of_whole undecided
        (whole.trans (List.append_nil _).symm) role
    obtain ⟨-, nothingWaits⟩ := List.append_eq_nil_iff.mp nothing
    exact .inr ⟨whole, rest, counters, _, nothingWaits, left, done⟩

end Continue

end Stream

/-- An end of a connection that negotiates: its stream, its role, and how far its call has come. -/
structure Party where
  stream : Stream
  role : Role
  call : Option (Outcome Extensions)

namespace Party

open EventWire.Stream

/-- The octets that have arrived and not been received. -/
def waiting (party : Party) : Bytes :=
  party.stream.filter.connection.inbox.flatten

/-- The octets that have been sent and are on their way. -/
def underWay (party : Party) : Bytes :=
  party.stream.filter.connection.outbox.flatten

/-- Call, or go on with the call if it is blocked. -/
def proceed (party : Party) : Party :=
  let turn :=
    match party.call with
    | none => (party.stream.negotiate party.role).value
    | some outcome => (party.stream.resumeHandshake party.role outcome).value
  { party with stream := turn.2, call := some turn.1 }

/-- Call at some instant, or go on with the call if it is blocked. -/
def proceedAt
    (clock : Clock)
    (now : clock.Instant)
    (party : Party) :
    Option Party :=
  match party.call with
  | none =>
    (party.stream.negotiateAt clock now party.role).map fun turn =>
      { party with stream := turn.value.2, call := some turn.value.1 }
  | some _ => some party.proceed

section Calling

variable {clock : Clock} {now : clock.Instant} {party : Party}

theorem proceedAt_of_timely
    (timely : (clock.later? now party.stream.config.handshakeTimeout).isSome) :
    party.proceedAt clock now = some party.proceed := by
  rw [proceedAt, negotiateAt, callAt_of_timely timely, proceed]
  rcases party.call with _ | _ <;> rfl

/-- A turn that does not break off is a turn as it is without a clock. -/
theorem eq_proceed_of_proceedAt
    {next : Party}
    (turn : party.proceedAt clock now = some next) :
    next = party.proceed := by
  rw [proceedAt] at turn
  split at turn
  · next uncalled =>
      obtain ⟨_, called, rfl⟩ := Option.map_eq_some_iff.mp turn
      rw [eq_of_callAt called, proceed, uncalled]
  · exact (Option.some.inj turn).symm

/-- A call breaks off if the clock cannot tell until when to wait. -/
theorem proceedAt_eq_none
    (uncalled : party.call = none)
    (undecided : party.stream.negotiated = none)
    (endless : clock.later? now party.stream.config.handshakeTimeout = none) :
    party.proceedAt clock now = none := by
  rw [proceedAt, uncalled, negotiateAt, callAt_eq_none_iff.mpr ⟨undecided, endless⟩]
  rfl

end Calling

/-- An end may call once, and may go on with a blocked call when something has arrived. -/
def Ready (party : Party) : Prop :=
  match party.call with
  | none => True
  | some (.blocked _) => party.stream.filter.connection.inbox ≠ []
  | some _ => False

/-- The end after octets have arrived as one chunk. -/
def given (party : Party) (octets : Bytes) : Party :=
  { party with
    stream :=
      { party.stream with
        filter :=
          { party.stream.filter with
            connection :=
              { party.stream.filter.connection with
                inbox := party.stream.filter.connection.inbox ++ [octets] } } } }

/-- The end after all it has sent but the given octets has been carried away. -/
def keeping (party : Party) (octets : Bytes) : Party :=
  { party with
    stream :=
      { party.stream with
        filter :=
          { party.stream.filter with
            connection := { party.stream.filter.connection with outbox := [octets] } } } }

/--
How far an end has come whose peer offers the given extensions, with all that
has been delivered to it and all that it has sent.
-/
inductive Stage (offered : Extensions) : Party → Bytes → Bytes → Prop where
  | uncalled
      {party : Party}
      (uncalled : party.call = none)
      (undecided : party.stream.Undecided)
      (expects : party.stream.Expects offered []) :
      Stage offered party party.waiting []
  | waiting
      {party : Party}
      {heard : Bytes}
      (called : party.call = some (.blocked .forRecord))
      (undecided : party.stream.Undecided)
      (expects : party.stream.Expects offered heard) :
      Stage offered party (heard ++ party.waiting)
        (party.role.opening party.stream.config.advertised)
  | concluded
      {party : Party}
      (called : party.call = some (.done (party.stream.config.advertised.inter offered)))
      (inForce : party.stream.InForce (party.stream.config.advertised.inter offered)) :
      Stage offered party (greeting offered) (greeting party.stream.config.advertised)

/-- How much can still happen to an end: what its call has to do, and what is to be carried. -/
def cost (party : Party) : Nat :=
  (match party.call with
    | none => 200
    | some (.blocked _) => 100
    | some _ => 0) +
  party.stream.filter.connection.inbox.length + 2 * party.underWay.length

/-- What one turn of an end makes of it, when its peer offers the given extensions. -/
structure Advances (offered : Extensions) (party next : Party) (delivered sent : Bytes) : Prop where
  same : next.stream.config = party.stream.config ∧ next.role = party.role
  attended : next.stream.filter.connection.peerFinished = false
  moved :
    ∃ emitted,
      Stage offered next delivered (sent ++ emitted) ∧
        next.underWay = party.underWay ++ emitted

section Proceeding

variable {offered : Extensions} {party : Party} {delivered sent : Bytes}

theorem proceed_of_blocked
    (called : party.call = some (.blocked .forRecord)) :
    party.proceed =
      { party with
        stream := (party.stream.continueHandshake party.role).value.2
        call := some (party.stream.continueHandshake party.role).value.1 } := by
  rw [proceed, called]
  rfl

/-- An end that finds part of the record has taken it in and still waits. -/
theorem Stage.proceed_of_part
    {heard : Bytes}
    {counters : Counters}
    {decoder : Frame.Decoder}
    (called : party.call = some (.blocked .forRecord))
    (undecided : party.stream.Undecided)
    (attended : party.stream.filter.connection.peerFinished = false)
    (stillExpects :
      Expects
        { party.stream with
          filter := party.stream.filter.hearing [] counters party.stream.filter.received
          decoder := decoder }
        offered (heard ++ party.waiting))
    (blocked :
      (party.stream.continueHandshake party.role).value =
        (.blocked .forRecord,
          { party.stream with
            filter := party.stream.filter.hearing [] counters party.stream.filter.received
            decoder := decoder })) :
    Advances offered party party.proceed (heard ++ party.waiting)
        (party.role.opening party.stream.config.advertised) ∧
      party.proceed.cost ≤ party.cost ∧
      (party.stream.filter.connection.inbox ≠ [] → party.proceed.cost < party.cost) := by
  rw [proceed_of_blocked called, blocked]
  have stage :=
    @Stage.waiting offered
      { party with
        stream :=
          { party.stream with
            filter := party.stream.filter.hearing [] counters party.stream.filter.received
            decoder := decoder }
        call := some (.blocked .forRecord) }
      _ rfl (undecided.of_standing rfl) stillExpects
  rw [← List.append_nil (heard ++ party.waiting)]
  refine ⟨⟨⟨rfl, rfl⟩, attended, [], ?_, (List.append_nil _).symm⟩, ?_, ?_⟩
  · rw [List.append_nil (party.role.opening _)]
    exact stage
  · simp only [cost, called]
    exact Nat.add_le_add_right (Nat.le_add_right 100 _) _
  · intro arrived
    have some := List.length_pos_iff.mpr arrived
    simp only [cost, called]
    exact Nat.add_lt_add_right (Nat.lt_add_of_pos_right some) _

/-- An end that finds the whole record has answered it, and its handshake is over. -/
theorem Stage.proceed_of_whole
    {inbox : List Bytes}
    {counters : Counters}
    {decoder : Frame.Decoder}
    (called : party.call = some (.blocked .forRecord))
    (undecided : party.stream.Undecided)
    (attended : party.stream.filter.connection.peerFinished = false)
    (left : inbox <:+ party.stream.filter.connection.inbox)
    (done :
      (party.stream.continueHandshake party.role).value =
        (.done (party.stream.config.advertised.inter offered),
          (answered party.role
            { party.stream with
              filter := party.stream.filter.hearing inbox counters party.stream.filter.received
              decoder := decoder }).settled
            (party.stream.config.advertised.inter offered))) :
    Advances offered party party.proceed (greeting offered)
        (party.role.opening party.stream.config.advertised) ∧
      party.proceed.cost < party.cost := by
  have turn := proceed_of_blocked called
  have fewer := left.length_le
  obtain ⟨emitted, record, outbox, sameInbox⟩ :=
    exists_emitted_of_answered party.role
      { party.stream with
        filter := party.stream.filter.hearing inbox counters party.stream.filter.received
        decoder := decoder }
  have short : emitted.length ≤ 30 := by
    have lengths := congrArg List.length record
    rw [List.length_append, length_greeting] at lengths
    omega
  have received :
      Undecided
        { party.stream with
          filter := party.stream.filter.hearing inbox counters party.stream.filter.received
          decoder := decoder } :=
    undecided.of_standing rfl
  have sameConfig : party.proceed.stream.config = party.stream.config := by
    rw [turn, done]
    exact config_answered party.role _
  have stage :
      Stage offered party.proceed (greeting offered)
        (greeting party.stream.config.advertised) := by
    rw [← sameConfig]
    refine .concluded ?_ ?_
    · rw [sameConfig, turn, done]
    · rw [sameConfig, turn, done]
      exact (received.answered party.role).inForce_settled _
  refine ⟨⟨⟨sameConfig, by rw [turn]⟩, ?_, emitted, record ▸ stage, ?_⟩, ?_⟩
  · rw [turn, done, connection_settled, peerFinished_answered]
    exact attended
  · rw [turn, done, underWay, connection_settled]
    exact outbox
  · simp only [cost, turn, done, called, underWay, connection_settled, outbox, sameInbox,
      List.length_append]
    dsimp only [Filter.hearing]
    omega

/-- An end whose call is blocked goes on with it. -/
theorem Stage.proceed_of_blocked
    {heard : Bytes}
    (called : party.call = some (.blocked .forRecord))
    (undecided : party.stream.Undecided)
    (expects : party.stream.Expects offered heard)
    (attended : party.stream.filter.connection.peerFinished = false)
    (part : heard ++ party.waiting <+: greeting offered) :
    Advances offered party party.proceed (heard ++ party.waiting)
        (party.role.opening party.stream.config.advertised) ∧
      party.proceed.cost ≤ party.cost ∧
      (party.stream.filter.connection.inbox ≠ [] → party.proceed.cost < party.cost) := by
  rcases expects.continueHandshake_cases undecided attended part party.role with
    ⟨counters, decoder, stillExpects, blocked⟩ |
      ⟨whole, inbox, counters, decoder, -, left, done⟩
  · exact Stage.proceed_of_part called undecided attended stillExpects blocked
  · have wholeWaits : heard ++ party.waiting = greeting offered := whole
    rw [wholeWaits]
    obtain ⟨advances, cheaper⟩ := Stage.proceed_of_whole called undecided attended left done
    exact ⟨advances, Nat.le_of_lt cheaper, fun _ => cheaper⟩

/-- Opening a handshake sends what an end sends of its own accord, and changes nothing else. -/
theorem exists_opened
    (undecided : party.stream.Undecided)
    (expects : party.stream.Expects offered []) :
    let opened :=
      { party with
        stream := party.stream.opened party.role
        call := some (.blocked .forRecord) }
    opened.stream.Undecided ∧
      opened.stream.Expects offered [] ∧
      opened.stream.config = party.stream.config ∧
      opened.stream.filter.connection.peerFinished =
        party.stream.filter.connection.peerFinished ∧
      opened.stream.filter.connection.inbox = party.stream.filter.connection.inbox ∧
      opened.underWay =
        party.underWay ++ party.role.opening party.stream.config.advertised := by
  obtain ⟨stream, role, call⟩ := party
  cases role with
  | initiator =>
      refine ⟨undecided.of_standing rfl, expects.of_attention rfl, rfl, rfl, rfl, ?_⟩
      simp only [underWay, Stream.opened, greeted, Filter.posted, Connection.posted,
        List.flatten_append, List.flatten_cons, List.flatten_nil, List.append_nil, Role.opening]
  | responder => exact ⟨undecided, expects, rfl, rfl, rfl, (List.append_nil _).symm⟩

/-- A turn of an end that is ready for one takes it further, at a cost. -/
theorem Stage.proceed
    (stage : Stage offered party delivered sent)
    (attended : party.stream.filter.connection.peerFinished = false)
    (part : delivered <+: greeting offered)
    (ready : party.Ready) :
    Advances offered party party.proceed delivered sent ∧ party.proceed.cost < party.cost := by
  cases stage with
  | uncalled uncalled undecided expects =>
      let opened : Party :=
        { party with
          stream := party.stream.opened party.role
          call := some (.blocked .forRecord) }
      have turn : party.proceed = opened.proceed := by
        rw [Party.proceed, Party.proceed, uncalled]
        dsimp only [opened]
        rw [undecided.value_negotiate]
        rfl
      obtain ⟨undecidedThen, expectsThen, sameConfig, sameEnd, sameInbox, sent⟩ :=
        exists_opened undecided expects
      have sameWaiting : opened.waiting = party.waiting := congrArg List.flatten sameInbox
      obtain ⟨⟨same, attendedThen, emitted, stage, underWay⟩, cheap, -⟩ :=
        @Stage.proceed_of_blocked offered opened [] rfl undecidedThen expectsThen
          (sameEnd.trans attended) (sameWaiting ▸ part)
      rw [sameWaiting, List.nil_append] at stage
      rw [turn]
      refine ⟨⟨⟨same.1.trans sameConfig, same.2⟩, attendedThen,
        party.role.opening party.stream.config.advertised ++ emitted, ?_, ?_⟩, ?_⟩
      · rw [List.nil_append, ← sameConfig]
        exact stage
      · rw [underWay, sent, List.append_assoc]
      · refine Nat.lt_of_le_of_lt cheap ?_
        have short : (party.role.opening party.stream.config.advertised).length ≤ 30 := by
          cases party.role with
          | initiator => exact Nat.le_of_eq (length_greeting _)
          | responder => exact Nat.zero_le _
        have lengths := congrArg List.length sent
        have count := congrArg List.length sameInbox
        rw [List.length_append] at lengths
        simp only [cost, uncalled, opened] at lengths count ⊢
        omega
  | waiting called undecided expects =>
      obtain ⟨advances, -, cheap⟩ :=
        Stage.proceed_of_blocked called undecided expects attended part
      rw [Ready, called] at ready
      exact ⟨advances, cheap ready⟩
  | concluded called inForce =>
      rw [Ready, called] at ready
      exact ready.elim

end Proceeding

section Carrying

variable {offered : Extensions} {party : Party} {delivered sent : Bytes}

/-- An end never sends more than its own record. -/
theorem Stage.sent_prefix (stage : Stage offered party delivered sent) :
    sent <+: greeting party.stream.config.advertised := by
  cases stage with
  | uncalled _ _ _ => exact List.nil_prefix
  | waiting _ _ _ =>
      cases party.role with
      | initiator => exact List.prefix_rfl
      | responder => exact List.nil_prefix
  | concluded _ _ => exact List.prefix_rfl

theorem Stage.keeping
    (stage : Stage offered party delivered sent)
    (rest : Bytes) :
    Stage offered (party.keeping rest) delivered sent := by
  cases stage with
  | uncalled uncalled undecided expects =>
      exact .uncalled uncalled (undecided.of_standing rfl) (expects.of_attention rfl)
  | waiting called undecided expects =>
      exact .waiting called (undecided.of_standing rfl) (expects.of_attention rfl)
  | concluded called inForce =>
      exact .concluded called ⟨inForce.negotiated, inForce.compressing, inForce.unframed⟩

theorem waiting_given (octets : Bytes) :
    (party.given octets).waiting = party.waiting ++ octets := by
  simp only [waiting, given, List.flatten_append, List.flatten_cons, List.flatten_nil,
    List.append_nil]

/-- Octets reach an end only while its peer's record is not there as a whole. -/
theorem Stage.given
    (stage : Stage offered party delivered sent)
    {octets : Bytes}
    (some : octets ≠ [])
    (part : delivered ++ octets <+: greeting offered) :
    Stage offered (party.given octets) (delivered ++ octets) sent := by
  cases stage with
  | uncalled uncalled undecided expects =>
      rw [← waiting_given]
      exact .uncalled uncalled (undecided.of_standing rfl) (expects.of_attention rfl)
  | waiting called undecided expects =>
      rw [List.append_assoc, ← waiting_given]
      exact .waiting called (undecided.of_standing rfl) (expects.of_attention rfl)
  | concluded _ _ =>
      have lengths := part.length_le
      have positive := List.length_pos_iff.mpr some
      rw [List.length_append] at lengths
      omega

end Carrying

/-- An end whose call has returned the agreed extensions, which are in force for good. -/
structure Returned (agreed : Extensions) (party : Party) : Prop where
  called : party.call = some (.done agreed)
  inForce : party.stream.InForce agreed
  /-- Another call returns the same and changes nothing, whatever the clock can tell. -/
  repeats :
    ∀ (clock : Clock) (now : clock.Instant) (role : Role),
      (party.stream.negotiateAt clock now role).map Noted.value =
        some (.done agreed, party.stream)

end Party

/-- Two ends of a connection that negotiate with each other. -/
structure Parley where
  left : Party
  right : Party

namespace Parley

open EventWire.Stream

/-- The same two ends, seen from the other side. -/
def swap (parley : Parley) : Parley :=
  ⟨parley.right, parley.left⟩

/--
What can happen next: an end takes a turn, or some octets reach it as one chunk.

Each end calls at an instant of its own.  A turn that breaks off leads nowhere.
-/
inductive Step (clock : Clock) (leftNow rightNow : clock.Instant) : Parley → Parley → Prop where
  | leftTurn
      {parley : Parley}
      {moved : Party}
      (ready : parley.left.Ready)
      (turn : parley.left.proceedAt clock leftNow = some moved) :
      Step clock leftNow rightNow parley { parley with left := moved }
  | rightTurn
      {parley : Parley}
      {moved : Party}
      (ready : parley.right.Ready)
      (turn : parley.right.proceedAt clock rightNow = some moved) :
      Step clock leftNow rightNow parley { parley with right := moved }
  | rightwards
      {parley : Parley}
      {octets rest : Bytes}
      (split : parley.left.underWay = octets ++ rest)
      (some : octets ≠ []) :
      Step clock leftNow rightNow parley ⟨parley.left.keeping rest, parley.right.given octets⟩
  | leftwards
      {parley : Parley}
      {octets rest : Bytes}
      (split : parley.right.underWay = octets ++ rest)
      (some : octets ≠ []) :
      Step clock leftNow rightNow parley ⟨parley.left.given octets, parley.right.keeping rest⟩

/-- Neither call fails, and something can happen until both have returned these extensions. -/
structure Converges
    (clock : Clock)
    (leftNow rightNow : clock.Instant)
    (agreed : Extensions)
    (parley : Parley) : Prop where
  called :
    ∀ party ∈ [parley.left, parley.right],
      party.call = none ∨ party.call = some (.blocked .forRecord) ∨ party.Returned agreed
  goesOn :
    (∃ next, Step clock leftNow rightNow parley next) ∨
      parley.left.Returned agreed ∧ parley.right.Returned agreed

/-- Two ends with given settings and roles, and what has been delivered to and sent by each. -/
structure Conserved
    (leftConfig rightConfig : StreamConfig)
    (leftRole rightRole : Role)
    (parley : Parley) : Prop where
  leftConfig_eq : parley.left.stream.config = leftConfig
  rightConfig_eq : parley.right.stream.config = rightConfig
  leftRole_eq : parley.left.role = leftRole
  rightRole_eq : parley.right.role = rightRole
  leftAttended : parley.left.stream.filter.connection.peerFinished = false
  rightAttended : parley.right.stream.filter.connection.peerFinished = false
  stages :
    ∃ leftDelivered leftSent rightDelivered rightSent,
      parley.left.Stage rightConfig.advertised leftDelivered leftSent ∧
        parley.right.Stage leftConfig.advertised rightDelivered rightSent ∧
        leftSent = rightDelivered ++ parley.left.underWay ∧
        rightSent = leftDelivered ++ parley.right.underWay

section Conservation

variable
  {leftConfig rightConfig : StreamConfig} {leftRole rightRole : Role}
  {clock : Clock} {leftNow rightNow : clock.Instant} {parley next : Parley}

theorem Conserved.swap
    (conserved : Conserved leftConfig rightConfig leftRole rightRole parley) :
    Conserved rightConfig leftConfig rightRole leftRole parley.swap := by
  obtain ⟨leftDelivered, leftSent, rightDelivered, rightSent, left, right, toRight, toLeft⟩ :=
    conserved.stages
  exact
    ⟨conserved.rightConfig_eq, conserved.leftConfig_eq, conserved.rightRole_eq,
      conserved.leftRole_eq, conserved.rightAttended, conserved.leftAttended,
      rightDelivered, rightSent, leftDelivered, leftSent, right, left, toLeft, toRight⟩

/-- How much can still happen to both ends. -/
def cost (parley : Parley) : Nat :=
  parley.left.cost + parley.right.cost

theorem cost_swap (parley : Parley) : parley.swap.cost = parley.cost :=
  Nat.add_comm _ _

theorem Conserved.leftTurn
    (conserved : Conserved leftConfig rightConfig leftRole rightRole parley)
    (ready : parley.left.Ready) :
    Conserved leftConfig rightConfig leftRole rightRole
        { parley with left := parley.left.proceed } ∧
      { parley with left := parley.left.proceed }.cost < parley.cost := by
  obtain ⟨leftDelivered, leftSent, rightDelivered, rightSent, left, right, toRight, toLeft⟩ :=
    conserved.stages
  have part : leftDelivered <+: VersionRecord.greeting rightConfig.advertised := by
    rw [← conserved.rightConfig_eq]
    exact (toLeft ▸ List.prefix_append _ _ : leftDelivered <+: rightSent).trans right.sent_prefix
  obtain ⟨⟨same, attended, emitted, stage, underWay⟩, cheaper⟩ :=
    left.proceed conserved.leftAttended part ready
  refine
    ⟨⟨same.1.trans conserved.leftConfig_eq, conserved.rightConfig_eq,
        same.2.trans conserved.leftRole_eq, conserved.rightRole_eq, attended,
        conserved.rightAttended,
        leftDelivered, leftSent ++ emitted, rightDelivered, rightSent, stage, right, ?_, toLeft⟩,
      Nat.add_lt_add_right cheaper _⟩
  rw [underWay, toRight, List.append_assoc]

theorem Conserved.rightwards
    (conserved : Conserved leftConfig rightConfig leftRole rightRole parley)
    {octets rest : Bytes}
    (split : parley.left.underWay = octets ++ rest)
    (some : octets ≠ []) :
    Conserved leftConfig rightConfig leftRole rightRole
        ⟨parley.left.keeping rest, parley.right.given octets⟩ ∧
      cost ⟨parley.left.keeping rest, parley.right.given octets⟩ < parley.cost := by
  obtain ⟨leftDelivered, leftSent, rightDelivered, rightSent, left, right, toRight, toLeft⟩ :=
    conserved.stages
  have sentRight : leftSent = (rightDelivered ++ octets) ++ rest := by
    rw [toRight, split, List.append_assoc]
  have part : rightDelivered ++ octets <+: VersionRecord.greeting leftConfig.advertised := by
    rw [← conserved.leftConfig_eq]
    exact (sentRight ▸ List.prefix_append _ _ : _ <+: leftSent).trans left.sent_prefix
  have kept : (parley.left.keeping rest).underWay = rest := List.append_nil rest
  refine
    ⟨⟨conserved.leftConfig_eq, conserved.rightConfig_eq, conserved.leftRole_eq,
        conserved.rightRole_eq, conserved.leftAttended, conserved.rightAttended,
        leftDelivered, leftSent, rightDelivered ++ octets, rightSent, left.keeping rest,
        right.given some part, ?_, toLeft⟩, ?_⟩
  · rw [kept, sentRight]
  · have positive := List.length_pos_iff.mpr some
    have lengths := congrArg List.length split
    have keptLength := congrArg List.length kept
    rw [List.length_append] at lengths
    simp only [cost, Party.cost, Party.keeping, Party.given, Party.underWay, List.length_append,
      List.length_cons, List.length_nil] at lengths keptLength ⊢
    omega

/-- Whatever happens, what both ends have sent and been given stays in order, at a cost. -/
theorem Conserved.step
    (conserved : Conserved leftConfig rightConfig leftRole rightRole parley)
    (step : Step clock leftNow rightNow parley next) :
    Conserved leftConfig rightConfig leftRole rightRole next ∧ next.cost < parley.cost := by
  cases step with
  | leftTurn ready turn =>
      rw [Party.eq_proceed_of_proceedAt turn]
      exact conserved.leftTurn ready
  | rightwards split some => exact conserved.rightwards split some
  | rightTurn ready turn =>
      rw [Party.eq_proceed_of_proceedAt turn]
      obtain ⟨after, cheaper⟩ := conserved.swap.leftTurn ready
      rw [cost_swap, ← cost_swap] at cheaper
      exact ⟨after.swap, cheaper⟩
  | leftwards split some =>
      obtain ⟨after, cheaper⟩ := conserved.swap.rightwards split some
      rw [cost_swap, ← cost_swap] at cheaper
      exact ⟨after.swap, cheaper⟩

theorem Conserved.of_reachable
    (conserved : Conserved leftConfig rightConfig leftRole rightRole parley)
    (reachable : Relation.ReflTransGen (Step clock leftNow rightNow) parley next) :
    Conserved leftConfig rightConfig leftRole rightRole next := by
  induction reachable with
  | refl => exact conserved
  | tail _ step inductionHypothesis => exact (inductionHypothesis.step step).1

/-- What happens between two ends does not go on for ever. -/
theorem Conserved.terminates
    (conserved : Conserved leftConfig rightConfig leftRole rightRole parley)
    (run : Nat → Parley)
    (begins : run 0 = parley) :
    ¬ ∀ n, Step clock leftNow rightNow (run n) (run (n + 1)) := by
  intro steps
  have along (n : Nat) :
      Conserved leftConfig rightConfig leftRole rightRole (run n) ∧
        (run n).cost + n ≤ parley.cost := by
    induction n with
    | zero =>
        rw [begins]
        exact ⟨conserved, Nat.le_refl _⟩
    | succ n inductionHypothesis =>
        obtain ⟨conservedThen, cheaper⟩ := inductionHypothesis.1.step (steps n)
        have bound := inductionHypothesis.2
        exact ⟨conservedThen, by omega⟩
  have bound := (along (parley.cost + 1)).2
  omega

/-- A call has not been made, is blocked, or has returned what both ends offer. -/
theorem Conserved.left_cases
    (conserved : Conserved leftConfig rightConfig leftRole rightRole parley) :
    parley.left.call = none ∨
      parley.left.call = some (.blocked .forRecord) ∨
        parley.left.Returned (leftConfig.advertised.inter rightConfig.advertised) := by
  obtain ⟨leftDelivered, leftSent, rightDelivered, rightSent, left, -⟩ := conserved.stages
  cases left with
  | uncalled uncalled _ _ => exact .inl uncalled
  | waiting called _ _ => exact .inr (.inl called)
  | concluded called inForce =>
      rw [← conserved.leftConfig_eq]
      refine .inr (.inr ⟨called, inForce, fun clock now role => ?_⟩)
      rw [negotiateAt, callAt_of_negotiated inForce.negotiated, Option.map_some,
        value_negotiate_of_negotiated inForce.negotiated]

theorem Conserved.right_cases
    (conserved : Conserved leftConfig rightConfig leftRole rightRole parley) :
    parley.right.call = none ∨
      parley.right.call = some (.blocked .forRecord) ∨
        parley.right.Returned (leftConfig.advertised.inter rightConfig.advertised) := by
  rw [Extensions.inter_comm]
  exact conserved.swap.left_cases

/-- A blocked end that cannot go on has been given only part of its peer's record. -/
theorem short_of_not_ready
    {offered : Extensions}
    {party : Party}
    {delivered sent : Bytes}
    (stage : party.Stage offered delivered sent)
    (notReady : ¬ party.Ready) :
    (sent = party.role.opening party.stream.config.advertised ∧ delivered.length < 30) ∨
      party.call ≠ none ∧ party.call ≠ some (.blocked .forRecord) ∧
        sent = VersionRecord.greeting party.stream.config.advertised := by
  cases stage with
  | uncalled uncalled _ _ =>
      rw [Party.Ready, uncalled] at notReady
      exact absurd trivial notReady
  | waiting called undecided expects =>
      rw [Party.Ready, called] at notReady
      have nothing : party.stream.filter.connection.inbox = [] :=
        Decidable.byContradiction notReady
      refine .inl ⟨rfl, ?_⟩
      rw [Party.waiting, nothing, List.flatten_nil, List.append_nil]
      exact expects.hears.unfinished
  | concluded called _ =>
      rw [called]
      exact .inr ⟨nofun, nofun, rfl⟩

section Timely

variable
  (initiated : leftRole = .initiator ∨ rightRole = .initiator)
  (leftTimely : (clock.later? leftNow leftConfig.handshakeTimeout).isSome)
  (rightTimely : (clock.later? rightNow rightConfig.handshakeTimeout).isSome)
include initiated leftTimely rightTimely

/-- As long as a call has not returned, something can still happen. -/
theorem Conserved.exists_step
    (conserved : Conserved leftConfig rightConfig leftRole rightRole parley)
    (unfinished :
      (parley.left.call = none ∨ parley.left.call = some (.blocked .forRecord)) ∨
        parley.right.call = none ∨ parley.right.call = some (.blocked .forRecord)) :
    ∃ next, Step clock leftNow rightNow parley next := by
  refine Classical.byContradiction fun stuck => ?_
  have leftTurn : parley.left.proceedAt clock leftNow = some parley.left.proceed :=
    Party.proceedAt_of_timely (conserved.leftConfig_eq ▸ leftTimely)
  have rightTurn : parley.right.proceedAt clock rightNow = some parley.right.proceed :=
    Party.proceedAt_of_timely (conserved.rightConfig_eq ▸ rightTimely)
  obtain ⟨leftDelivered, leftSent, rightDelivered, rightSent, left, right, toRight, toLeft⟩ :=
    conserved.stages
  have nothingRightwards : parley.left.underWay = [] :=
    Decidable.byContradiction fun some =>
      stuck ⟨_, .rightwards (List.append_nil _).symm some⟩
  have nothingLeftwards : parley.right.underWay = [] :=
    Decidable.byContradiction fun some =>
      stuck ⟨_, .leftwards (List.append_nil _).symm some⟩
  rw [nothingRightwards, List.append_nil] at toRight
  rw [nothingLeftwards, List.append_nil] at toLeft
  subst toRight toLeft
  have whole (extensions : Extensions) := VersionRecord.length_greeting extensions
  rcases short_of_not_ready left fun ready => stuck ⟨_, .leftTurn ready leftTurn⟩ with
    ⟨leftSends, leftShort⟩ | ⟨leftCalled, leftDone, leftSends⟩
  · rcases short_of_not_ready right fun ready => stuck ⟨_, .rightTurn ready rightTurn⟩ with
      ⟨rightSends, rightShort⟩ | ⟨-, -, rightSends⟩
    · rw [conserved.leftRole_eq] at leftSends
      rw [conserved.rightRole_eq] at rightSends
      -- Neither has been given a whole record, so neither can be the one that speaks first.
      rcases initiated with rfl | rfl
      · rw [leftSends, Role.opening, whole] at rightShort
        exact Nat.lt_irrefl 30 rightShort
      · rw [rightSends, Role.opening, whole] at leftShort
        exact Nat.lt_irrefl 30 leftShort
    · rw [rightSends, whole] at leftShort
      exact Nat.lt_irrefl 30 leftShort
  · rcases short_of_not_ready right fun ready => stuck ⟨_, .rightTurn ready rightTurn⟩ with
      ⟨-, rightShort⟩ | ⟨rightCalled, rightDone, -⟩
    · rw [leftSends, whole] at rightShort
      exact Nat.lt_irrefl 30 rightShort
    · rcases unfinished with (called | called) | called | called
      · exact leftCalled called
      · exact leftDone called
      · exact rightCalled called
      · exact rightDone called

/-- Two ends whose clock can tell until when they wait converge on what both offer. -/
theorem Conserved.converges
    (conserved : Conserved leftConfig rightConfig leftRole rightRole parley) :
    parley.Converges clock leftNow rightNow
      (leftConfig.advertised.inter rightConfig.advertised) where
  called :=
    List.forall_mem_cons.mpr
      ⟨conserved.left_cases, List.forall_mem_singleton.mpr conserved.right_cases⟩
  goesOn := by
    have goesOn := conserved.exists_step initiated leftTimely rightTimely
    rcases conserved.left_cases with called | called | leftReturned
    · exact .inl (goesOn (.inl (.inl called)))
    · exact .inl (goesOn (.inl (.inr called)))
    · rcases conserved.right_cases with called | called | rightReturned
      · exact .inl (goesOn (.inr (.inl called)))
      · exact .inl (goesOn (.inr (.inr called)))
      · exact .inr ⟨leftReturned, rightReturned⟩

end Timely

end Conservation

section Start

variable
  (leftRegistry rightRegistry : Registry) (left right : Equipment) (leftRole rightRole : Role)

/-- The ends of a new connection with streams that have not begun to negotiate. -/
def start : Parley where
  left := ⟨left.stream leftRegistry Connection.pair.1, leftRole, none⟩
  right := ⟨right.stream rightRegistry Connection.pair.2, rightRole, none⟩

variable {left right}

theorem conserved_start
    (leftNegotiates : left.config.negotiate = true)
    (rightNegotiates : right.config.negotiate = true)
    (leftFramed : left.config.coarse = false)
    (rightFramed : right.config.coarse = false)
    (leftAccepts : 14 ≤ left.config.maxEventSize)
    (rightAccepts : 14 ≤ right.config.maxEventSize) :
    Conserved left.config right.config leftRole rightRole
      (start leftRegistry rightRegistry left right leftRole rightRole) where
  leftConfig_eq := rfl
  rightConfig_eq := rfl
  leftRole_eq := rfl
  rightRole_eq := rfl
  leftAttended := rfl
  rightAttended := rfl
  stages :=
    ⟨_, _, _, _,
      .uncalled rfl (left.undecided_stream leftNegotiates leftFramed ⟨rfl, rfl⟩ leftRegistry)
        (left.expects_stream leftAccepts _ leftRegistry _),
      .uncalled rfl (right.undecided_stream rightNegotiates rightFramed ⟨rfl, rfl⟩ rightRegistry)
        (right.expects_stream rightAccepts _ rightRegistry _),
      rfl, rfl⟩

end Start

/--
Two ends of which at least one speaks first agree, if their clock can tell until
when they wait: no call fails, something can happen until both calls have
returned what both ends offer, and this does not go on for ever.
-/
theorem both_agree
    {left right : Equipment}
    (leftNegotiates : left.config.negotiate = true)
    (rightNegotiates : right.config.negotiate = true)
    (leftFramed : left.config.coarse = false)
    (rightFramed : right.config.coarse = false)
    (leftAccepts : 14 ≤ left.config.maxEventSize)
    (rightAccepts : 14 ≤ right.config.maxEventSize)
    {leftRole rightRole : Role}
    (initiated : leftRole = .initiator ∨ rightRole = .initiator)
    {clock : Clock}
    {leftNow rightNow : clock.Instant}
    (leftTimely : (clock.later? leftNow left.config.handshakeTimeout).isSome)
    (rightTimely : (clock.later? rightNow right.config.handshakeTimeout).isSome)
    (leftRegistry rightRegistry : Registry) :
    let first := start leftRegistry rightRegistry left right leftRole rightRole
    let agreed := left.config.advertised.inter right.config.advertised
    (∀ parley, Relation.ReflTransGen (Step clock leftNow rightNow) first parley →
      (∀ party ∈ [parley.left, parley.right],
        party.call = none ∨ party.call = some (.blocked .forRecord) ∨ party.Returned agreed) ∧
      ((∃ next, Step clock leftNow rightNow parley next) ∨
        parley.left.Returned agreed ∧ parley.right.Returned agreed)) ∧
      ∀ run : Nat → Parley,
        run 0 = first → ¬ ∀ n, Step clock leftNow rightNow (run n) (run (n + 1)) := by
  intro first agreed
  have conserved : Conserved left.config right.config leftRole rightRole first :=
    conserved_start leftRegistry rightRegistry leftRole rightRole leftNegotiates rightNegotiates
      leftFramed rightFramed leftAccepts rightAccepts
  refine ⟨fun parley reachable => ?_, fun run begins => conserved.terminates run begins⟩
  obtain ⟨called, goesOn⟩ :=
    (conserved.of_reachable reachable).converges initiated leftTimely rightTimely
  exact ⟨called, goesOn⟩

/-- One end offers both extensions and accepts no more than the record, the other compresses. -/
theorem both_agree_compressing :
    let leftConfig := { StreamConfig.default with
      compression := true, advertiseCoarse := true, maxEventSize := 14 }
    let rightConfig := { StreamConfig.default with compression := true, termination := .implicit }
    let left : Equipment := ⟨leftConfig, Compression.Zlib.compressor 6⟩
    let right : Equipment := ⟨rightConfig, Compression.Zlib.compressor 6⟩
    let first := start .empty .empty left right .responder .initiator
    let Next := Step Clock.monotonic Clock.origin Clock.origin
    leftConfig.advertised.inter rightConfig.advertised = ⟨true, false⟩ ∧
      (∀ parley, Relation.ReflTransGen Next first parley →
        (∀ party ∈ [parley.left, parley.right],
          party.call = none ∨
            party.call = some (.blocked .forRecord) ∨ party.Returned ⟨true, false⟩) ∧
        ((∃ next, Next parley next) ∨
          parley.left.Returned ⟨true, false⟩ ∧ parley.right.Returned ⟨true, false⟩)) ∧
      ∀ run : Nat → Parley, run 0 = first → ¬ ∀ n, Next (run n) (run (n + 1)) := by
  intro leftConfig rightConfig left right
  have timely : (Clock.monotonic.later? Clock.origin (.ofSeconds 5)).isSome := by decide +kernel
  exact ⟨rfl,
    both_agree rfl rfl rfl rfl (by decide) (by decide) (.inr rfl) timely timely .empty .empty⟩

/-- Two ends with the usual settings but the longest span of time to wait. -/
def patientEnd : Equipment where
  config := { StreamConfig.default with handshakeTimeout := .longest }
  compressor := Compression.Zlib.compressor 6

/-- Whenever two ends call that are to wait for so long, their calls break off and never return. -/
theorem not_agree_of_endless :
    let first := start .empty .empty patientEnd patientEnd .initiator .responder
    patientEnd.config.negotiate = true ∧
      patientEnd.config.coarse = false ∧
      14 ≤ patientEnd.config.maxEventSize ∧
      ∀ leftNow rightNow : Clock.monotonic.Instant,
        first.left.proceedAt Clock.monotonic leftNow = none ∧
          first.right.proceedAt Clock.monotonic rightNow = none ∧
          ∀ parley,
            Relation.ReflTransGen (Step Clock.monotonic leftNow rightNow) first parley →
              parley.left.call = none ∧
                parley.right.call = none ∧
                ∀ next, ¬ Step Clock.monotonic leftNow rightNow parley next := by
  intro first
  refine ⟨rfl, rfl, by decide, fun leftNow rightNow => ?_⟩
  have leftBreaks : first.left.proceedAt Clock.monotonic leftNow = none :=
    Party.proceedAt_eq_none rfl rfl (Clock.later?_longest leftNow)
  have rightBreaks : first.right.proceedAt Clock.monotonic rightNow = none :=
    Party.proceedAt_eq_none rfl rfl (Clock.later?_longest rightNow)
  have stuck (next : Parley) : ¬ Step Clock.monotonic leftNow rightNow first next := by
    intro step
    cases step with
    | leftTurn _ turn => exact nomatch leftBreaks.symm.trans turn
    | rightTurn _ turn => exact nomatch rightBreaks.symm.trans turn
    | rightwards split some => exact some (List.append_eq_nil_iff.mp split.symm).1
    | leftwards split some => exact some (List.append_eq_nil_iff.mp split.symm).1
  refine ⟨leftBreaks, rightBreaks, fun parley reachable => ?_⟩
  obtain rfl : parley = first := by
    induction reachable with
    | refl => rfl
    | tail _ step inductionHypothesis => exact (stuck _ (inductionHypothesis ▸ step)).elim
  exact ⟨rfl, rfl, stuck⟩

end Parley

end EventWire
