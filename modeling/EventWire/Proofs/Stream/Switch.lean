import EventWire.Proofs.Stream.Relaying

namespace EventWire

/-!
# What follows the peer's record

An end negotiates and then reads, while octets arrive: its peer's record, and
behind it whatever the peer sends under the extensions they agree on.  Some of
that may have arrived with the record, in the same chunk or with a part of it.
The handshake hands it to the layer that now owns it, so what the reads come to
depends on the octets behind the record and not on how they were cut.
-/

open VersionRecord

namespace Party

open EventWire.Stream

/-- The stream of an end that has opened its handshake, or is about to. -/
def begun (party : Party) : Stream :=
  match party.call with
  | none => party.stream.opened party.role
  | some _ => party.stream

/--
An end that waits for its peer's record.  But for what has arrived its stream is
one to which nothing has arrived.
-/
structure Awaits
    (base : Stream)
    (offered : Extensions)
    (heard : Bytes)
    (party : Party) : Prop where
  call : party.call = none ∨ party.call = some (.blocked .forRecord)
  undecided : party.stream.Undecided
  expects : party.begun.Expects offered heard
  given :
    ∃ inbox peerFinished counters phase verified,
      party.begun =
        { base with
          filter := base.filter.receiving inbox peerFinished counters []
          decoder :=
            { base.decoder with buffer := heard, phase := phase, verified := verified } }

/-- The stream to which nothing has arrived, once it has received its peer's record. -/
def received
    (base : Stream)
    (extra : Bytes)
    (rest : List Bytes)
    (peerFinished : Bool)
    (counters : Counters)
    (phase : Frame.Phase) :
    Stream :=
  { base with
    filter := base.filter.receiving rest peerFinished counters []
    decoder :=
      { base.decoder with buffer := extra, held := none, phase := phase, verified := 0 } }

/-- An end whose handshake is over, and what had arrived behind its peer's record by then. -/
structure Switched
    (base : Stream)
    (offered : Extensions)
    (behind : Bytes)
    (party : Party) : Prop where
  called : party.call = some (.done (base.config.advertised.inter offered))
  stream :
    ∃ extra rest peerFinished counters phase,
      extra ++ rest.flatten = behind ∧
        party.stream =
          ((received base extra rest peerFinished counters phase).answered party.role).settled
            (base.config.advertised.inter offered)

/--
An end whose handshake is over, with what happens to it later.  What has arrived
and what will are the octets behind its peer's record.
-/
structure Resumes
    (base : Stream)
    (offered : Extensions)
    (behind : Bytes)
    (closes : Bool)
    (later : List Occurrence)
    (party : Party) : Prop where
  switched : ∃ arrived, arrived ++ arriving later = behind ∧ party.Switched base offered arrived
  orderly : Orderly later
  last : party.stream.filter.connection.peerFinished = true → arriving later = []
  ends : (party.stream.filter.connection.peerFinished || closing later) = closes

namespace Awaits

variable {base : Stream} {offered : Extensions} {heard : Bytes} {party : Party}

theorem undecided_begun (awaits : party.Awaits base offered heard) : party.begun.Undecided := by
  rw [begun]
  split
  · cases party.role with
    | initiator => exact awaits.undecided.of_standing rfl
    | responder => exact awaits.undecided
  · exact awaits.undecided

/-- A turn of an end that waits opens its handshake if need be, and goes on with it. -/
theorem turn_eq (awaits : party.Awaits base offered heard) :
    party.turn =
      ([],
        { party with
          stream := (party.begun.continueHandshake party.role).value.2
          call := some (party.begun.continueHandshake party.role).value.1 }) := by
  rcases awaits.call with uncalled | called
  · rw [turn, proceed, begun, uncalled]
    dsimp only
    rw [awaits.undecided.value_negotiate]
  · rw [turn, proceed, begun, called]
    rfl

theorem config_begun (awaits : party.Awaits base offered heard) :
    party.begun.config = base.config := by
  obtain ⟨_, _, _, _, _, given⟩ := awaits.given
  rw [given]

/-- Once the record is there as a whole a turn ends the handshake. -/
theorem exists_switched_turn
    {behind : Bytes}
    (awaits : party.Awaits base offered heard)
    (arrived :
      heard ++ party.begun.filter.connection.inbox.flatten = greeting offered ++ behind) :
    ∃ next,
      party.turn = ([], next) ∧
        next.Switched base offered behind ∧
        next.role = party.role ∧
        next.stream.filter.connection.peerFinished =
          party.begun.filter.connection.peerFinished := by
  obtain ⟨extra, rest, counters, phase, split, -, done⟩ :=
    awaits.expects.value_continueHandshake_of_whole awaits.undecided_begun arrived party.role
  refine ⟨_, awaits.turn_eq, ?_, rfl, ?_⟩
  · rw [done, awaits.config_begun]
    obtain ⟨inbox, peerFinished, before, _, _, given⟩ := awaits.given
    rw [given]
    exact ⟨rfl, extra, rest, peerFinished, counters, phase, split, rfl⟩
  · rw [done, connection_settled, peerFinished_answered]
    rfl

/-- As long as part of the record is missing a turn only takes what has arrived. -/
theorem exists_awaits_turn
    (awaits : party.Awaits base offered heard)
    (attended : party.begun.filter.connection.peerFinished = false)
    (part : heard ++ party.begun.filter.connection.inbox.flatten <+: greeting offered)
    (unfinished : (heard ++ party.begun.filter.connection.inbox.flatten).length < 30) :
    ∃ next,
      party.turn = ([], next) ∧
        next.Awaits base offered (heard ++ party.begun.filter.connection.inbox.flatten) ∧
        next.role = party.role ∧
        next.begun.filter.connection.inbox = [] ∧
        next.begun.filter.connection.peerFinished = false := by
  obtain ⟨counters, phase, expects, blocked⟩ :=
    awaits.expects.value_continueHandshake_of_part attended part unfinished party.role
  have undecided := awaits.undecided_begun
  obtain ⟨inbox, peerFinished, _, _, _, given⟩ := awaits.given
  refine ⟨_, awaits.turn_eq, ?_, rfl, ?_, ?_⟩
  · rw [blocked]
    exact
      { call := .inr rfl
        undecided := undecided.hearing _ _ _ _
        expects := expects
        given := ⟨[], peerFinished, counters, phase, _, by rw [begun, given]; rfl⟩ }
  · rw [blocked]
    rfl
  · rw [blocked]
    exact attended

/-- What arrives at an end does not depend on whether it has opened its handshake. -/
theorem begun_arrival
    (party : Party)
    (octets : Bytes) :
    begun { party with stream := (Occurrence.arrival octets).after party.stream } =
      (Occurrence.arrival octets).after party.begun := by
  obtain ⟨stream, role, call⟩ := party
  cases call with
  | none => cases role <;> rfl
  | some _ => rfl

theorem begun_peerCloses (party : Party) :
    begun { party with stream := Occurrence.peerCloses.after party.stream } =
      Occurrence.peerCloses.after party.begun := by
  obtain ⟨stream, role, call⟩ := party
  cases call with
  | none => cases role <;> rfl
  | some _ => rfl

theorem arrival
    (awaits : party.Awaits base offered heard)
    (octets : Bytes) :
    Awaits base offered heard
      { party with stream := (Occurrence.arrival octets).after party.stream } where
  call := awaits.call
  undecided := awaits.undecided.of_standing rfl
  expects := by
    rw [begun_arrival]
    exact awaits.expects.of_attention rfl
  given := by
    obtain ⟨inbox, _, _, _, _, given⟩ := awaits.given
    rw [begun_arrival, given]
    exact ⟨inbox ++ [octets], _, _, _, _, rfl⟩

theorem peerCloses
    (awaits : party.Awaits base offered heard) :
    Awaits base offered heard
      { party with stream := Occurrence.peerCloses.after party.stream } where
  call := awaits.call
  undecided := awaits.undecided.of_standing rfl
  expects := by
    rw [begun_peerCloses]
    exact awaits.expects.of_attention rfl
  given := by
    obtain ⟨_, _, _, _, _, given⟩ := awaits.given
    rw [begun_peerCloses, given]
    exact ⟨_, true, _, _, _, rfl⟩

/-- With nothing but the record there, a turn ends the handshake. -/
theorem switched_alone
    (awaits : party.Awaits base offered [])
    (empty : party.begun.filter.connection.inbox = []) :
    let alone := (party.meetAll [.arrival (greeting offered), .read]).2
    alone.Switched base offered [] ∧
      alone.role = party.role ∧
      alone.stream.filter.connection.peerFinished =
        party.begun.filter.connection.peerFinished := by
  intro alone
  have arrived :
      ([] : Bytes) ++
          (begun { party with
            stream := (Occurrence.arrival (greeting offered)).after party.stream
          }).filter.connection.inbox.flatten =
        greeting offered ++ [] := by
    rw [begun_arrival, Occurrence.after, empty]
    rfl
  obtain ⟨next, turn, switched, role, same⟩ :=
    (awaits.arrival (greeting offered)).exists_switched_turn arrived
  rw [begun_arrival] at same
  obtain rfl : alone = next := congrArg Prod.snd turn
  exact ⟨switched, role, same⟩

/-- Once the record is there as a whole, the next read ends the handshake. -/
theorem exists_resumes_of_whole
    {extra behind : Bytes}
    {later : List Occurrence}
    (awaits : party.Awaits base offered heard)
    (whole : heard ++ party.begun.filter.connection.inbox.flatten = greeting offered ++ extra)
    (split : extra ++ arriving later = behind)
    (orderly : Orderly later)
    (last : party.begun.filter.connection.peerFinished = true → arriving later = []) :
    ∃ next,
      party.meetAll [.read] = ([], next) ∧
        next.role = party.role ∧
        next.Resumes base offered behind
          (party.begun.filter.connection.peerFinished || closing later) later := by
  obtain ⟨next, turn, switched, role, same⟩ := awaits.exists_switched_turn whole
  refine ⟨next, ?_, role, ⟨⟨extra, split, switched⟩, orderly, ?_, ?_⟩⟩
  · rw [meetAll, meet, turn]
    rfl
  · rw [same]
    exact last
  · rw [same]

/--
When the whole record arrives, some turn ends the handshake before anything has
been read, and what has arrived by then stands before what arrives later.
-/
theorem exists_resumes
    {occurrences : List Occurrence}
    {behind : Bytes}
    (awaits : party.Awaits base offered heard)
    (orderly : Orderly occurrences)
    (sent :
      (heard ++ party.begun.filter.connection.inbox.flatten) ++ arriving occurrences =
        greeting offered ++ behind)
    (last : party.begun.filter.connection.peerFinished = true → arriving occurrences = []) :
    ∃ earlier later next,
      occurrences ++ [.read] = earlier ++ later ∧
        party.meetAll earlier = ([], next) ∧
        next.role = party.role ∧
        next.Resumes base offered behind
          (party.begun.filter.connection.peerFinished || closing occurrences) later := by
  induction orderly generalizing party heard with
  | nil =>
      rw [show arriving [] = [] from rfl, List.append_nil] at sent
      obtain ⟨next, met, role, resumes⟩ :=
        awaits.exists_resumes_of_whole sent (List.append_nil _) .nil fun _ => rfl
      exact ⟨[.read], [], next, rfl, met, role, resumes⟩
  | @read occurrences orderly inductionHypothesis =>
      rcases greeting_cases sent with ⟨part, unfinished, missing⟩ | ⟨extra, whole, split⟩
      · have attended : party.begun.filter.connection.peerFinished = false :=
          Bool.eq_false_iff.mpr fun finished => missing (last finished)
        obtain ⟨next, turn, awaitsNext, role, taken, same⟩ :=
          awaits.exists_awaits_turn attended part unfinished
        obtain ⟨earlier, later, last, split, met, sameRole, resumes⟩ :=
          inductionHypothesis awaitsNext
            (by rw [taken, List.flatten_nil, List.append_nil]; exact sent)
            fun finished => by cases same.symm.trans finished
        refine ⟨.read :: earlier, later, last, congrArg (_ :: ·) split, ?_, sameRole.trans role, ?_⟩
        · rw [meetAll, meet, turn, met]
          rfl
        · rw [attended, ← same]
          exact resumes
      · obtain ⟨orderlyLater, sameOctets, sameEnd⟩ := orderly.append_read
        rw [show arriving (.read :: occurrences) = arriving occurrences from rfl,
          ← sameOctets] at split last
        obtain ⟨next, met, role, resumes⟩ :=
          awaits.exists_resumes_of_whole whole split orderlyLater last
        rw [sameEnd, show closing occurrences = closing (.read :: occurrences) from rfl] at resumes
        exact ⟨[.read], occurrences ++ [.read], next, rfl, met, role, resumes⟩
  | @arrival occurrences octets orderly inductionHypothesis =>
      have inbox :
          (party.begun.filter.connection.inbox ++ [octets]).flatten =
            party.begun.filter.connection.inbox.flatten ++ octets := by
        simp only [List.flatten_append, List.flatten_cons, List.flatten_nil, List.append_nil]
      have sentLater :
          (heard ++ (party.begun.filter.connection.inbox ++ [octets]).flatten) ++
              arriving occurrences =
            greeting offered ++ behind := by
        rw [inbox, ← sent, List.append_assoc, List.append_assoc, List.append_assoc]
        rfl
      have hypothesis := inductionHypothesis (awaits.arrival octets)
      rw [begun_arrival] at hypothesis
      obtain ⟨earlier, later, next, split, met, rest⟩ :=
        hypothesis sentLater fun finished => (List.append_eq_nil_iff.mp (last finished)).2
      refine ⟨.arrival octets :: earlier, later, next, congrArg (_ :: ·) split, ?_, rest⟩
      rw [meetAll, show party.meet (.arrival octets) = ([], _) from rfl, met]
      rfl
  | @peerCloses occurrences silent orderly inductionHypothesis =>
      have hypothesis := inductionHypothesis awaits.peerCloses
      rw [begun_peerCloses] at hypothesis
      obtain ⟨earlier, later, next, split, met, role, resumes⟩ := hypothesis sent fun _ => silent
      refine ⟨.peerCloses :: earlier, later, next, congrArg (_ :: ·) split, ?_, role,
        ⟨resumes.switched, resumes.orderly, resumes.last, resumes.ends.trans ?_⟩⟩
      · rw [meetAll, show party.meet .peerCloses = ([], _) from rfl, met]
        rfl
      · exact (Bool.or_true _).symm

end Awaits

namespace Switched

variable {base : Stream} {offered : Extensions} {behind : Bytes} {party : Party}

/-- A stream that has switched to carrying opaque octets holds what arrived behind the record. -/
theorem conveys
    (switched : party.Switched base offered behind)
    (undecided : base.Undecided)
    (running : base.ended = false)
    (agreed : base.config.advertised.inter offered = ⟨false, true⟩) :
    party.stream.Conveys ∧ party.stream.pending = behind := by
  obtain ⟨extra, rest, peerFinished, counters, phase, split, stream⟩ := switched.stream
  rw [stream, agreed]
  obtain ⟨_, role, _⟩ := party
  have notOver {stream : Stream} (same : stream.ended = base.ended) : ¬ stream.ended = true := by
    rw [same, running]
    exact Bool.false_ne_true
  cases role with
  | initiator =>
      exact ⟨⟨rfl, rfl, undecided.plain, fun ended => absurd ended (notOver rfl)⟩, split⟩
  | responder =>
      exact ⟨⟨rfl, rfl, undecided.plain, fun ended => absurd ended (notOver rfl)⟩, split⟩

/-- The stream that an end switches to, but for what has arrived. -/
def target
    (base : Stream)
    (offered : Extensions)
    (role : Role) :
    Stream :=
  ((received base [] [] false base.filter.connection.counters .scanning).answered role).settled
    (base.config.advertised.inter offered)

/-- A stream that has switched to compression holds what arrived behind the record. -/
theorem exists_receiving
    (switched : party.Switched base offered behind)
    (compression : (base.config.advertised.inter offered).compression = true) :
    ∃ inbox peerFinished counters octets,
      octets ++ inbox.flatten = behind ∧
        party.stream =
          { target base offered party.role with
            filter :=
              (target base offered party.role).filter.receiving inbox peerFinished counters
                octets } := by
  obtain ⟨extra, rest, peerFinished, counters, phase, split, stream⟩ := switched.stream
  rw [stream, target]
  generalize base.config.advertised.inter offered = agreed at compression
  obtain ⟨_, coarse⟩ := agreed
  obtain rfl := compression
  obtain ⟨_, role, _⟩ := party
  refine ⟨rest, peerFinished, ?_, extra ++ [], ?_, ?_⟩
  · exact match role with
      | .initiator => counters
      | .responder => counters.sent (UInt64.ofNat (greeting base.config.advertised).length)
  · rw [List.append_nil, split]
  · cases role <;> cases coarse <;> rfl

theorem compresses_target
    (undecided : base.Undecided)
    (compression : (base.config.advertised.inter offered).compression = true)
    (role : Role) :
    (target base offered role).Compresses := by
  have framed := undecided.framed
  have standard := undecided.standard
  rw [target]
  generalize base.config.advertised.inter offered = agreed at compression
  obtain ⟨_, coarse⟩ := agreed
  obtain rfl := compression
  cases coarse with
  | true => cases role <;> exact ⟨rfl, standard, rfl, fun _ => rfl⟩
  | false =>
      have notCoarse {stream : Stream} (same : stream.coarse = base.coarse) :
          ¬ stream.coarse = true := by
        rw [same, framed]
        exact Bool.false_ne_true
      cases role with
      | initiator => exact ⟨rfl, standard, rfl, fun coarse => absurd coarse (notCoarse rfl)⟩
      | responder => exact ⟨rfl, standard, rfl, fun coarse => absurd coarse (notCoarse rfl)⟩

/--
A stream that has switched to compression trails one that switched when only
the record had arrived, and has been given all that follows.
-/
theorem trails
    {alone : Party}
    {arrived future : Bytes}
    {closes closed : Bool}
    (switched : party.Switched base offered arrived)
    (switchedAlone : alone.Switched base offered [])
    (undecided : base.Undecided)
    (compression : (base.config.advertised.inter offered).compression = true)
    (sameRole : alone.role = party.role)
    (attended : alone.stream.filter.connection.peerFinished = false)
    (octets : arrived ++ future = behind)
    (last : party.stream.filter.connection.peerFinished = true → future = [])
    (ends : (party.stream.filter.connection.peerFinished || closes) = closed) :
    Trails future closes party.stream
      (alone.meetAll (.arrival behind :: if closed then [.peerCloses] else [])).2.stream := by
  obtain ⟨inbox, peerFinished, counters, kept, split, stream⟩ :=
    switched.exists_receiving compression
  obtain ⟨inboxAlone, peerFinishedAlone, countersAlone, keptAlone, nothing, streamAlone⟩ :=
    switchedAlone.exists_receiving compression
  have compresses := compresses_target undecided compression party.role
  rw [sameRole] at streamAlone
  have given :
      (alone.meetAll (.arrival behind :: if closed then [.peerCloses] else [])).2.stream =
        { target base offered party.role with
          filter :=
            (target base offered party.role).filter.receiving (inboxAlone ++ [behind]) closed
              countersAlone keptAlone } := by
    rw [streamAlone] at attended
    obtain rfl : peerFinishedAlone = false := attended
    cases closed with
    | false =>
        change (Occurrence.arrival behind).after alone.stream = _
        rw [streamAlone]
        rfl
    | true =>
        change Occurrence.peerCloses.after ((Occurrence.arrival behind).after alone.stream) = _
        rw [streamAlone]
        rfl
  rw [stream] at last ends
  rw [stream, given]
  refine Lags.trails
    ⟨⟨compresses.negotiated, compresses.standard, compresses.compressing, compresses.unburdened⟩,
      rfl, ⟨_, _, _, _, rfl⟩, ?_, ends.symm, last⟩
  change (kept ++ inbox.flatten) ++ future = keptAlone ++ (inboxAlone ++ [behind]).flatten
  rw [split, octets, List.flatten_append, ← List.append_assoc, nothing]
  simp only [List.flatten_cons, List.flatten_nil, List.append_nil, List.nil_append]

end Switched

namespace Resumes

variable
  {base : Stream} {offered : Extensions} {behind : Bytes} {closes : Bool}
  {later : List Occurrence} {party : Party}

theorem called
    (resumes : party.Resumes base offered behind closes later) :
    party.call = some (.done (base.config.advertised.inter offered)) := by
  obtain ⟨_, -, switched⟩ := resumes.switched
  exact switched.called

/-- The reads of an end that switches to opaque octets return what is behind the record. -/
theorem relays
    (resumes : party.Resumes base offered behind closes later)
    (undecided : base.Undecided)
    (running : base.ended = false)
    (agreed : base.config.advertised.inter offered = ⟨false, true⟩) :
    let lived := party.meetAll later
    (∀ outcome ∈ lived.1, Plain outcome) ∧
      lived.1.flatMap Outcome.payload <+: behind ∧
      (.failed .closed ∈ lived.1 → lived.1.flatMap Outcome.payload = behind) ∧
      ∃ count,
        let others := lived.2.meetAll (List.replicate count .read)
        (lived.1 ++ others.1).flatMap Outcome.payload = behind ∧
          others.2.stream.read.value.1 =
            if closes then .failed .closed else .blocked .forEvent := by
  intro lived
  obtain ⟨arrived, octets, switched⟩ := resumes.switched
  obtain ⟨conveys, pendingIs⟩ := switched.conveys undecided running agreed
  have relays := relays_meetAll resumes.called conveys resumes.orderly resumes.last
  have kept := relays.kept
  rw [pendingIs, octets] at kept
  obtain ⟨count, returned, ends⟩ :=
    exists_relayed (call_meetAll resumes.called later) relays.conveys
  refine ⟨relays.plain, kept ▸ List.prefix_append _ _, fun member => ?_, count, ?_, ?_⟩
  · rw [relays.whole member, List.append_nil] at kept
    exact kept
  · rw [List.flatMap_append, returned]
    exact kept
  · rw [ends, relays.closed, resumes.ends]

/--
The reads of an end that switches to compression return what they do of one that
switched when only the record had arrived, and was then given all the rest.
-/
theorem reads_alone
    {alone : Party}
    (resumes : party.Resumes base offered behind closes later)
    (switchedAlone : alone.Switched base offered [])
    (undecided : base.Undecided)
    (compression : (base.config.advertised.inter offered).compression = true)
    (sameRole : alone.role = party.role)
    (attended : alone.stream.filter.connection.peerFinished = false) :
    let given := (alone.meetAll (.arrival behind :: if closes then [.peerCloses] else [])).2
    let lived := party.meetAll later
    let settled := lived.1.filter Outcome.isSettled
    let reads := given.meetAll (List.replicate settled.length .read)
    alone.stream.filter.enabled = true ∧
      settled = reads.1 ∧
      reads.2.stream.read.value.1 = lived.2.stream.read.value.1 ∧
      reads.2.stream.read.value.2.filter.unread =
        lived.2.stream.read.value.2.filter.unread := by
  intro given lived settled reads
  obtain ⟨arrived, octets, switched⟩ := resumes.switched
  have trails :=
    switched.trails switchedAlone undecided compression sameRole attended octets resumes.last
      resumes.ends
  obtain ⟨same, trailsLast⟩ :=
    trails_meetAll resumes.called (call_meetAll switchedAlone.called _) resumes.orderly trails
  refine ⟨?_, same, trailsLast.read_of_all⟩
  obtain ⟨_, _, _, _, -, stream⟩ := switchedAlone.exists_receiving compression
  rw [stream]
  exact (Switched.compresses_target undecided compression alone.role).compressing

end Resumes

section Opening

variable {equipment : Equipment} {offered : Extensions}

/-- An end of a new connection that has not begun to negotiate. -/
def opening
    (id : ConnectionId)
    (registry : Registry)
    (equipment : Equipment)
    (role : Role) :
    Party :=
  ⟨equipment.stream registry (.fresh id), role, none⟩

theorem awaits_opening
    (negotiates : equipment.config.negotiate = true)
    (framed : equipment.config.coarse = false)
    (accepts : 14 ≤ equipment.config.maxEventSize)
    (id : ConnectionId)
    (registry : Registry)
    (role : Role) :
    (opening id registry equipment role).Awaits (opening id registry equipment role).begun offered
      [] where
  call := .inl rfl
  undecided := equipment.undecided_stream negotiates framed ⟨rfl, rfl⟩ registry
  expects := by
    have expects := equipment.expects_stream accepts (.fresh id) registry offered
    cases role with
    | initiator => exact expects.of_attention rfl
    | responder => exact expects
  given := by
    cases role with
    | initiator => exact ⟨[], false, _, .scanning, 0, rfl⟩
    | responder => exact ⟨[], false, _, .scanning, 0, rfl⟩

/--
An end negotiates and reads while its peer's record and other octets behind it
arrive, in any chunks.  If its clock can tell until when it waits, nothing breaks
off and the handshake succeeds.  If the extensions agreed on are to carry opaque
octets as they are, the reads return the octets behind the record.  If they
compress, the reads return what they would if the record had arrived alone, the
handshake had ended, and then all other octets had arrived.
-/
theorem reads_independent_of_cut
    (negotiates : equipment.config.negotiate = true)
    (framed : equipment.config.coarse = false)
    (accepts : 14 ≤ equipment.config.maxEventSize)
    {clock : Clock}
    {now : clock.Instant}
    (timely : (clock.later? now equipment.config.handshakeTimeout).isSome)
    {occurrences : List Occurrence}
    {behind : Bytes}
    (orderly : Orderly occurrences)
    (sent : arriving occurrences = greeting offered ++ behind)
    (id : ConnectionId)
    (registry : Registry)
    (role : Role) :
    let agreed := equipment.config.advertised.inter offered
    let first := opening id registry equipment role
    let lived := first.meetAll (occurrences ++ [.read])
    let alone := (first.meetAll [.arrival (greeting offered), .read]).2
    let closes := if closing occurrences then [.peerCloses] else []
    let given := (alone.meetAll (.arrival behind :: closes)).2
    let settled := lived.1.filter Outcome.isSettled
    let reads := given.meetAll (List.replicate settled.length .read)
    (∀ happening, first.meetAllAt clock now happening = some (first.meetAll happening)) ∧
      lived.2.call = some (.done agreed) ∧
      (agreed = ⟨false, true⟩ →
        (∀ outcome ∈ lived.1, Plain outcome) ∧
          lived.1.flatMap Outcome.payload <+: behind ∧
          (.failed .closed ∈ lived.1 → lived.1.flatMap Outcome.payload = behind) ∧
          ∃ count,
            let others := lived.2.meetAll (List.replicate count .read)
            (lived.1 ++ others.1).flatMap Outcome.payload = behind ∧
              others.2.stream.read.value.1 =
                if closing occurrences then .failed .closed else .blocked .forEvent) ∧
      (agreed.compression = true →
        alone.stream.filter.enabled = true ∧
          settled = reads.1 ∧
          reads.2.stream.read.value.1 = lived.2.stream.read.value.1 ∧
          reads.2.stream.read.value.2.filter.unread =
            lived.2.stream.read.value.2.filter.unread) := by
  intro agreed first lived alone closes given settled reads
  have awaits := @awaits_opening equipment offered negotiates framed accepts id registry role
  have attended : first.begun.filter.connection.peerFinished = false := by cases role <;> rfl
  have empty : first.begun.filter.connection.inbox = [] := by cases role <;> rfl
  have running : first.begun.ended = false := by cases role <;> rfl
  have sameConfig : first.begun.config = equipment.config := by cases role <;> rfl
  have undecided := awaits.undecided_begun
  obtain ⟨earlier, later, next, split, met, sameRole, resumes⟩ :=
    awaits.exists_resumes orderly (by rw [empty]; exact sent)
      fun finished => by cases attended.symm.trans finished
  rw [attended, Bool.false_or] at resumes
  have livedIs : lived = next.meetAll later := by
    change first.meetAll (occurrences ++ [.read]) = _
    rw [split, meetAll_append, met]
    rfl
  have agreedIs : first.begun.config.advertised.inter offered = agreed := by rw [sameConfig]
  have called : next.call = some (.done agreed) := agreedIs ▸ resumes.called
  obtain ⟨switchedAlone, roleAlone, attendedAlone⟩ := awaits.switched_alone empty
  refine ⟨(faithful_of_uncalled rfl).meetAllAt_eq fun _ => timely,
    livedIs ▸ call_meetAll called later, fun coarse => ?_, fun compression => ?_⟩
  · rw [livedIs]
    exact resumes.relays undecided running (agreedIs.trans coarse)
  · rw [← agreedIs] at compression
    have reads :=
      resumes.reads_alone switchedAlone undecided compression (roleAlone.trans sameRole.symm)
        (attendedAlone.trans attended)
    rw [← livedIs] at reads
    exact reads

/-- A record that arrives in two chunks, the second one with two of the octets behind it. -/
def cutInRecord (offered : Extensions) (behind : Bytes) : List Occurrence :=
  [.arrival ((greeting offered).take 10), .read,
    .arrival ((greeting offered).drop 10 ++ behind.take 2), .read, .arrival (behind.drop 2),
    .peerCloses]

theorem orderly_cutInRecord
    (offered : Extensions)
    (behind : Bytes) :
    Orderly (cutInRecord offered behind) :=
  .arrival _ (.read (.arrival _ (.read (.arrival _ (.peerCloses rfl .nil)))))

theorem arriving_cutInRecord
    (offered : Extensions)
    (behind : Bytes) :
    arriving (cutInRecord offered behind) = greeting offered ++ behind := by
  simp only [arriving, cutInRecord, List.flatMap_cons, List.flatMap_nil, Occurrence.octets,
    List.nil_append, List.append_nil, List.append_assoc, List.take_append_drop]
  rw [← List.append_assoc, List.take_append_drop]

/--
Behind such a record one end, which carries opaque octets, returns these octets
and then that is all.  Another, which compresses, finds the event in a block as
it does when the block arrives later.
-/
theorem reads_independent_of_cut_in_record :
    let offered : Extensions := ⟨true, true⟩
    let relaying : Equipment :=
      ⟨{ StreamConfig.default with advertiseCoarse := true }, Compression.Zlib.compressor 6⟩
    let compressing : Equipment :=
      ⟨{ StreamConfig.default with compression := true }, Compression.Zlib.compressor 6⟩
    let block := Filter.block compressing.compressor tickParcel.wire
    let relays := opening ⟨1⟩ .empty relaying .responder
    let relayed := relays.meetAll (cutInRecord offered [1, 2, 3] ++ [.read])
    let unpacks := opening ⟨1⟩ Codec.sampleWriter compressing .initiator
    let unpacked := unpacks.meetAll (cutInRecord offered block ++ [.read])
    let alone := (unpacks.meetAll [.arrival (greeting offered), .read]).2
    let given := (alone.meetAll [.arrival block, .peerCloses]).2
    let settled := unpacked.1.filter Outcome.isSettled
    (relays.meetAllAt Clock.monotonic Clock.origin (cutInRecord offered [1, 2, 3] ++ [.read]) =
          some relayed ∧
        relayed.2.call = some (.done ⟨false, true⟩) ∧
        (∀ outcome ∈ relayed.1, Plain outcome) ∧
        ∃ count,
          let others := relayed.2.meetAll (List.replicate count .read)
          (relayed.1 ++ others.1).flatMap Outcome.payload = [1, 2, 3] ∧
            others.2.stream.read.value.1 = .failed .closed) ∧
      unpacks.meetAllAt Clock.monotonic Clock.origin (cutInRecord offered block ++ [.read]) =
          some unpacked ∧
        unpacked.2.call = some (.done ⟨true, false⟩) ∧
        alone.stream.filter.enabled = true ∧
        settled = (given.meetAll (List.replicate settled.length .read)).1 := by
  intro offered relaying compressing block relays relayed unpacks unpacked alone given settled
  have timely : (Clock.monotonic.later? Clock.origin (.ofSeconds 5)).isSome := by decide +kernel
  constructor
  · obtain ⟨runs, called, relayed, -⟩ :=
      @reads_independent_of_cut relaying offered rfl rfl (by decide) _ _ timely _ [1, 2, 3]
        (orderly_cutInRecord offered _) (arriving_cutInRecord offered _) ⟨1⟩ .empty .responder
    obtain ⟨plain, -, -, whole⟩ := relayed rfl
    exact ⟨runs _, called, plain, whole⟩
  · obtain ⟨runs, called, -, unpacked⟩ :=
      @reads_independent_of_cut compressing offered rfl rfl (by decide) _ _ timely _ block
        (orderly_cutInRecord offered _) (arriving_cutInRecord offered _) ⟨1⟩ Codec.sampleWriter
        .initiator
    obtain ⟨enabled, same, -⟩ := unpacked rfl
    exact ⟨runs _, called, enabled, same⟩

/-- Whenever an end calls that is to wait for too long, it breaks off although all is there. -/
theorem breaks_off_of_endless :
    let offered : Extensions := ⟨false, true⟩
    let config :=
      { StreamConfig.default with advertiseCoarse := true, handshakeTimeout := .longest }
    let first := opening ⟨1⟩ .empty ⟨config, Compression.Zlib.compressor 6⟩ .responder
    let occurrences := [.arrival (greeting offered ++ [1, 2, 3])]
    config.negotiate = true ∧
      config.coarse = false ∧
      14 ≤ config.maxEventSize ∧
      config.advertised.inter offered = ⟨false, true⟩ ∧
      Orderly occurrences ∧
      arriving occurrences = greeting offered ++ [1, 2, 3] ∧
      ∀ now, first.meetAllAt Clock.monotonic now (occurrences ++ [.read]) = none := by
  intro offered config first occurrences
  refine ⟨rfl, rfl, by decide, rfl, .arrival _ .nil, List.append_nil _, fun now => ?_⟩
  have endless : Clock.monotonic.later? now first.stream.config.handshakeTimeout = none :=
    Clock.later?_longest now
  have noTurn : .read ∉ occurrences := by simp [occurrences]
  exact meetAllAt_eq_none rfl rfl endless noTurn []

end Opening

end Party

end EventWire
