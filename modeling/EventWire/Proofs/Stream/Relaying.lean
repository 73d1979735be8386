import EventWire.Proofs.Stream.Lagging
import EventWire.Proofs.Stream.Turns

namespace EventWire

/-!
# An end whose handshake is over

An end that carries opaque octets returns them as they arrive, in whatever
pieces.  An end that compresses reads what another reads to which everything has
arrived already.
-/

namespace Stream

/-- The octets that a coarse stream has been given and not returned. -/
def pending (stream : Stream) : Bytes :=
  stream.rawBacklog ++ stream.filter.connection.inbox.flatten

/-- How many reads it takes to return the octets that a coarse stream has been given. -/
def portions (stream : Stream) : Nat :=
  (if stream.rawBacklog = [] then 0 else 1) + stream.filter.connection.inbox.length

/-- A stream that carries opaque octets and does not compress them. -/
structure Conveys (stream : Stream) : Prop where
  negotiated : stream.negotiated.isSome = true
  unframed : stream.coarse = true
  plain : stream.filter.enabled = false
  drained :
    stream.ended = true →
      stream.rawBacklog = [] ∧
        stream.filter.connection.inbox.flatten = [] ∧
        stream.filter.connection.peerFinished = true

/-- What a read of opaque octets can come to. -/
inductive Conveyed (stream : Stream) : Outcome Event → Stream → Prop where
  | octets
      {octets : Bytes}
      {next : Stream}
      (kept : octets ++ next.pending = stream.pending)
      (fewer : next.portions < stream.portions)
      (conveys : next.Conveys)
      (same :
        next.filter.connection.peerFinished = stream.filter.connection.peerFinished) :
      Conveyed stream (.done (.raw octets)) next
  | blocked
      (nothing : stream.pending = [])
      (attended : stream.filter.connection.peerFinished = false) :
      Conveyed stream (.blocked .forEvent) stream
  | closed
      {next : Stream}
      (nothing : stream.pending = [])
      (kept : next.pending = [])
      (conveys : next.Conveys)
      (finished : stream.filter.connection.peerFinished = true)
      (same :
        next.filter.connection.peerFinished = stream.filter.connection.peerFinished) :
      Conveyed stream (.failed .closed) next

/-- A read returns what stands first of the octets, and the others remain. -/
theorem Conveys.conveyed_read
    {stream : Stream}
    (conveys : stream.Conveys) :
    Conveyed stream stream.read.value.1 stream.read.value.2 := by
  rw [value_read_of_coarse conveys.negotiated conveys.unframed]
  by_cases unburdened : stream.rawBacklog = []
  · cases ended : stream.ended with
    | true =>
        obtain ⟨-, inbox, finished⟩ := conveys.drained ended
        have nothing : stream.pending = [] := by
          rw [pending, unburdened, inbox, List.append_nil]
        rw [value_readCoarse_of_ended unburdened ended]
        exact .closed nothing nothing conveys finished rfl
    | false =>
        rw [value_readCoarse_of_unburdened unburdened ended,
          Filter.value_receive_of_disabled conveys.plain]
        cases inbox : stream.filter.connection.inbox with
        | nil =>
            have nothing : stream.pending = [] := by
              rw [pending, unburdened, inbox]
              rfl
            dsimp only
            cases finished : stream.filter.connection.peerFinished with
            | true =>
                exact .closed nothing nothing
                  ⟨conveys.negotiated, conveys.unframed, conveys.plain,
                    fun _ => ⟨unburdened, congrArg List.flatten inbox, finished⟩⟩ finished rfl
            | false =>
                have same :
                    { stream with ended := decide (Arrival.blocked = .closed) } = stream := by
                  rw [show decide (Arrival.blocked = .closed) = false from rfl, ← ended]
                rw [if_neg Bool.false_ne_true, same]
                exact .blocked nothing finished
        | cons octets rest =>
            have kept : octets ++ rest.flatten = stream.pending := by
              rw [pending, unburdened, inbox]
              rfl
            refine .octets ?_ ?_ ⟨conveys.negotiated, conveys.unframed, conveys.plain, nofun⟩ rfl
            · rw [← kept, pending, unburdened]
              rfl
            · rw [portions, portions, inbox]
              exact Nat.add_lt_add_left (Nat.lt_succ_self _) _
  · rw [readCoarse, if_pos unburdened]
    have fewer : portions { stream with rawBacklog := [] } < stream.portions := by
      rw [portions, portions, if_neg unburdened, if_pos rfl]
      exact Nat.add_lt_add_right Nat.zero_lt_one _
    refine .octets rfl fewer
      ⟨conveys.negotiated, conveys.unframed, conveys.plain, fun ended => ?_⟩ rfl
    exact absurd (conveys.drained ended).1 unburdened

/-- What a read of opaque octets may report. -/
def Plain (outcome : Outcome Event) : Prop :=
  (∃ octets, outcome = .done (.raw octets)) ∨
    outcome = .blocked .forEvent ∨ outcome = .failed .closed

end Stream

namespace Party

open EventWire.Stream

/-- What has become of an end that reads opaque octets, and what its reads have reported. -/
structure Relays
    (party : Party)
    (occurrences : List Occurrence)
    (log : List (Outcome Event))
    (last : Party) : Prop where
  conveys : last.stream.Conveys
  closed :
    last.stream.filter.connection.peerFinished =
      (party.stream.filter.connection.peerFinished || closing occurrences)
  kept :
    log.flatMap Outcome.payload ++ last.stream.pending =
      party.stream.pending ++ arriving occurrences
  plain : ∀ outcome ∈ log, Plain outcome
  whole : .failed .closed ∈ log → last.stream.pending = []

/-- What happens first comes before what becomes of an end later. -/
theorem Relays.after
    {party next last : Party}
    {occurrence : Occurrence}
    {occurrences : List Occurrence}
    {outcomes log : List (Outcome Event)}
    (later : next.Relays occurrences log last)
    (closed :
      next.stream.filter.connection.peerFinished =
        (party.stream.filter.connection.peerFinished || .peerCloses == occurrence))
    (kept :
      outcomes.flatMap Outcome.payload ++ next.stream.pending =
        party.stream.pending ++ occurrence.octets)
    (plain : ∀ outcome ∈ outcomes, Plain outcome)
    (whole :
      .failed .closed ∈ outcomes → next.stream.pending ++ arriving occurrences = []) :
    party.Relays (occurrence :: occurrences) (outcomes ++ log) last where
  conveys := later.conveys
  closed := by
    rw [later.closed, closed, Bool.or_assoc]
    rfl
  kept := by
    rw [List.flatMap_append, List.append_assoc, later.kept, ← List.append_assoc, kept,
      List.append_assoc]
    rfl
  plain outcome member := (List.mem_append.mp member).elim (plain outcome) (later.plain outcome)
  whole member := by
    rcases List.mem_append.mp member with first | others
    · have nothing := later.kept
      rw [whole first] at nothing
      exact (List.append_eq_nil_iff.mp nothing).2
    · exact later.whole others

/-- An end that reads opaque octets returns what has arrived, and keeps what it has not returned. -/
theorem relays_meetAll
    {party : Party}
    {agreed : Extensions}
    {occurrences : List Occurrence}
    (called : party.call = some (.done agreed))
    (conveys : party.stream.Conveys)
    (orderly : Orderly occurrences)
    (last : party.stream.filter.connection.peerFinished = true → arriving occurrences = []) :
    party.Relays occurrences (party.meetAll occurrences).1 (party.meetAll occurrences).2 := by
  induction orderly generalizing party with
  | nil =>
      exact ⟨conveys, (Bool.or_false _).symm, (List.append_nil _).symm,
        List.forall_mem_nil _, fun ends => absurd ends List.not_mem_nil⟩
  | @read occurrences _ inductionHypothesis =>
      have turn := meet_read_of_done called
      have conveyed := conveys.conveyed_read
      have kept (octets : Bytes) : octets = octets ++ Occurrence.read.octets :=
        (List.append_nil _).symm
      rw [meetAll, turn]
      generalize party.stream.read.value = reading at conveyed
      obtain ⟨outcome, next⟩ := reading
      cases conveyed with
      | octets split _ conveysNext same =>
          have later :=
            @inductionHypothesis { party with stream := next } called conveysNext
              fun finished => last (same.symm.trans finished)
          refine later.after (same.trans (Bool.or_false _).symm) ?_ ?_ ?_
          · rw [← kept, ← split, List.flatMap_singleton]
            rfl
          · exact List.forall_mem_singleton.mpr (.inl ⟨_, rfl⟩)
          · exact fun ends => by cases List.mem_singleton.mp ends
      | blocked _ _ =>
          refine (inductionHypothesis called conveys last).after (Bool.or_false _).symm ?_ ?_
            ?_
          · exact kept _
          · exact List.forall_mem_singleton.mpr (.inr (.inl rfl))
          · exact fun ends => by cases List.mem_singleton.mp ends
      | closed nothing nothingNext conveysNext finished same =>
          have silent := last finished
          have later :=
            @inductionHypothesis { party with stream := next } called conveysNext fun _ => silent
          refine later.after (same.trans (Bool.or_false _).symm) ?_ ?_ fun _ => ?_
          · rw [← kept, nothing]
            exact nothingNext
          · exact List.forall_mem_singleton.mpr (.inr (.inr rfl))
          · exact List.append_eq_nil_iff.mpr ⟨nothingNext, silent⟩
  | @arrival occurrences octets _ inductionHypothesis =>
      let given := (Occurrence.arrival octets).after party.stream
      have arrived (earlier : Bytes) :
          earlier ++ (party.stream.filter.connection.inbox ++ [octets]).flatten =
            earlier ++ party.stream.filter.connection.inbox.flatten ++ octets := by
        simp only [List.flatten_append, List.flatten_cons, List.flatten_nil, List.append_nil,
          List.append_assoc]
      have conveysGiven : given.Conveys := by
        refine ⟨conveys.negotiated, conveys.unframed, conveys.plain, fun ended => ?_⟩
        obtain ⟨unburdened, inbox, finished⟩ := conveys.drained ended
        refine ⟨unburdened, (arrived []).trans ?_, finished⟩
        rw [List.nil_append, inbox]
        exact (List.append_eq_nil_iff.mp (last finished)).1
      have later :=
        @inductionHypothesis { party with stream := given } called conveysGiven
          fun finished => (List.append_eq_nil_iff.mp (last finished)).2
      exact later.after (Bool.or_false _).symm (arrived _) (List.forall_mem_nil _)
        fun ends => absurd ends List.not_mem_nil
  | @peerCloses occurrences silent _ inductionHypothesis =>
      let given := Occurrence.peerCloses.after party.stream
      have conveysGiven : given.Conveys := by
        refine ⟨conveys.negotiated, conveys.unframed, conveys.plain, fun ended => ?_⟩
        obtain ⟨unburdened, inbox, -⟩ := conveys.drained ended
        exact ⟨unburdened, inbox, rfl⟩
      have later :=
        @inductionHypothesis { party with stream := given } called conveysGiven fun _ => silent
      exact later.after (Bool.or_true _).symm (List.append_nil _).symm (List.forall_mem_nil _)
        fun ends => absurd ends List.not_mem_nil

/-- Enough reads return all octets that have arrived, and the next one says whether more may. -/
theorem exists_relayed
    {party : Party}
    {agreed : Extensions}
    (called : party.call = some (.done agreed))
    (conveys : party.stream.Conveys) :
    ∃ count,
      let lived := party.meetAll (List.replicate count .read)
      lived.1.flatMap Outcome.payload = party.stream.pending ∧
        lived.2.stream.read.value.1 =
          if party.stream.filter.connection.peerFinished then .failed .closed
          else .blocked .forEvent := by
  induction measure : party.stream.portions using Nat.strongRecOn generalizing party with
  | ind portions inductionHypothesis =>
      have turn := meet_read_of_done called
      have conveyed := conveys.conveyed_read
      generalize reads : party.stream.read.value = reading at conveyed turn
      obtain ⟨outcome, next⟩ := reading
      cases conveyed with
      | @octets octets _ split fewer conveysNext same =>
          obtain ⟨count, returned, ends⟩ :=
            @inductionHypothesis next.portions (measure ▸ fewer) { party with stream := next }
              called
              conveysNext rfl
          refine ⟨count + 1, ?_, ?_⟩
          · rw [List.replicate_succ, meetAll, turn, ← split, ← returned]
            rfl
          · rw [List.replicate_succ, meetAll, turn, ← same, ← ends]
      | blocked nothing attended =>
          refine ⟨0, nothing.symm, ?_⟩
          rw [attended]
          exact congrArg Prod.fst reads
      | closed nothing _ _ finished _ =>
          refine ⟨0, nothing.symm, ?_⟩
          rw [finished]
          exact congrArg Prod.fst reads

/--
An end whose stream trails another reads what that one reads, whenever it is not
blocked; in the end both are in the same state but for what they were given.
-/
theorem trails_meetAll
    {party ahead : Party}
    {agreed : Extensions}
    {occurrences : List Occurrence}
    (called : party.call = some (.done agreed))
    (calledAhead : ahead.call = some (.done agreed))
    (orderly : Orderly occurrences)
    (trails :
      Trails (arriving occurrences) (closing occurrences) party.stream ahead.stream) :
    let lived := party.meetAll occurrences
    let settled := lived.1.filter Outcome.isSettled
    let reads := ahead.meetAll (List.replicate settled.length .read)
    settled = reads.1 ∧
      Trails [] false lived.2.stream reads.2.stream := by
  induction orderly generalizing party ahead with
  | nil => exact ⟨rfl, trails⟩
  | @read occurrences _ inductionHypothesis =>
      dsimp only [meetAll]
      rw [meet_read_of_done called]
      rcases trails.read_cases with ⟨unblocked, same, trailsNext⟩ | ⟨blocked, trailsNext⟩
      · obtain ⟨settled, trailsLast⟩ :=
          @inductionHypothesis { party with stream := party.stream.read.value.2 }
            { ahead with stream := ahead.stream.read.value.2 } called calledAhead trailsNext
        have isSettled := Outcome.isSettled_iff.mpr unblocked
        dsimp only
        rw [List.singleton_append, List.filter_cons_of_pos isSettled, List.length_cons,
          List.replicate_succ, meetAll, meet_read_of_done calledAhead]
        refine ⟨?_, trailsLast⟩
        rw [same]
        exact congrArg (_ :: ·) settled
      · obtain ⟨settled, trailsLast⟩ :=
          @inductionHypothesis { party with stream := party.stream.read.value.2 } ahead called
            calledAhead trailsNext
        have unsettled : ¬ party.stream.read.value.1.isSettled = true := by
          rw [blocked]
          exact Bool.false_ne_true
        dsimp only
        rw [List.singleton_append, List.filter_cons_of_neg unsettled]
        exact ⟨settled, trailsLast⟩
  | @arrival occurrences octets _ inductionHypothesis =>
      exact @inductionHypothesis
        { party with stream := (Occurrence.arrival octets).after party.stream } ahead called
        calledAhead
        trails.arrival
  | @peerCloses occurrences silent _ inductionHypothesis =>
      have trailsClosed : Trails [] true party.stream ahead.stream := silent ▸ trails
      refine @inductionHypothesis
        { party with stream := Occurrence.peerCloses.after party.stream } ahead called
        calledAhead ?_
      rw [silent]
      exact trailsClosed.peerCloses _

end Party

end EventWire
