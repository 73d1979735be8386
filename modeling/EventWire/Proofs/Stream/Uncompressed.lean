import EventWire.Proofs.Stream.Stages

namespace EventWire

/-!
# Conversations without compression

Nothing stands in the way of a conversation: both ends can be brought through
the handshake, and then whatever has a parcel can be written and sent.  Without
compression the parcels that are on their way are exactly those of the events
written, so that it is known what the other end can read.
-/

open EventWire.Frame VersionRecord

namespace Setting

section Sending

/--
Both ends have negotiated, and what is in transit to the right one is the given
parcels, of which nothing has been received yet.
-/
structure Ready
    (setting : Setting)
    (parcels : List Parcel)
    (conversation : Conversation) : Prop where
  left : conversation.left.Converses setting.agreed
  called : conversation.left.call ≠ none
  unfinished : conversation.left.stream.filter.connection.finished = false
  shared : conversation.left.stream.codec.registry = setting.registry
  right : conversation.right.Converses setting.agreed
  known : conversation.right.stream.codec.registry = setting.registry
  lossless :
    ∀ octets,
      conversation.right.stream.filter.compressor.decompress
          (conversation.left.stream.filter.compressor.compress octets) =
        some octets
  transit :
    ∃ groups,
      groups.flatten = parcels ∧
        Stream.Transit setting.right.config.maxEventSize setting.agreed.compression []
          conversation.left.stream conversation.right.stream [] groups []

variable {setting : Setting} {conversation : Conversation} {admits : Event → Prop}

/-- The initiator calls, and its record is carried. -/
theorem exists_called (sound : setting.Sound) (admits : Event → Prop) :
    ∃ conversation,
      Relation.ReflTransGen (setting.Step admits) setting.opening conversation ∧
        conversation.left.Waits .initiator setting.left.config.advertised
          setting.right.config.advertised ∧
        conversation.right.Waits .responder setting.right.config.advertised
          setting.left.config.advertised ∧
        Flows setting.registry setting.right.config.maxEventSize setting.agreed.compression
          [greeting setting.left.config.advertised] conversation.left conversation.right ∧
        Flows setting.registry setting.left.config.maxEventSize setting.agreed.compression []
          conversation.right conversation.left ∧
        Silent conversation.right conversation.left ∧
        conversation.left.call = some (.blocked .forRecord) ∧
        conversation.left.stream.filter.connection.outbox = [] ∧
        conversation.right.stream.filter.connection.inbox =
          [greeting setting.left.config.advertised] ∧
        conversation.left.written = [] ∧
        conversation.right.returned = [] := by
  let left := setting.opening.left
  let right := setting.opening.right
  let calling := left.perform .negotiate
  have rightWaits :=
    waits_peer sound.right setting.registry ⟨2⟩ .responder setting.left.config.advertised
  obtain ⟨leftWaits, called, thither, hither, inbox, outbox⟩ :=
    (waits_peer sound.left setting.registry ⟨1⟩ .initiator
        setting.right.config.advertised).negotiate_initiator
      rfl rfl rfl rfl rfl
      (flows_peer sound.right sound.thither _ _ ⟨2⟩ _ .responder setting.agreed.compression)
      (flows_peer sound.left sound.hither _ ⟨2⟩ _ .responder _ setting.agreed.compression)
  have calls : setting.Step admits setting.opening ⟨calling, right⟩ :=
    .left (Peer.may_negotiate rfl) fun enabled =>
      nomatch leftWaits.undecided.plain.symm.trans enabled
  refine ⟨⟨(calling.carry right).1, (calling.carry right).2⟩,
    .tail (.single calls) (.thither _), leftWaits.carry_sender right,
    rightWaits.carry_receiver calling, thither.carry, Peer.flows_against_carry hither,
    ⟨rfl, inbox⟩, called, rfl, outbox, rfl, rfl⟩

/-- The responder answers, and its record is carried. -/
theorem exists_answered
    (sound : setting.Sound)
    (plain : setting.agreed.compression = false)
    (admits : Event → Prop) :
    ∃ conversation,
      Relation.ReflTransGen (setting.Step admits) setting.opening conversation ∧
        conversation.left.Waits .initiator setting.left.config.advertised
          setting.right.config.advertised ∧
        conversation.right.Engaged setting.registry setting.left.config.maxEventSize
          setting.right.config.maxEventSize setting.agreed
          [greeting setting.right.config.advertised] conversation.left ∧
        conversation.left.call = some (.blocked .forRecord) ∧
        Silent conversation.left conversation.right ∧
        conversation.right.stream.decoder.buffer = [] ∧
        conversation.left.stream.filter.connection.inbox =
          [greeting setting.right.config.advertised] ∧
        conversation.left.written = [] ∧
        conversation.right.returned = [] := by
  obtain ⟨⟨left, right⟩, reached, leftWaits, rightWaits, thither, hither, ⟨rightOutbox, leftInbox⟩,
    called, leftOutbox, rightInbox, written, returned⟩ := exists_called sound admits
  have may : right.May setting.left.config.maxEventSize admits .negotiate :=
    Peer.may_negotiate rightWaits.undecided.writable.unfinished
  obtain ⟨counters, phase, answers⟩ :=
    rightWaits.perform_of_record (fun _ => rfl) may rfl rightInbox
  have agreed :
      setting.right.config.advertised.inter setting.left.config.advertised = setting.agreed :=
    Extensions.inter_comm _ _
  have framed := sound.framed
  rw [← agreed] at framed thither hither
  have joined :=
    rightWaits.engaged_responder [] counters phase rfl framed rightInbox rightOutbox leftInbox
      hither thither
  rw [agreed] at joined answers
  obtain ⟨outcome, unmoved, -⟩ := joined.converses.perform_negotiate
  have engaged := joined.negotiate
  rw [unmoved] at answers engaged
  let answering : Peer :=
    { right.joined .responder setting.agreed [] counters phase with call := some outcome }
  have step : setting.Step admits ⟨left, right⟩ ⟨left, answering⟩ := by
    rw [show answering = right.perform .negotiate from answers.symm]
    refine .right may ?_
    rw [answers]
    exact engaged.converses.compact plain
  have connection :
      answering.stream.filter.connection =
        ((right.stream.took [] counters phase).answered .responder).filter.connection :=
    Stream.connection_settled _ _
  refine ⟨⟨(answering.carry left).2, (answering.carry left).1⟩,
    (reached.tail step).tail (.hither _), leftWaits.carry_receiver _, engaged.carry_sender, called,
    ⟨leftOutbox, ?_⟩, ?_, ?_, written, returned⟩
  · exact congrArg Connection.inbox connection
  · exact Stream.buffer_settled rfl setting.agreed
  · have outbox :
        answering.stream.filter.connection.outbox = [greeting setting.right.config.advertised] := by
      rw [connection, ← rightWaits.advertised]
      exact congrArg (· ++ [greeting right.stream.config.advertised]) rightOutbox
    exact congrArg₂ (· ++ ·) leftInbox outbox

/-- Both ends can be brought to converse. -/
theorem exists_ready
    (sound : setting.Sound)
    (plain : setting.agreed.compression = false)
    (admits : Event → Prop) :
    ∃ conversation,
      Relation.ReflTransGen (setting.Step admits) setting.opening conversation ∧
        setting.Ready [] conversation ∧
        conversation.left.written = [] ∧
        conversation.right.returned = [] := by
  obtain ⟨⟨left, right⟩, reached, waits, engaged, called, ⟨outbox, rightInbox⟩, empty, inbox,
    written, returned⟩ := exists_answered sound plain admits
  have may : left.May setting.right.config.maxEventSize admits .negotiate :=
    Peer.may_negotiate waits.undecided.writable.unfinished
  obtain ⟨counters, phase, answers⟩ :=
    waits.perform_of_record (fun uncalled => nomatch uncalled.symm.trans called) may rfl inbox
  have joined :=
    waits.engaged_initiator [] counters phase rfl sound.framed inbox engaged.hither engaged.thither
  obtain ⟨outcome, unmoved, -⟩ := joined.converses.perform_negotiate
  have joins := joined.negotiate
  rw [unmoved] at answers joins
  let ready : Peer :=
    { left.joined .initiator setting.agreed [] counters phase with call := some outcome }
  have step : setting.Step admits ⟨left, right⟩ ⟨ready, right⟩ := by
    rw [show ready = left.perform .negotiate from answers.symm]
    refine .left may ?_
    rw [answers]
    exact joins.converses.compact plain
  have connection :
      ready.stream.filter.connection = (left.stream.took [] counters phase).filter.connection :=
    Stream.connection_settled _ _
  have unfinished : ready.stream.filter.connection.finished = false := by
    rw [connection]
    exact waits.undecided.writable.unfinished
  refine ⟨⟨ready, right⟩, reached.tail step, ⟨joins.converses, nofun, unfinished,
    joins.hither.shared, engaged.converses, joins.thither.shared,
    joins.thither.lossless, [], rfl, ?_⟩, written, returned⟩
  -- Nothing has been given, and what had been received was the record.
  obtain ⟨held, groups, unsent, transit, -⟩ := joins.thither.accounted
  have noneHeld : held = [] := transit.holds.eq_nil empty
  have noneSent : groups = [] :=
    transit.groups_eq_nil rightInbox ((congrArg Connection.outbox connection).trans outbox)
  have noneGathered : unsent = [] :=
    (transit.gathers unfinished).atOnce (joins.converses.talks.inForce.compressing.trans plain)
  obtain rfl := noneHeld
  obtain rfl := noneSent
  obtain rfl := noneGathered
  exact transit

namespace Ready

variable {parcels : List Parcel}

theorem writable (ready : setting.Ready parcels conversation) :
    conversation.left.stream.filter.connection.Writable :=
  ⟨ready.unfinished, ready.left.talks.attended⟩

theorem gathers (ready : setting.Ready parcels conversation) :
    conversation.left.stream.filter.Gathers [] := by
  obtain ⟨_, -, transit⟩ := ready.transit
  exact transit.gathers ready.unfinished

/-- As nothing is compressed, what is given is sent at once. -/
theorem gives
    {next : Stream}
    {others rest : List Parcel}
    {groups : List (List Parcel)}
    (ready : setting.Ready parcels conversation)
    (plain : setting.agreed.compression = false)
    (gives : conversation.left.stream.Gives [] others groups rest next)
    (small : ∀ parcel ∈ others, parcel.body.length ≤ setting.right.config.maxEventSize)
    (written : List Event)
    (flushed : Bool) :
    setting.Ready (parcels ++ others)
      { conversation with
        left :=
          { conversation.left with stream := next, written := written, flushed := flushed } } := by
  obtain ⟨earlier, flattened, transit⟩ := ready.transit
  have left : Peer.Converses setting.agreed { conversation.left with stream := next } :=
    ⟨ready.left.talks.speaks gives.speaks, ready.left.free⟩
  have disabled := left.talks.inForce.compressing.trans plain
  have nothing := gives.emits.gathers.atOnce disabled
  have kept := gives.emits.kept
  have sent :=
    transit.gives gives ready.unfinished ready.left.talks.inForce.compressing ready.lossless
      (left.compact plain) small
  rw [nothing, List.append_nil, List.nil_append] at kept
  rw [nothing] at sent
  have flattenedAll : (earlier ++ groups).flatten = parcels ++ others := by
    rw [List.flatten_append, flattened, kept]
  obtain ⟨unacknowledged, acknowledged, shape⟩ := gives.same
  obtain ⟨gathered, counters, spoken⟩ := gives.emits.next_eq
  rw [spoken] at shape
  subst shape
  exact ⟨⟨left.talks, left.free⟩, ready.called, ready.unfinished, ready.shared, ready.right,
    ready.known, ready.lossless, _, flattenedAll, sent⟩

/-- Whatever has a parcel and is admitted can be written. -/
theorem write
    {event : Event}
    {parcel : Parcel}
    (ready : setting.Ready parcels conversation)
    (plain : setting.agreed.compression = false)
    (encodes : conversation.left.stream.codec.Encodes event parcel)
    (admitted : admits event)
    (small : parcel.body.length ≤ setting.right.config.maxEventSize) :
    ∃ next,
      setting.Step admits conversation next ∧
        setting.Ready (parcels ++ [parcel]) next ∧
        next.left.written = conversation.left.written ++ [event] ∧
        next.right = conversation.right := by
  obtain ⟨count, groups, rest, next, performed, gives⟩ :=
    ready.left.talks.exists_gives_write ready.gathers ready.writable encodes
  have shape :
      conversation.left.perform (.write event) =
        { conversation.left with
          stream := next
          written := conversation.left.written ++ [event]
          flushed := false } := by
    rw [Peer.perform, performed]
  have written :=
    ready.gives plain gives (List.forall_mem_singleton.mpr small)
      (conversation.left.written ++ [event]) false
  have may :
      conversation.left.May setting.right.config.maxEventSize admits (.write event) := by
    refine ⟨?_, fun _ uncalled => absurd uncalled ready.called, ?_,
      (fun closes => by cases closes), ?_⟩
    · exact fun wait blocked => absurd blocked (ready.left.free wait)
    · exact fun finished => by cases ready.unfinished.symm.trans finished
    · rintro _ body ⟨rfl⟩ serialized
      cases encodes.body_eq.symm.trans serialized
      exact ⟨admitted, small⟩
  refine ⟨{ conversation with left := conversation.left.perform (.write event) }, .left may ?_, ?_⟩
  · rw [shape]
    exact written.left.compact plain
  · rw [shape]
    exact ⟨written, rfl, rfl⟩

theorem writeAll
    {events : List Event}
    {others : List Parcel}
    (ready : setting.Ready parcels conversation)
    (plain : setting.agreed.compression = false)
    (encoded : List.Forall₂ setting.registry.Encodes events others)
    (admitted : ∀ event ∈ events, admits event)
    (small : ∀ parcel ∈ others, parcel.body.length ≤ setting.right.config.maxEventSize) :
    ∃ next,
      Relation.ReflTransGen (setting.Step admits) conversation next ∧
        setting.Ready (parcels ++ others) next ∧
        next.left.written = conversation.left.written ++ events ∧
        next.right = conversation.right := by
  induction encoded generalizing conversation parcels with
  | nil =>
      refine ⟨conversation, .refl, ?_, (List.append_nil _).symm, rfl⟩
      rwa [List.append_nil]
  | @cons event parcel events others first _ inductionHypothesis =>
      obtain ⟨admittedFirst, admittedOthers⟩ := List.forall_mem_cons.mp admitted
      obtain ⟨smallFirst, smallOthers⟩ := List.forall_mem_cons.mp small
      obtain ⟨next, step, readyNext, written, right⟩ :=
        ready.write plain (first _ ready.shared ready.left.talks.standard) admittedFirst smallFirst
      obtain ⟨last, reached, readyLast, writtenLast, rightLast⟩ :=
        inductionHypothesis readyNext admittedOthers smallOthers
      refine ⟨last, .head step reached, ?_, ?_, rightLast.trans right⟩
      · rwa [List.append_assoc] at readyLast
      · rw [writtenLast, written, List.append_assoc]
        rfl

/-- What has been sent can be flushed, although nothing is gathered. -/
theorem flush
    (ready : setting.Ready parcels conversation)
    (plain : setting.agreed.compression = false)
    (admits : Event → Prop) :
    ∃ next,
      setting.Step admits conversation next ∧
        setting.Ready parcels next ∧
        next.left.written = conversation.left.written ∧
        next.left.flushed = true ∧
        next.right = conversation.right := by
  obtain ⟨count, groups, next, performed, gives⟩ :=
    Stream.exists_gives_flush ready.gathers ready.writable
  have shape :
      conversation.left.perform .flush =
        { conversation.left with stream := next, flushed := true } := by
    rw [Peer.perform, performed]
  have flushed := ready.gives plain gives (List.forall_mem_nil _) conversation.left.written true
  have may : conversation.left.May setting.right.config.maxEventSize admits .flush := by
    refine ⟨?_, fun _ uncalled => absurd uncalled ready.called, fun _ => .inl rfl,
      (fun closes => by cases closes), fun _ _ writes => by cases writes⟩
    exact fun wait blocked => absurd blocked (ready.left.free wait)
  refine ⟨{ conversation with left := conversation.left.perform .flush }, .left may ?_, ?_⟩
  · rw [shape]
    exact flushed.left.compact plain
  · rw [shape]
    rw [List.append_nil] at flushed
    exact ⟨flushed, rfl, rfl, rfl⟩

theorem carry (ready : setting.Ready parcels conversation) :
    setting.Ready parcels
      ⟨(conversation.left.carry conversation.right).1,
        (conversation.left.carry conversation.right).2⟩ := by
  obtain ⟨groups, flattened, transit⟩ := ready.transit
  exact ⟨⟨ready.left.talks.speaks (Peer.speaks_carry _ _), ready.left.free⟩, ready.called,
    ready.unfinished, ready.shared,
    ⟨ready.right.talks.listens (Peer.listens_carry _ _), ready.right.free⟩, ready.known,
    ready.lossless, groups, flattened, transit.carry⟩

/-- A read is blocked unless one of the parcels settles it. -/
theorem read_cases (ready : setting.Ready parcels conversation) :
    ∃ outcome last,
      conversation.right.stream.read.value = Stream.conclude outcome last ∧
        (outcome = .blocked .forEvent ∨
          ∃ parcel ∈ parcels, ∃ result,
            (Stream.judgeEvent conversation.right.stream.codec parcel).value =
              .settled result) := by
  obtain ⟨groups, flattened, transit⟩ := ready.transit
  obtain ⟨completed, outcome, received, awaited⟩ :=
    Stream.exists_awaited (Stream.judgeEvent conversation.right.stream.codec) .closed .forEvent
      conversation.right.stream
  obtain ⟨later, others, still, split, -, closed, outcomes⟩ :=
    transit.exists_awaited awaited ready.right.talks.inForce.compressing
      (Stream.judgeEvent_ne_closed _)
  rw [List.nil_append, flattened] at split
  refine ⟨outcome, received,
    ready.right.talks.isFramed.value_read.trans (Stream.value_readFramed awaited), ?_⟩
  rcases outcomes with blocked | failed | ⟨parcel, member, result, judged, -⟩
  · exact .inl blocked
  · obtain ⟨-, finished⟩ := still.drained (closed failed).2
    exact nomatch ready.unfinished.symm.trans (still.closed finished).1
  · rw [split]
    exact .inr ⟨parcel, List.mem_append_left _ member, result, judged⟩

end Ready

/-- Whatever both ends can make parcels of can be written, flushed and carried. -/
theorem exists_sent
    {events : List Event}
    {parcels : List Parcel}
    (sound : setting.Sound)
    (plain : setting.agreed.compression = false)
    (encoded : List.Forall₂ setting.registry.Encodes events parcels)
    (admitted : ∀ event ∈ events, admits event)
    (small : ∀ parcel ∈ parcels, parcel.body.length ≤ setting.right.config.maxEventSize) :
    ∃ conversation,
      Relation.ReflTransGen (setting.Step admits) setting.opening conversation ∧
        setting.Ready parcels conversation ∧
        conversation.left.written = events ∧
        conversation.left.flushed = true ∧
        conversation.left.stream.filter.connection.outbox = [] ∧
        conversation.right.returned = [] := by
  obtain ⟨opened, opening, ready, nothing, returned⟩ := exists_ready sound plain admits
  obtain ⟨full, writing, filled, written, unmoved⟩ := ready.writeAll plain encoded admitted small
  obtain ⟨last, flushing, emptied, kept, flushed, still⟩ := filled.flush plain admits
  refine ⟨_, ((opening.trans writing).tail flushing).tail (.thither last), emptied.carry, ?_,
    flushed, rfl, ?_⟩
  · exact kept.trans (written.trans (by rw [nothing, List.nil_append]))
  · exact (congrArg Peer.returned (still.trans unmoved)).trans returned

end Sending

end Setting

end EventWire
