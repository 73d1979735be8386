import EventWire.Proofs.Stream.Joining

namespace EventWire

/-!
# The stages of a conversation

Two ends of a new connection converse, the left one as the initiator.  Until
both have received the other's record only the records are on their way; the
handshake puts the extensions into force at both ends before any other octets
that were sent under them are received.  So whatever the users of both ends do,
all events that one end has accepted have been returned by the other or are in
transit to it.
-/

open EventWire.Frame VersionRecord

namespace Equipment

/-- An end that is to negotiate framed events, and can. -/
structure Sound (equipment : Equipment) : Prop where
  negotiates : equipment.config.negotiate = true
  framed : equipment.config.coarse = false
  terminated : equipment.config.termination = .emptyFrame
  accepts : 14 ≤ equipment.config.maxEventSize

/-- An end of a new connection, before it is used. -/
def peer
    (equipment : Equipment)
    (registry : Registry)
    (connection : Connection)
    (role : Role) :
    Peer where
  stream := equipment.stream registry connection
  role := role
  call := none
  written := []
  returned := []
  flushed := true

end Equipment

/-- How two ends that share a registry are set up. -/
structure Setting where
  registry : Registry
  left : Equipment
  right : Equipment

/-- The two ends of a connection. -/
structure Conversation where
  left : Peer
  right : Peer

namespace Setting

/-- The extensions that both ends offer. -/
def agreed (setting : Setting) : Extensions :=
  setting.left.config.advertised.inter setting.right.config.advertised

/-- The ends come to carry framed events, and each can decompress what the other compresses. -/
structure Sound (setting : Setting) : Prop where
  left : setting.left.Sound
  right : setting.right.Sound
  framed : setting.agreed.coarse = false
  thither :
    ∀ octets,
      setting.right.compressor.decompress (setting.left.compressor.compress octets) = some octets
  hither :
    ∀ octets,
      setting.left.compressor.decompress (setting.right.compressor.compress octets) = some octets

/-- The two ends of a new connection, the left one being the initiator. -/
def opening (setting : Setting) : Conversation where
  left := setting.left.peer setting.registry Connection.pair.1 .initiator
  right := setting.right.peer setting.registry Connection.pair.2 .responder

/-- One end is used, or what one end has sent is carried to the other. -/
inductive Step
    (setting : Setting)
    (admits : Event → Prop) :
    Conversation → Conversation → Prop where
  | left
      {conversation : Conversation}
      {operation : Operation}
      (may : conversation.left.May setting.right.config.maxEventSize admits operation)
      (compact : (conversation.left.perform operation).Compact) :
      Step setting admits conversation
        { conversation with left := conversation.left.perform operation }
  | right
      {conversation : Conversation}
      {operation : Operation}
      (may : conversation.right.May setting.left.config.maxEventSize admits operation)
      (compact : (conversation.right.perform operation).Compact) :
      Step setting admits conversation
        { conversation with right := conversation.right.perform operation }
  | thither (conversation : Conversation) :
      Step setting admits conversation
        ⟨(conversation.left.carry conversation.right).1,
          (conversation.left.carry conversation.right).2⟩
  | hither (conversation : Conversation) :
      Step setting admits conversation
        ⟨(conversation.right.carry conversation.left).2,
          (conversation.right.carry conversation.left).1⟩

/-- Nothing has been sent one way. -/
def Silent (sender receiver : Peer) : Prop :=
  sender.stream.filter.connection.outbox = [] ∧ receiver.stream.filter.connection.inbox = []

/-- How far two ends have come, with what is in transit between them. -/
inductive Stage (setting : Setting) (conversation : Conversation) : Prop where
  /-- The initiator has not negotiated. -/
  | uncalled
      (uncalled : conversation.left.call = none)
      (left :
        conversation.left.Waits .initiator setting.left.config.advertised
          setting.right.config.advertised)
      (right :
        conversation.right.Waits .responder setting.right.config.advertised
          setting.left.config.advertised)
      (thither :
        Flows setting.registry setting.right.config.maxEventSize setting.agreed.compression []
          conversation.left conversation.right)
      (hither :
        Flows setting.registry setting.left.config.maxEventSize setting.agreed.compression []
          conversation.right conversation.left)
      (silentThither : Silent conversation.left conversation.right)
      (silentHither : Silent conversation.right conversation.left)
  /-- The initiator's record is on its way. -/
  | called
      (called : conversation.left.call = some (.blocked .forRecord))
      (left :
        conversation.left.Waits .initiator setting.left.config.advertised
          setting.right.config.advertised)
      (right :
        conversation.right.Waits .responder setting.right.config.advertised
          setting.left.config.advertised)
      (thither :
        Flows setting.registry setting.right.config.maxEventSize setting.agreed.compression
          [greeting setting.left.config.advertised] conversation.left conversation.right)
      (hither :
        Flows setting.registry setting.left.config.maxEventSize setting.agreed.compression []
          conversation.right conversation.left)
      (silentHither : Silent conversation.right conversation.left)
  /-- The responder has answered, and its record is on its way. -/
  | answered
      (called : conversation.left.call = some (.blocked .forRecord))
      (left :
        conversation.left.Waits .initiator setting.left.config.advertised
          setting.right.config.advertised)
      (right :
        conversation.right.Engaged setting.registry setting.left.config.maxEventSize
          setting.right.config.maxEventSize setting.agreed
          [greeting setting.right.config.advertised] conversation.left)
  /-- Both ends have negotiated. -/
  | settled
      (left :
        conversation.left.Engaged setting.registry setting.right.config.maxEventSize
          setting.left.config.maxEventSize setting.agreed [] conversation.right)
      (right : conversation.right.Converses setting.agreed)

namespace Stage

variable {setting : Setting} {conversation : Conversation} {operation : Operation}

theorem step_left
    (sound : setting.Sound)
    (stage : setting.Stage conversation)
    (may :
      conversation.left.May setting.right.config.maxEventSize setting.registry.Welcomes
        operation)
    (compact : (conversation.left.perform operation).Compact) :
    setting.Stage { conversation with left := conversation.left.perform operation } := by
  cases stage with
  | uncalled uncalled left right thither hither silentThither silentHither =>
      rcases may.called left.role_eq uncalled with rfl | rfl | rfl
      · have attended := hither.attended right.undecided.writable.unfinished
        obtain ⟨waits, called, thitherCalled, hitherCalled, inbox, -⟩ :=
          left.negotiate_initiator uncalled silentHither.2 attended silentThither.1
            silentThither.2 thither hither
        exact .called called waits right thitherCalled hitherCalled ⟨silentHither.1, inbox⟩
      · have idles := left.idles_flush
        exact .uncalled ((Peer.call_perform_flush _).trans uncalled) idles.waits right
          (idles.thither thither) (idles.hither hither)
          ⟨idles.outbox.trans silentThither.1, silentThither.2⟩
          ⟨silentHither.1, idles.inbox.trans silentHither.2⟩
      · have idles := left.idles_acknowledge
        exact .uncalled uncalled idles.waits right
          (idles.thither thither) (idles.hither hither)
          ⟨idles.outbox.trans silentThither.1, silentThither.2⟩
          ⟨silentHither.1, idles.inbox.trans silentHither.2⟩
  | called called left right thither hither silentHither =>
      have attended := hither.attended right.undecided.writable.unfinished
      rcases left.perform_cases (fun uncalled => nomatch uncalled.symm.trans called) may
          (.inl ⟨silentHither.2, attended⟩) with idles | ⟨_, _, _, inbox, -⟩
      · exact .called (idles.called called) idles.waits right (idles.thither thither)
          (idles.hither hither) ⟨silentHither.1, idles.inbox.trans silentHither.2⟩
      · exact nomatch silentHither.2.symm.trans inbox
  | answered called left right =>
      rcases left.perform_cases (fun uncalled => nomatch uncalled.symm.trans called) may
          right.thither.arrived with idles | ⟨rest, counters, phase, inbox, mayJoined, same⟩
      · exact .answered (idles.called called) idles.waits
          ⟨right.converses, idles.hither right.thither, idles.thither right.hither⟩
      · rw [same] at compact ⊢
        have joined :=
          left.engaged_initiator rest counters phase rfl sound.framed inbox right.hither
            right.thither
        exact .settled (joined.perform mayJoined compact) right.converses
  | settled left right => exact .settled (left.perform may compact) right

theorem step_right
    (sound : setting.Sound)
    (stage : setting.Stage conversation)
    (may :
      conversation.right.May setting.left.config.maxEventSize setting.registry.Welcomes
        operation)
    (compact : (conversation.right.perform operation).Compact) :
    setting.Stage { conversation with right := conversation.right.perform operation } := by
  cases stage with
  | uncalled uncalled left right thither hither silentThither silentHither =>
      have attended := thither.attended left.undecided.writable.unfinished
      rcases right.perform_cases (fun _ => rfl) may (.inl ⟨silentThither.2, attended⟩) with
        idles | ⟨_, _, _, inbox, -⟩
      · exact .uncalled uncalled left idles.waits (idles.hither thither) (idles.thither hither)
          ⟨silentThither.1, idles.inbox.trans silentThither.2⟩
          ⟨idles.outbox.trans silentHither.1, silentHither.2⟩
      · exact nomatch silentThither.2.symm.trans inbox
  | called called left right thither hither silentHither =>
      rcases right.perform_cases (fun _ => rfl) may thither.arrived with
        idles | ⟨rest, counters, phase, inbox, mayJoined, same⟩
      · exact .called called left idles.waits (idles.hither thither) (idles.thither hither)
          ⟨idles.outbox.trans silentHither.1, silentHither.2⟩
      · rw [same] at compact ⊢
        have agreed :
            setting.right.config.advertised.inter setting.left.config.advertised =
              setting.agreed :=
          Extensions.inter_comm _ _
        have framed := sound.framed
        rw [← agreed] at framed thither hither
        have joined :=
          right.engaged_responder rest counters phase rfl framed inbox silentHither.1
            silentHither.2 hither thither
        rw [agreed] at joined mayJoined compact ⊢
        exact .answered called left (joined.perform mayJoined compact)
  | answered called left right => exact .answered called left (right.perform may compact)
  | settled left right =>
      have engaged := Peer.Engaged.perform ⟨right, left.hither, left.thither⟩ may compact
      exact .settled ⟨left.converses, engaged.hither, engaged.thither⟩ engaged.converses

theorem carry_thither (stage : setting.Stage conversation) :
    setting.Stage
      ⟨(conversation.left.carry conversation.right).1,
        (conversation.left.carry conversation.right).2⟩ := by
  cases stage with
  | uncalled uncalled left right thither hither silentThither silentHither =>
      exact .uncalled uncalled (left.carry_sender _) (right.carry_receiver _) thither.carry
        (Peer.flows_against_carry hither)
        ⟨rfl, List.append_eq_nil_iff.mpr ⟨silentThither.2, silentThither.1⟩⟩ silentHither
  | called called left right thither hither silentHither =>
      exact .called called (left.carry_sender _) (right.carry_receiver _) thither.carry
        (Peer.flows_against_carry hither) silentHither
  | answered called left right =>
      exact .answered called (left.carry_sender _) right.carry_receiver
  | settled left right =>
      have engaged := left.carry_sender
      exact .settled engaged
        ⟨right.talks.listens (Peer.listens_carry _ _), right.free⟩

theorem carry_hither (stage : setting.Stage conversation) :
    setting.Stage
      ⟨(conversation.right.carry conversation.left).2,
        (conversation.right.carry conversation.left).1⟩ := by
  cases stage with
  | uncalled uncalled left right thither hither silentThither silentHither =>
      exact .uncalled uncalled (left.carry_receiver _) (right.carry_sender _)
        (Peer.flows_against_carry thither) hither.carry silentThither
        ⟨rfl, List.append_eq_nil_iff.mpr ⟨silentHither.2, silentHither.1⟩⟩
  | called called left right thither hither silentHither =>
      exact .called called (left.carry_receiver _) (right.carry_sender _)
        (Peer.flows_against_carry thither) hither.carry
        ⟨rfl, List.append_eq_nil_iff.mpr ⟨silentHither.2, silentHither.1⟩⟩
  | answered called left right =>
      exact .answered called (left.carry_receiver _) right.carry_sender
  | settled left right =>
      exact .settled left.carry_receiver
        ⟨right.talks.speaks (Peer.speaks_carry _ _), right.free⟩

theorem step
    {next : Conversation}
    (sound : setting.Sound)
    (stage : setting.Stage conversation)
    (step : setting.Step setting.registry.Welcomes conversation next) :
    setting.Stage next := by
  cases step with
  | left may compact => exact stage.step_left sound may compact
  | right may compact => exact stage.step_right sound may compact
  | thither => exact stage.carry_thither
  | hither => exact stage.carry_hither

end Stage

theorem waits_peer
    {equipment : Equipment}
    (sound : equipment.Sound)
    (registry : Registry)
    (id : ConnectionId)
    (role : Role)
    (offered : Extensions) :
    (equipment.peer registry (.fresh id) role).Waits role equipment.config.advertised offered := by
  obtain ⟨negotiates, framed, terminated, accepts⟩ := sound
  exact ⟨rfl, .inl rfl,
    Equipment.undecided_stream negotiates framed ⟨rfl, rfl⟩ registry,
    Equipment.expects_stream accepts (.fresh id) registry offered, terminated, rfl, rfl⟩

theorem flows_peer
    {writer reader : Equipment}
    (sound : reader.Sound)
    (lossless :
      ∀ octets,
        reader.compressor.decompress (writer.compressor.compress octets) = some octets)
    (registry : Registry)
    (id other : ConnectionId)
    (role opposite : Role)
    (compressing : Bool) :
    Flows registry reader.config.maxEventSize compressing []
      (writer.peer registry (.fresh id) role) (reader.peer registry (.fresh other) opposite) where
  shared := rfl
  standard := rfl
  roomy := sound.accepts
  lossless := lossless
  accounted := by
    refine ⟨[], [], [], ⟨?_, rfl, ⟨[], rfl, .nil⟩, rfl, nofun, ?_, fun _ => rfl, nofun, nofun⟩,
      fun _ => rfl, .nil⟩
    · exact Decoder.Holds.fresh _ _
    · exact fun _ => ⟨rfl, fun _ => rfl⟩

theorem stage_opening {setting : Setting} (sound : setting.Sound) :
    setting.Stage setting.opening :=
  .uncalled rfl (waits_peer sound.left _ _ _ _) (waits_peer sound.right _ _ _ _)
    (flows_peer sound.right sound.thither _ _ _ _ _ _)
    (flows_peer sound.left sound.hither _ _ _ _ _ _) ⟨rfl, rfl⟩ ⟨rfl, rfl⟩

/-- Whatever has been done, the two ends are at one of the stages. -/
theorem stage_of_reachable
    {setting : Setting}
    {conversation : Conversation}
    (sound : setting.Sound)
    (reached :
      Relation.ReflTransGen (setting.Step setting.registry.Welcomes) setting.opening
        conversation) :
    setting.Stage conversation := by
  induction reached with
  | refl => exact stage_opening sound
  | tail _ step inductionHypothesis => exact inductionHypothesis.step sound step

end Setting

end EventWire
