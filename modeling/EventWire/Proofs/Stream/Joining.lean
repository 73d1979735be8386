import EventWire.Proofs.Stream.Conversation

namespace EventWire

/-!
# Joining a conversation

An end that waits for its peer's record can do nothing of which its peer would
know, except that an initiator sends its own record.  With the record in its
inbox it joins the conversation: it answers, puts the extensions into force and
goes on as if it had never done anything else, and what is in transit behind
the record stays there.
-/

open EventWire.Frame VersionRecord

namespace Stream

section Switching

variable
  {limit : Nat} {compressing : Bool} {lead : List Bytes} {sender receiver : Stream}
  {held : List Parcel} {groups : List (List Parcel)} {unsent : List Parcel}

namespace Transit

/-- An end that has sent nothing but its record has it in transit. -/
theorem sender_greeted
    (transit : Transit limit compressing [] sender receiver held groups unsent)
    (unfinished : sender.filter.connection.finished = false)
    (outbox : sender.filter.connection.outbox = [])
    (inbox : receiver.filter.connection.inbox = [])
    (own : Extensions) :
    Transit limit compressing [greeting own] (sender.greeted own) receiver held groups unsent := by
  obtain rfl := transit.groups_eq_nil inbox outbox
  refine ⟨transit.holds, transit.clear, ⟨[], ?_, .nil⟩, transit.accepts, transit.small, ?_,
    transit.spent, ?_, transit.drained⟩
  · rw [inbox, greeted, Filter.posted, Connection.posted, outbox]
    rfl
  · exact fun still => ⟨(transit.gathers still).gathered_eq, (transit.gathers still).atOnce⟩
  · exact fun noticed => absurd (transit.closed noticed).1 (Bool.eq_false_iff.mp unfinished)

/-- Putting extensions into force has no influence on what is sent as long as nothing was. -/
theorem sender_settled
    (transit : Transit limit compressing lead sender receiver held groups unsent)
    (unfinished : sender.filter.connection.finished = false)
    (plain : sender.filter.enabled = false)
    (agreed : Extensions) :
    Transit limit compressing lead (sender.settled agreed) receiver held groups unsent := by
  have nothing := (transit.gathers unfinished).atOnce plain
  have empty := (transit.gathers unfinished).gathered_eq
  rcases agreed with ⟨_ | _, _⟩ <;>
    exact ⟨transit.holds, transit.clear, transit.chunks, transit.accepts, transit.small,
      fun _ => ⟨empty, fun _ => nothing⟩, transit.spent, transit.closed, transit.drained⟩

/-- An end that waits for its peer's record has decoded nothing. -/
theorem receiver_waits
    (transit : Transit limit compressing lead sender receiver held groups unsent)
    (inbox : receiver.filter.connection.inbox = [])
    (empty : receiver.decoder.buffer = [])
    (counters : Counters)
    (phase : Phase) :
    Transit limit compressing lead sender
      { receiver with
        filter := receiver.filter.hearing [] counters receiver.filter.received
        decoder := { receiver.decoder with buffer := [], phase := phase, verified := 0 } }
      held groups unsent where
  holds := ⟨empty ▸ transit.holds.buffer_eq, transit.holds.idle, rfl, transit.holds.small⟩
  clear := transit.clear
  chunks := by
    obtain ⟨chunks, arranged, unpacks⟩ := transit.chunks
    rw [inbox] at arranged
    exact ⟨chunks, arranged, unpacks⟩
  accepts := transit.accepts
  small := transit.small
  gathers := transit.gathers
  spent := transit.spent
  closed := transit.closed
  drained ended := ⟨rfl, (transit.drained ended).2⟩

/-- Once the record has been taken what follows it is in transit. -/
theorem receiver_received
    {rest : List Bytes}
    {offered : Extensions}
    (transit : Transit limit compressing [greeting offered] sender receiver held groups unsent)
    (inbox : receiver.filter.connection.inbox = greeting offered :: rest)
    (empty : receiver.decoder.buffer = [])
    (running : receiver.ended = false)
    (counters : Counters)
    (phase : Phase) :
    Transit limit compressing [] sender
      { receiver with
        filter := receiver.filter.hearing rest counters receiver.filter.received
        decoder :=
          { receiver.decoder with buffer := [], held := none, phase := phase, verified := 0 } }
      held groups unsent where
  holds := ⟨empty ▸ transit.holds.buffer_eq, rfl, rfl, transit.holds.small⟩
  clear := transit.clear
  chunks := by
    obtain ⟨chunks, arranged, unpacks⟩ := transit.chunks
    rw [inbox, List.cons_append, List.singleton_append] at arranged
    exact ⟨chunks, List.tail_eq_of_cons_eq arranged, unpacks⟩
  accepts := transit.accepts
  small := transit.small
  gathers := transit.gathers
  spent := transit.spent
  closed := transit.closed
  drained ended := absurd ended (Bool.eq_false_iff.mp running)

/-- Putting extensions into force hands nothing over when nothing followed the record yet. -/
theorem receiver_settled
    (transit : Transit limit compressing lead sender receiver held groups unsent)
    (empty : receiver.decoder.buffer = [])
    (agreed : Extensions) :
    Transit limit compressing lead sender (receiver.settled agreed) held groups unsent := by
  obtain ⟨buffer_eq, idle, unsearched, small⟩ := transit.holds
  have nothing := empty ▸ buffer_eq
  have clear : receiver.decoder.buffer ++ receiver.filter.received = [] := by
    rw [empty, transit.clear]
    rfl
  rcases agreed with ⟨_ | _, _ | _⟩
  · exact ⟨⟨buffer_eq, idle, unsearched, small⟩, transit.clear, transit.chunks, transit.accepts,
      transit.small, transit.gathers, transit.spent, transit.closed, transit.drained⟩
  · exact ⟨⟨nothing, idle, rfl, small⟩, transit.clear, transit.chunks, transit.accepts,
      transit.small, transit.gathers, transit.spent, transit.closed, transit.drained⟩
  · exact ⟨⟨nothing, idle, rfl, small⟩, clear, transit.chunks, transit.accepts,
      transit.small, transit.gathers, transit.spent, transit.closed, transit.drained⟩
  · exact ⟨⟨nothing, idle, rfl, small⟩, clear, transit.chunks, transit.accepts,
      transit.small, transit.gathers, transit.spent, transit.closed, transit.drained⟩

end Transit

end Switching

/-- A stream that has taken its peer's record, with no octets behind it in the same chunk. -/
def took
    (rest : List Bytes)
    (counters : Counters)
    (phase : Phase)
    (stream : Stream) :
    Stream :=
  { stream with
    filter := stream.filter.hearing rest counters stream.filter.received
    decoder := { stream.decoder with buffer := [], held := none, phase := phase, verified := 0 } }

/-- A stream that goes on waiting for its peer's record, nothing of which has arrived. -/
def rested (counters : Counters) (phase : Phase) (stream : Stream) : Stream :=
  { stream with
    filter := stream.filter.hearing [] counters stream.filter.received
    decoder := { stream.decoder with buffer := [], phase := phase, verified := 0 } }

section Handshaking

variable {stream : Stream}

theorem speaks_greeted
    (extensions : Extensions)
    (stream : Stream) :
    stream.Speaks (stream.greeted extensions) :=
  ⟨stream.filter.gathered, _, _, stream.filter.connection.finished, _, _, rfl⟩

theorem speaks_answered
    (role : Role)
    (stream : Stream) :
    stream.Speaks (stream.answered role) := by
  cases role with
  | initiator => exact (mutes_refl stream).speaks
  | responder => exact speaks_greeted _ stream

@[simp] theorem compressor_settled (agreed : Extensions) (stream : Stream) :
    (stream.settled agreed).filter.compressor = stream.filter.compressor := by
  rcases agreed with ⟨_ | _, _⟩ <;> rfl

theorem buffer_settled
    (empty : stream.decoder.buffer = [])
    (agreed : Extensions) :
    (stream.settled agreed).decoder.buffer = [] := by
  rcases agreed with ⟨_ | _, _ | _⟩ <;> first | exact empty | rfl

theorem Undecided.took
    (undecided : stream.Undecided)
    (rest : List Bytes)
    (counters : Counters)
    (phase : Phase) :
    (stream.took rest counters phase).Undecided :=
  undecided.hearing _ _ _ _

/-- A read that finds the handshake done is a read after it. -/
theorem value_read_of_negotiated
    {next : Stream}
    {agreed : Extensions}
    (done : (stream.negotiate .responder).value = (.done agreed, next))
    (negotiated : next.negotiated = some agreed) :
    stream.read.value = next.read.value := by
  rw [read, Noted.value_bind, done, read, Noted.value_bind,
    value_negotiate_of_negotiated negotiated]

theorem value_read_of_waiting
    {next : Stream}
    {wait : Wait}
    (blocked : (stream.negotiate .responder).value = (.blocked wait, next)) :
    stream.read.value = (.blocked wait, next) := by
  rw [read, Noted.value_bind, blocked]
  rfl

theorem value_write_of_negotiated
    {next : Stream}
    {agreed : Extensions}
    (done : (stream.negotiate .responder).value = (.done agreed, next))
    (negotiated : next.negotiated = some agreed)
    (event : Event) :
    ((write event).on stream).value = ((write event).on next).value := by
  rw [write, Action.value_on_bind, Action.value_on_bind, value_on_ensureNegotiated,
    value_on_ensureNegotiated, done, value_negotiate_of_negotiated negotiated]

theorem value_write_of_waiting
    {next : Stream}
    (blocked : (stream.negotiate .responder).value = (.blocked .forRecord, next))
    (event : Event) :
    ((write event).on stream).value = (.error (.protocol .handshakeTimeout), next) := by
  rw [write, Action.value_on_bind, value_on_ensureNegotiated, blocked]
  rfl

end Handshaking

end Stream

theorem Flows.of_transit
    {registry : Registry}
    {limit : Nat}
    {compressing : Bool}
    {lead other : List Bytes}
    {writer reader : Peer}
    (flows : Flows registry limit compressing lead writer reader)
    (sender receiver : Stream)
    (moves :
      ∀ held groups unsent,
        Stream.Transit limit compressing lead writer.stream reader.stream held groups unsent →
        Stream.Transit limit compressing other sender receiver held groups unsent)
    (packs : sender.filter.compressor = writer.stream.filter.compressor)
    (opens : receiver.filter.compressor = reader.stream.filter.compressor)
    (codec : receiver.codec = reader.stream.codec)
    (writerCall readerCall : Option (Outcome Extensions)) :
    Flows registry limit compressing other
      { writer with stream := sender, call := writerCall }
      { reader with stream := receiver, call := readerCall } where
  shared := codec ▸ flows.shared
  standard := codec ▸ flows.standard
  roomy := flows.roomy
  lossless := by
    rw [packs, opens]
    exact flows.lossless
  accounted := by
    obtain ⟨held, groups, unsent, transit, nothing, delivered⟩ := flows.accounted
    refine ⟨held, groups, unsent, moves _ _ _ transit, nothing, ?_⟩
    rw [codec]
    exact delivered

/-- A receiver to which something leads has it in its inbox or still waits for its first chunk. -/
theorem Flows.arrived
    {registry : Registry}
    {limit : Nat}
    {compressing : Bool}
    {first : Bytes}
    {writer reader : Peer}
    (flows : Flows registry limit compressing [first] writer reader) :
    reader.stream.filter.connection.inbox = [] ∧
        reader.stream.filter.connection.peerFinished = false ∨
      ∃ rest, reader.stream.filter.connection.inbox = first :: rest := by
  obtain ⟨_, _, _, transit, -⟩ := flows.accounted
  obtain ⟨chunks, arranged, -⟩ := transit.chunks
  cases inbox : reader.stream.filter.connection.inbox with
  | cons chunk rest =>
      rw [inbox] at arranged
      cases arranged
      exact .inr ⟨rest, rfl⟩
  | nil =>
      rw [inbox] at arranged
      refine .inl ⟨rfl, ?_⟩
      cases finished : reader.stream.filter.connection.peerFinished with
      | false => rfl
      | true =>
          rw [(transit.closed finished).2] at arranged
          exact nomatch arranged

theorem Flows.attended
    {registry : Registry}
    {limit : Nat}
    {compressing : Bool}
    {lead : List Bytes}
    {writer reader : Peer}
    (flows : Flows registry limit compressing lead writer reader)
    (unfinished : writer.stream.filter.connection.finished = false) :
    reader.stream.filter.connection.peerFinished = false := by
  obtain ⟨_, _, _, transit, -⟩ := flows.accounted
  cases finished : reader.stream.filter.connection.peerFinished with
  | false => rfl
  | true => exact nomatch unfinished.symm.trans (transit.closed finished).1

namespace Peer

theorem may_negotiate
    {limit : Nat}
    {admits : Event → Prop}
    {peer : Peer}
    (unfinished : peer.stream.filter.connection.finished = false) :
    peer.May limit admits .negotiate where
  patient _ _ := rfl
  called _ _ := .inl rfl
  late finished := nomatch unfinished.symm.trans finished
  settled := nofun
  legible := nofun

@[simp] theorem call_perform_flush (peer : Peer) : (peer.perform .flush).call = peer.call := by
  rw [perform]
  split <;> rfl

/-- An end that has not received its peer's record, nor any part of it. -/
structure Waits (role : Role) (own offered : Extensions) (peer : Peer) : Prop where
  role_eq : peer.role = role
  call : peer.call = none ∨ peer.call = some (.blocked .forRecord)
  undecided : peer.stream.Undecided
  expects : peer.stream.Expects offered []
  terminated : peer.stream.codec.termination = .emptyFrame
  advertised : peer.stream.config.advertised = own
  unreported : peer.stream.unacknowledged = 0

/-- An end that has taken its peer's record, answered it and put the extensions into force. -/
def joined
    (role : Role)
    (agreed : Extensions)
    (rest : List Bytes)
    (counters : Counters)
    (phase : Phase)
    (peer : Peer) :
    Peer :=
  { peer with
    stream := ((peer.stream.took rest counters phase).answered role).settled agreed
    call := none }

/-- What an end that waits may do meanwhile: nothing of which its peer would know. -/
structure Idles (role : Role) (own offered : Extensions) (peer next : Peer) : Prop where
  waits : next.Waits role own offered
  called : peer.call = some (.blocked .forRecord) → next.call = some (.blocked .forRecord)
  thither :
    ∀ {registry : Registry} {limit : Nat} {compressing : Bool} {lead : List Bytes} {other : Peer},
      Flows registry limit compressing lead peer other →
      Flows registry limit compressing lead next other
  hither :
    ∀ {registry : Registry} {limit : Nat} {compressing : Bool} {lead : List Bytes} {other : Peer},
      Flows registry limit compressing lead other peer →
      Flows registry limit compressing lead other next
  inbox : next.stream.filter.connection.inbox = peer.stream.filter.connection.inbox
  outbox : next.stream.filter.connection.outbox = peer.stream.filter.connection.outbox

namespace Waits

variable
  {registry : Registry} {limit : Nat} {role : Role} {own offered : Extensions}
  {lead : List Bytes} {peer other : Peer}

theorem empty (waits : peer.Waits role own offered) : peer.stream.decoder.buffer = [] :=
  waits.expects.hears.buffer_eq

/-- Without the record the handshake stays blocked. -/
theorem exists_rested
    (waits : peer.Waits role own offered)
    (inbox : peer.stream.filter.connection.inbox = [])
    (attended : peer.stream.filter.connection.peerFinished = false) :
    ∃ counters phase,
      (peer.stream.continueHandshake role).value =
          (.blocked .forRecord, peer.stream.rested counters phase) ∧
        (peer.stream.rested counters phase).Expects offered [] := by
  obtain ⟨counters, phase, expects, blocked⟩ :=
    waits.expects.value_continueHandshake_of_part attended
      (by rw [inbox]; exact List.nil_prefix) (by rw [inbox]; decide) role
  rw [inbox] at expects blocked
  exact ⟨counters, phase, blocked, expects⟩

/-- With the record the handshake succeeds. -/
theorem exists_took
    {rest : List Bytes}
    (waits : peer.Waits role own offered)
    (inbox : peer.stream.filter.connection.inbox = greeting offered :: rest) :
    ∃ counters phase,
      (peer.stream.continueHandshake role).value =
        (.done (own.inter offered),
          ((peer.stream.took rest counters phase).answered role).settled (own.inter offered)) := by
  obtain ⟨counters, phase, awaited⟩ :=
    waits.expects.awaited_of_last inbox
      (show [] ++ greeting offered = greeting offered ++ [] from (List.append_nil _).symm)
  rw [← waits.advertised]
  exact ⟨counters, phase,
    Stream.value_continueHandshake awaited (waits.undecided.took rest _ phase) role⟩

theorem idles_rested
    {counters : Counters}
    {phase : Phase}
    (waits : peer.Waits role own offered)
    (inbox : peer.stream.filter.connection.inbox = [])
    (expects : (peer.stream.rested counters phase).Expects offered [])
    {call : Option (Outcome Extensions)}
    (called : call = peer.call ∨ call = some (.blocked .forRecord)) :
    Idles role own offered peer
      { peer with stream := peer.stream.rested counters phase, call := call } where
  waits :=
    ⟨waits.role_eq, called.elim (fun same => same ▸ waits.call) .inr,
      waits.undecided.hearing _ _ _ _, expects, waits.terminated, waits.advertised,
      waits.unreported⟩
  called blocked := called.elim (fun same => same.trans blocked) fun same => same
  thither := by
    intro registry limit compressing lead other flows
    refine flows.of_transit (peer.stream.rested counters phase) other.stream ?_ rfl rfl rfl call
      other.call
    intro held groups unsent transit
    exact transit.sender_listens
      ⟨[], peer.stream.filter.connection.peerFinished, _, _, _, _, _, rfl⟩
  hither := by
    intro registry limit compressing lead other flows
    refine flows.of_transit other.stream (peer.stream.rested counters phase) ?_ rfl rfl rfl
      other.call call
    intro held groups unsent transit
    exact transit.receiver_waits inbox waits.empty counters phase
  inbox := inbox.symm
  outbox := rfl

theorem idles_flush (waits : peer.Waits role own offered) :
    Idles role own offered peer (peer.perform .flush) := by
  have idle : ¬ (peer.stream.filter.enabled = true ∧ peer.stream.filter.gathered ≠ []) :=
    fun pending => Bool.eq_false_iff.mp waits.undecided.plain pending.1
  have flushed :
      (Stream.flush.on peer.stream).value =
        (.ok peer.stream.acknowledged, { peer.stream with acknowledged := 0 }) := by
    rw [Stream.flush, Stream.Action.value_on_bind, Stream.pushOut, Stream.Action.value_on_onFilter,
      Filter.value_flush_of_idle idle]
    rfl
  rw [perform, flushed]
  obtain ⟨role_eq, call, undecided, expects, terminated, advertised, unreported⟩ := waits
  have waits : Waits role own offered
      { peer with stream := { peer.stream with acknowledged := 0 }, flushed := true } :=
    ⟨role_eq, call, undecided.of_standing rfl, expects.of_attention rfl, terminated, advertised,
      unreported⟩
  refine ⟨waits, fun called => called, ?_, ?_, rfl, rfl⟩
  · intro registry limit compressing lead other flows
    obtain ⟨held, groups, unsent, transit, -, delivered⟩ := flows.accounted
    have nothing := (transit.gathers undecided.writable.unfinished).atOnce undecided.plain
    refine ⟨flows.shared, flows.standard, flows.roomy, flows.lossless, held, groups, unsent, ?_,
      fun _ => nothing, delivered⟩
    exact transit.sender_listens
      ⟨peer.stream.filter.connection.inbox, peer.stream.filter.connection.peerFinished,
        peer.stream.filter.connection.counters, peer.stream.filter.received, _, _, 0, rfl⟩
  · intro registry limit compressing lead other flows
    exact flows.receiver_speaks
      ⟨peer.stream.filter.gathered, peer.stream.filter.connection.outbox,
        peer.stream.filter.connection.counters, peer.stream.filter.connection.finished,
        peer.stream.unacknowledged, 0, rfl⟩ peer.written true

theorem idles_acknowledge (waits : peer.Waits role own offered) :
    Idles role own offered peer (peer.perform .acknowledge) := by
  rw [perform, Stream.value_acknowledge_of_nothing (.inr waits.unreported)]
  exact ⟨waits, fun called => called, fun flows => flows, fun flows => flows, rfl, rfl⟩

section Joining

variable
  (waits : peer.Waits role own offered) (rest : List Bytes) (counters : Counters) (phase : Phase)
include waits

theorem talks_joined (framed : (own.inter offered).coarse = false) :
    (((peer.stream.took rest counters phase).answered role).settled (own.inter offered)).Talks
      (own.inter offered) := by
  have undecided := (waits.undecided.took rest counters phase).answered role
  have same : ((peer.stream.took rest counters phase).answered role).codec = peer.stream.codec := by
    cases role <;> rfl
  refine ⟨undecided.inForce_settled _, framed, ?_, ?_, ?_⟩
  · exact same ▸ waits.undecided.standard
  · exact same ▸ waits.terminated
  · rw [Stream.connection_settled]
    exact undecided.writable.attended

/-- What is in transit behind the record stays there. -/
theorem flows_to_joined
    {compressing : Bool}
    (inbox : peer.stream.filter.connection.inbox = greeting offered :: rest)
    (flows : Flows registry limit compressing [greeting offered] other peer) :
    Flows registry limit compressing [] other
      (peer.joined role (own.inter offered) rest counters phase) := by
  refine flows.of_transit other.stream _ ?moves rfl ?opens ?codec other.call none
  case moves =>
    intro held groups unsent transit
    refine Stream.Transit.receiver_settled ?_ ?_ _
    · exact (transit.receiver_received inbox waits.empty waits.expects.running counters
        phase).receiver_speaks (Stream.speaks_answered role _)
    · cases role <;> rfl
  case opens =>
    rw [Stream.compressor_settled]
    cases role <;> rfl
  case codec => cases role <;> rfl

/-- What an initiator has sent before it received the record stays in transit. -/
theorem engaged_initiator
    {limitOther : Nat}
    (initiates : role = .initiator)
    (framed : (own.inter offered).coarse = false)
    (inbox : peer.stream.filter.connection.inbox = greeting offered :: rest)
    (thither : Flows registry limit (own.inter offered).compression lead peer other)
    (hither :
      Flows registry limitOther (own.inter offered).compression [greeting offered] other peer) :
    Engaged registry limit limitOther (own.inter offered) lead
      (peer.joined role (own.inter offered) rest counters phase) other where
  converses := ⟨waits.talks_joined rest counters phase framed, nofun⟩
  thither := by
    subst initiates
    refine thither.of_transit _ other.stream ?moves ?packs rfl rfl none other.call
    case packs => exact Stream.compressor_settled _ _
    intro held groups unsent transit
    have took :=
      transit.sender_listens
        (⟨rest, peer.stream.filter.connection.peerFinished, _, _, _, _, _, rfl⟩ :
          peer.stream.Listens (peer.stream.took rest counters phase))
    exact took.sender_settled waits.undecided.writable.unfinished waits.undecided.plain _
  hither := waits.flows_to_joined rest counters phase inbox hither

/-- A responder has sent nothing before its own record. -/
theorem engaged_responder
    {limitOther : Nat}
    (responds : role = .responder)
    (framed : (own.inter offered).coarse = false)
    (inbox : peer.stream.filter.connection.inbox = greeting offered :: rest)
    (outbox : peer.stream.filter.connection.outbox = [])
    (arrived : other.stream.filter.connection.inbox = [])
    (thither : Flows registry limit (own.inter offered).compression [] peer other)
    (hither :
      Flows registry limitOther (own.inter offered).compression [greeting offered] other peer) :
    Engaged registry limit limitOther (own.inter offered) [greeting own]
      (peer.joined role (own.inter offered) rest counters phase) other where
  converses := ⟨waits.talks_joined rest counters phase framed, nofun⟩
  thither := by
    subst responds
    have unfinished := waits.undecided.writable.unfinished
    refine thither.of_transit _ other.stream ?moves ?packs rfl rfl none other.call
    case packs => exact Stream.compressor_settled _ _
    intro held groups unsent transit
    have took :=
      transit.sender_listens
        (⟨rest, peer.stream.filter.connection.peerFinished, _, _, _, _, _, rfl⟩ :
          peer.stream.Listens (peer.stream.took rest counters phase))
    have greeted := took.sender_greeted unfinished outbox arrived own
    rw [← waits.advertised] at greeted ⊢
    exact greeted.sender_settled unfinished waits.undecided.plain _
  hither := waits.flows_to_joined rest counters phase inbox hither

end Joining

section Attempting

variable
  {admits : Event → Prop} {operation : Operation}
  (waits : peer.Waits role own offered) (opened : peer.call = none → role = .responder)
include waits opened

/-- What an end may do while it waits it may do when the handshake is over. -/
theorem may_joined
    (may : peer.May limit admits operation)
    (rest : List Bytes)
    (counters : Counters)
    (phase : Phase) :
    (peer.joined role (own.inter offered) rest counters phase).May limit admits operation where
  patient := nofun
  called := by
    intro initiates _
    left
    refine may.patient .forRecord (waits.call.resolve_left fun uncalled => ?_)
    have roles := (opened uncalled).symm.trans (waits.role_eq.symm.trans initiates)
    exact nomatch roles
  late := by
    intro finished
    have undecided := (waits.undecided.took rest counters phase).answered role
    rw [joined, Stream.connection_settled, undecided.writable.unfinished] at finished
    exact nomatch finished
  settled := fun _ => rfl
  legible := by
    have same :
        (peer.joined role (own.inter offered) rest counters phase).stream.codec =
          peer.stream.codec := by
      cases role <;> rfl
    rw [same]
    exact may.legible

theorem proceed_eq :
    peer.toParty.proceed =
      { peer.toParty with
        stream := (peer.stream.continueHandshake role).value.2
        call := some (peer.stream.continueHandshake role).value.1 } := by
  obtain rfl := waits.role_eq
  rcases waits.call with uncalled | called
  · rw [Party.proceed, uncalled]
    dsimp only
    rw [waits.undecided.value_negotiate, opened uncalled]
    rfl
  · rw [Party.proceed, called]
    rfl

/-- An end that reads or writes before it has negotiated negotiates as the responder. -/
theorem value_negotiate
    (may : peer.May limit admits operation)
    (other : operation ≠ .negotiate) :
    peer.call = none ∧
      (peer.stream.negotiate .responder).value = (peer.stream.continueHandshake role).value := by
  have uncalled : peer.call = none :=
    waits.call.resolve_right fun blocked => other (may.patient _ blocked)
  rw [waits.undecided.value_negotiate, opened uncalled]
  exact ⟨uncalled, rfl⟩

/-- Without the record nothing comes of what an end does. -/
theorem perform_of_nothing
    (may : peer.May limit admits operation)
    (inbox : peer.stream.filter.connection.inbox = [])
    (attended : peer.stream.filter.connection.peerFinished = false) :
    Idles role own offered peer (peer.perform operation) := by
  obtain ⟨counters, phase, blocked, expects⟩ := waits.exists_rested inbox attended
  cases operation with
  | flush => exact waits.idles_flush
  | acknowledge => exact waits.idles_acknowledge
  | close =>
      have negotiated := may.settled rfl
      rw [waits.undecided.undecided] at negotiated
      cases negotiated
  | negotiate =>
      rw [perform, waits.proceed_eq opened, blocked]
      exact waits.idles_rested inbox expects (.inr rfl)
  | read =>
      obtain ⟨-, turn⟩ := waits.value_negotiate opened may (fun same => by cases same)
      have nothing :
          peer.perform .read = { peer with stream := peer.stream.rested counters phase } := by
        rw [perform, Stream.value_read_of_waiting (turn.trans blocked)]
        exact congrArg (Peer.mk _ _ · _) (List.append_nil _)
      rw [nothing]
      exact waits.idles_rested inbox expects (.inl rfl)
  | write event =>
      obtain ⟨-, turn⟩ := waits.value_negotiate opened may (fun same => by cases same)
      rw [perform, Stream.value_write_of_waiting (turn.trans blocked)]
      exact waits.idles_rested inbox expects (.inl rfl)

/-- With the record what an end does is what it would do after the handshake. -/
theorem perform_of_record
    {rest : List Bytes}
    (may : peer.May limit admits operation)
    (joins : operation.joins = true)
    (inbox : peer.stream.filter.connection.inbox = greeting offered :: rest) :
    ∃ counters phase,
      peer.perform operation =
        (peer.joined role (own.inter offered) rest counters phase).perform operation := by
  obtain ⟨counters, phase, done⟩ := waits.exists_took inbox
  have negotiated :
      (peer.joined role (own.inter offered) rest counters phase).stream.negotiated =
        some (own.inter offered) :=
    rfl
  refine ⟨counters, phase, ?_⟩
  cases operation with
  | flush => cases joins
  | acknowledge => cases joins
  | close => cases joins
  | negotiate =>
      rw [perform, waits.proceed_eq opened, done, perform, Party.proceed]
      rw [show (peer.joined role (own.inter offered) rest counters phase).call = none from rfl]
      dsimp only
      rw [Stream.value_negotiate_of_negotiated negotiated]
      rfl
  | read =>
      obtain ⟨uncalled, turn⟩ := waits.value_negotiate opened may (fun same => by cases same)
      rw [perform, perform, Stream.value_read_of_negotiated (turn.trans done) negotiated, joined,
        uncalled]
  | write event =>
      obtain ⟨uncalled, turn⟩ := waits.value_negotiate opened may (fun same => by cases same)
      rw [perform, perform, Stream.value_write_of_negotiated (turn.trans done) negotiated, joined,
        uncalled]

/--
Whatever an end does that waits for its peer's record, it goes on waiting or
joins the conversation.
-/
theorem perform_cases
    (may : peer.May limit admits operation)
    (arrived :
      peer.stream.filter.connection.inbox = [] ∧
          peer.stream.filter.connection.peerFinished = false ∨
        ∃ rest, peer.stream.filter.connection.inbox = greeting offered :: rest) :
    Idles role own offered peer (peer.perform operation) ∨
      ∃ rest counters phase,
        peer.stream.filter.connection.inbox = greeting offered :: rest ∧
          (peer.joined role (own.inter offered) rest counters phase).May limit admits operation ∧
          peer.perform operation =
            (peer.joined role (own.inter offered) rest counters phase).perform operation := by
  rcases arrived with ⟨inbox, attended⟩ | ⟨rest, inbox⟩
  · exact .inl (waits.perform_of_nothing opened may inbox attended)
  · cases joins : operation.joins with
    | true =>
        obtain ⟨counters, phase, same⟩ := waits.perform_of_record opened may joins inbox
        exact .inr ⟨rest, counters, phase, inbox, waits.may_joined opened may _ _ _, same⟩
    | false =>
        cases operation with
        | flush => exact .inl waits.idles_flush
        | acknowledge => exact .inl waits.idles_acknowledge
        | close =>
            have negotiated := may.settled rfl
            rw [waits.undecided.undecided] at negotiated
            exact nomatch negotiated
        | _ => exact nomatch joins

end Attempting

/-- An initiator that negotiates has sent its record, and then waits. -/
theorem negotiate_initiator
    {limitOther : Nat}
    {compressing : Bool}
    (waits : peer.Waits .initiator own offered)
    (uncalled : peer.call = none)
    (inbox : peer.stream.filter.connection.inbox = [])
    (attended : peer.stream.filter.connection.peerFinished = false)
    (outbox : peer.stream.filter.connection.outbox = [])
    (arrived : other.stream.filter.connection.inbox = [])
    (thither : Flows registry limit compressing [] peer other)
    (hither : Flows registry limitOther compressing lead other peer) :
    (peer.perform .negotiate).Waits .initiator own offered ∧
      (peer.perform .negotiate).call = some (.blocked .forRecord) ∧
      Flows registry limit compressing [greeting own] (peer.perform .negotiate) other ∧
      Flows registry limitOther compressing lead other (peer.perform .negotiate) ∧
      (peer.perform .negotiate).stream.filter.connection.inbox = [] ∧
      (peer.perform .negotiate).stream.filter.connection.outbox = [greeting own] := by
  let called : Peer :=
    { peer with stream := peer.stream.greeted own, call := some (.blocked .forRecord) }
  obtain ⟨role_eq, -, undecided, expects, terminated, advertised, unreported⟩ := waits
  have waitsCalled : called.Waits .initiator own offered :=
    ⟨role_eq, .inr rfl, undecided.of_standing rfl, expects.of_attention rfl, terminated, advertised,
      unreported⟩
  have opened : peer.stream.opened .initiator = called.stream :=
    congrArg (peer.stream.greeted ·) advertised
  have same : peer.perform .negotiate = called.perform .negotiate := by
    rw [perform, perform, Party.proceed, Party.proceed, uncalled]
    dsimp only
    rw [role_eq, undecided.value_negotiate, opened]
    rfl
  have thitherCalled : Flows registry limit compressing [greeting own] called other :=
    thither.of_transit called.stream other.stream
      (fun _ _ _ transit =>
        transit.sender_greeted undecided.writable.unfinished outbox arrived own)
      rfl rfl rfl called.call other.call
  have hitherCalled : Flows registry limitOther compressing lead other called :=
    hither.of_transit other.stream called.stream
      (fun _ _ _ transit => transit.receiver_speaks (Stream.speaks_greeted own _))
      rfl rfl rfl other.call called.call
  have may : called.May limit registry.Welcomes .negotiate :=
    may_negotiate undecided.writable.unfinished
  have idles :=
    waitsCalled.perform_of_nothing (fun uncalled => by cases uncalled) may inbox attended
  rw [same]
  refine ⟨idles.waits, idles.called rfl, idles.thither thitherCalled, idles.hither hitherCalled,
    idles.inbox.trans inbox, idles.outbox.trans ?_⟩
  exact congrArg (· ++ [greeting own]) outbox

end Waits

section Carrying

variable
  {registry : Registry} {limit own : Nat} {compressing : Bool} {agreed : Extensions}
  {lead : List Bytes} {role : Role} {ownOffer offered : Extensions} {sender receiver : Peer}

theorem listens_carry (sender receiver : Peer) :
    receiver.stream.Listens (sender.carry receiver).2.stream :=
  ⟨_, _, receiver.stream.filter.connection.counters, receiver.stream.filter.received, _, _, _, rfl⟩

theorem speaks_carry (sender receiver : Peer) :
    sender.stream.Speaks (sender.carry receiver).1.stream :=
  ⟨sender.stream.filter.gathered, _, sender.stream.filter.connection.counters,
    sender.stream.filter.connection.finished, _, _, rfl⟩

theorem Waits.carry_sender (waits : sender.Waits role ownOffer offered) (receiver : Peer) :
    (sender.carry receiver).1.Waits role ownOffer offered := by
  obtain ⟨role_eq, call, undecided, expects, terminated, advertised, unreported⟩ := waits
  exact ⟨role_eq, call, undecided.of_standing rfl, expects.of_attention rfl, terminated, advertised,
    unreported⟩

theorem Waits.carry_receiver (waits : receiver.Waits role ownOffer offered) (sender : Peer) :
    (sender.carry receiver).2.Waits role ownOffer offered := by
  obtain ⟨role_eq, call, undecided, expects, terminated, advertised, unreported⟩ := waits
  exact ⟨role_eq, call, undecided.of_standing rfl, expects.of_attention rfl, terminated, advertised,
    unreported⟩

/-- What is carried one way is none of the concern of what is in transit the other way. -/
theorem flows_against_carry
    (flows : Flows registry limit compressing lead receiver sender) :
    Flows registry limit compressing lead (sender.carry receiver).2 (sender.carry receiver).1 := by
  refine flows.of_transit (sender.carry receiver).2.stream (sender.carry receiver).1.stream ?_ rfl
    rfl rfl receiver.call sender.call
  intro held groups unsent transit
  exact (transit.sender_listens (listens_carry sender receiver)).receiver_speaks
    (speaks_carry sender receiver)

theorem Engaged.carry_sender
    (engaged : sender.Engaged registry limit own agreed lead receiver) :
    (sender.carry receiver).1.Engaged registry limit own agreed lead (sender.carry receiver).2 where
  converses :=
    ⟨engaged.converses.talks.speaks (speaks_carry sender receiver), engaged.converses.free⟩
  thither := engaged.thither.carry
  hither := flows_against_carry engaged.hither

theorem Engaged.carry_receiver
    (engaged : receiver.Engaged registry limit own agreed lead sender) :
    (sender.carry receiver).2.Engaged registry limit own agreed lead (sender.carry receiver).1 where
  converses :=
    ⟨engaged.converses.talks.listens (listens_carry sender receiver), engaged.converses.free⟩
  thither := flows_against_carry engaged.thither
  hither := engaged.hither.carry

end Carrying

end Peer

end EventWire
