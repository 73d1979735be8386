import EventWire.Proofs.Stream.Reading

namespace EventWire

/-!
# Streams that lag behind

Two streams over compressing filters are in the same state, except that one
still lacks some of the octets that the other has been given, or has them in
other chunks.  Whatever the one reads without being blocked, the other reads as
well; when it is blocked it goes on lagging.  So the outcomes of reads depend on
the octets that arrive, and neither on the chunks nor on when they arrive.
-/

namespace Filter

/--
A filter lags behind another: the two differ in what has arrived, and what is
still to come makes up for the difference.
-/
structure Lags (future : Bytes) (closing : Bool) (behind ahead : Filter) : Prop where
  same :
    ∃ inbox peerFinished counters received,
      ahead = behind.receiving inbox peerFinished counters received
  octets : behind.unread ++ future = ahead.unread
  ends : ahead.connection.peerFinished = (behind.connection.peerFinished || closing)
  last : behind.connection.peerFinished = true → future = []

namespace Lags

variable {future : Bytes} {closing : Bool} {behind ahead : Filter}

/--
Either both filters yield the same, or the one that lags has to wait, and the
other as well if nothing is still to come.
-/
theorem next_cases (lags : Lags future closing behind ahead) :
    (ahead.next.1 = behind.next.1 ∧ behind.next.1 ≠ .blocked ∧
        behind.next.2 ++ future = ahead.next.2) ∨
      behind.next = (.blocked, behind.unread) ∧
        (future = [] → closing = false → ahead.next = (.blocked, ahead.unread)) := by
  obtain ⟨⟨inbox, peerFinished, counters, received, rfl⟩, octets, ends, last⟩ := lags
  rw [next, next, ← octets]
  cases front : Front.ofBytes behind.unread with
  | whole compressed rest =>
      rw [Front.ofBytes_append (fun partly => by cases front.symm.trans partly), front]
      refine .inl ⟨rfl, ?_, rfl⟩
      dsimp only [open?]
      split <;> intro blocked <;> cases blocked
  | tooLong length =>
      rw [Front.ofBytes_append (fun partly => by cases front.symm.trans partly), front]
      exact .inl ⟨rfl, (fun blocked => by cases blocked), rfl⟩
  | partly =>
      by_cases finished : behind.connection.peerFinished = true
      · have finishedAhead : peerFinished = true := by
          rw [show peerFinished = _ from ends, finished]
          rfl
        rw [last finished, List.append_nil, front]
        dsimp only
        rw [if_pos finished, receiving, if_pos finishedAhead]
        exact .inl ⟨rfl, (fun blocked => by cases blocked), rfl⟩
      · dsimp only
        rw [if_neg finished]
        refine .inr ⟨rfl, ?_⟩
        intro nothing goesOn
        have unfinishedAhead : peerFinished ≠ true := by
          rw [show peerFinished = _ from ends, goesOn, Bool.or_false]
          exact finished
        rw [nothing, List.append_nil, front]
        dsimp only
        rw [receiving, if_neg unfinishedAhead]

/-- A filter that goes on receiving goes on lagging, by what is left of the octets. -/
theorem hearing
    (lags : Lags future closing behind ahead)
    {inbox inboxAhead : List Bytes}
    {received receivedAhead : Bytes}
    (octets :
      (received ++ inbox.flatten) ++ future = receivedAhead ++ inboxAhead.flatten)
    (counters countersAhead : Counters) :
    Lags future closing (behind.hearing inbox counters received)
      (ahead.hearing inboxAhead countersAhead receivedAhead) := by
  obtain ⟨⟨_, _, _, _, rfl⟩, -, ends, last⟩ := lags
  exact ⟨⟨_, _, _, _, rfl⟩, octets, ends, last⟩

/-- Receiving a block keeps one filter behind the other. -/
theorem receive_cases
    (lags : Lags future closing behind ahead)
    (compressing : behind.enabled = true) :
    (ahead.receive.value.1 = behind.receive.value.1 ∧
        behind.receive.value.1 ≠ .blocked ∧
        Lags future closing behind.receive.value.2 ahead.receive.value.2) ∨
      behind.receive.value.1 = .blocked ∧
        Lags future closing behind.receive.value.2 ahead ∧
        (future = [] → closing = false →
          ahead.receive.value.1 = .blocked ∧
            Lags future closing behind.receive.value.2 ahead.receive.value.2) := by
  have compressingAhead : ahead.enabled = true := by
    obtain ⟨⟨_, _, _, _, rfl⟩, -⟩ := lags
    exact compressing
  obtain ⟨inbox, counters, received, yields, left⟩ := behind.value_receiveBlock
  obtain ⟨inboxAhead, countersAhead, receivedAhead, yieldsAhead, leftAhead⟩ :=
    ahead.value_receiveBlock
  rw [receive_of_enabled compressing, receive_of_enabled compressingAhead, yields, yieldsAhead]
  rcases lags.next_cases with ⟨same, unblocked, rest⟩ | ⟨waits, waitsAhead⟩
  · rw [← left, ← leftAhead] at rest
    exact .inl ⟨same, unblocked, lags.hearing rest counters countersAhead⟩
  · rw [waits] at left ⊢
    have stays : (received ++ inbox.flatten) ++ future =
        ahead.received ++ ahead.connection.inbox.flatten := by
      rw [left]
      exact lags.octets
    refine .inr ⟨rfl, lags.hearing stays counters ahead.connection.counters, ?_⟩
    intro nothing goesOn
    rw [waitsAhead nothing goesOn] at leftAhead ⊢
    exact ⟨rfl, lags.hearing (stays.trans leftAhead.symm) counters countersAhead⟩

/-- Where the filter behind is not blocked, the one ahead receives the same. -/
theorem exists_receive_of_unblocked
    {arrival : Arrival}
    {next : Filter}
    (lags : Lags future closing behind ahead)
    (compressing : behind.enabled = true)
    (received : behind.receive.value = (arrival, next))
    (unblocked : arrival ≠ .blocked) :
    ∃ nextAhead,
      ahead.receive.value = (arrival, nextAhead) ∧ Lags future closing next nextAhead := by
  rcases lags.receive_cases compressing with ⟨same, -, lagsThen⟩ | ⟨blocked, -⟩
  · rw [received] at same lagsThen
    exact ⟨ahead.receive.value.2, Prod.ext same rfl, lagsThen⟩
  · rw [received] at blocked
    exact absurd blocked unblocked

end Lags

end Filter

/-- What an arrival means to whoever reads opaque octets. -/
def Arrival.outcome : Arrival → Outcome Event
  | data octets => .done (.raw octets)
  | closed => .failed .closed
  | failed error => .failed (.transport error)
  | blocked => .blocked .forEvent

namespace Stream

/-- A stream that compresses what it carries, events or opaque octets. -/
structure Compresses (stream : Stream) : Prop where
  negotiated : stream.negotiated.isSome = true
  standard : stream.codec.control = Registry.control.value
  compressing : stream.filter.enabled = true
  unburdened : stream.coarse = true → stream.rawBacklog = []

/-- A stream lags behind another that is in the same state but for what has arrived. -/
structure Lags (future : Bytes) (closing : Bool) (behind ahead : Stream) : Prop where
  compresses : behind.Compresses
  same : ahead = { behind with filter := ahead.filter }
  filter : behind.filter.Lags future closing ahead.filter

section Awaiting

variable
  {Value : Type} {judge : Frame.Parcel → Noted (Verdict Value)} {ending : StreamError} {wait : Wait}

/-- A stream whose decoder has nothing to return waits as if it had not asked it. -/
theorem Awaited.of_decoded
    {stream last : Stream}
    {decoder : Frame.Decoder}
    {parcels : List Frame.Parcel}
    {outcome : Outcome Value}
    (returned : (stream.decoder.decode stream.ended).value = (none, decoder))
    (running : stream.ended = false)
    (awaited : Awaited judge ending wait { stream with decoder := decoder } parcels outcome last) :
    Awaited judge ending wait stream parcels outcome last := by
  have again : (decoder.decode stream.ended).value = (none, decoder) := by
    rw [running] at returned ⊢
    exact Frame.Decoder.decode_again returned
  cases awaited with
  | passed found _ _ => exact nomatch again.symm.trans found
  | acknowledged found _ _ => exact nomatch again.symm.trans found
  | settled found _ => exact nomatch again.symm.trans found
  | ended _ atEnd => exact nomatch running.symm.trans atEnd
  | arrived found _ received later =>
      cases again.symm.trans found
      exact .arrived returned running received later
  | closed found _ received later =>
      cases again.symm.trans found
      exact .closed returned running received later
  | failed found _ received =>
      cases again.symm.trans found
      exact .failed returned running received
  | blocked found _ received =>
      cases again.symm.trans found
      exact .blocked returned running received

variable {future : Bytes} {closing : Bool} {behind ahead last : Stream}
variable {parcels : List Frame.Parcel} {outcome : Outcome Value}

/--
What becomes of a stream while another, lagging behind it, waits.  Either it
comes to the same, or the other is blocked; then it can be taken as far without
any effect on what it comes to, and is blocked as well if nothing is to come.
-/
inductive Outruns
    (judge : Frame.Parcel → Noted (Verdict Value))
    (ending : StreamError)
    (wait : Wait)
    (future : Bytes)
    (closing : Bool)
    (ahead last : Stream) :
    List Frame.Parcel → Outcome Value → Prop where
  | alike
      {parcels : List Frame.Parcel}
      {outcome : Outcome Value}
      {lastAhead : Stream}
      (unblocked : ∀ wait, outcome ≠ .blocked wait)
      (awaited : Awaited judge ending wait ahead parcels outcome lastAhead)
      (lags : Lags future closing last lastAhead) :
      Outruns judge ending wait future closing ahead last parcels outcome
  | blocked
      {parcels : List Frame.Parcel}
      {between : Stream}
      (lags : Lags future closing last between)
      (further :
        ∀ parcels outcome lastAhead,
          Awaited judge ending wait between parcels outcome lastAhead →
            ∃ seen, Awaited judge ending wait ahead seen outcome lastAhead)
      (both :
        future = [] → closing = false →
          ∃ lastAhead,
            Awaited judge ending wait ahead parcels (.blocked wait) lastAhead ∧
              Lags future closing last lastAhead) :
      Outruns judge ending wait future closing ahead last parcels (.blocked wait)

/-- A step that a stream takes for itself comes before whatever becomes of it. -/
theorem Outruns.after
    {next : Stream}
    (seen : List Frame.Parcel)
    (outruns : Outruns judge ending wait future closing next last parcels outcome)
    (step :
      ∀ parcels outcome lastNext,
        Awaited judge ending wait next parcels outcome lastNext →
          Awaited judge ending wait ahead (seen ++ parcels) outcome lastNext) :
    Outruns judge ending wait future closing ahead last (seen ++ parcels) outcome := by
  cases outruns with
  | alike unblocked awaited lags => exact .alike unblocked (step _ _ _ awaited) lags
  | blocked lags further both =>
      refine .blocked lags (fun parcels outcome lastAhead awaited => ?_) fun nothing goesOn => ?_
      · obtain ⟨others, later⟩ := further parcels outcome lastAhead awaited
        exact ⟨_, step _ _ _ later⟩
      · obtain ⟨lastAhead, later, lagsThen⟩ := both nothing goesOn
        exact ⟨lastAhead, step _ _ _ later, lagsThen⟩

/-- While a stream waits, the one that it lags behind comes to the same or is ahead. -/
theorem Lags.outruns
    (lags : Lags future closing behind ahead)
    (awaited : Awaited judge ending wait behind parcels outcome last) :
    Outruns judge ending wait future closing ahead last parcels outcome := by
  obtain ⟨⟨negotiated, standard, compressing, unburdened⟩, same, filter⟩ := lags
  rw [same]
  generalize ahead.filter = filterAhead at filter
  clear same
  induction awaited generalizing filterAhead with
  | @passed behind last decoder parcel parcels outcome returned judged _ inductionHypothesis =>
      exact .after [parcel]
        (inductionHypothesis negotiated standard compressing unburdened filterAhead filter)
        fun _ _ _ later => .passed returned judged later
  | @acknowledged behind last decoder parcel parcels outcome count returned judged _
      inductionHypothesis =>
      exact .after [parcel]
        (inductionHypothesis negotiated standard compressing unburdened filterAhead filter)
        fun _ _ _ later => .acknowledged returned judged later
  | @settled behind decoder parcel result returned judged =>
      exact .alike (by cases result <;> nofun) (.settled returned judged)
        ⟨⟨negotiated, standard, compressing, unburdened⟩, rfl, filter⟩
  | @ended behind decoder returned atEnd =>
      exact .alike nofun (.ended returned atEnd)
        ⟨⟨negotiated, standard, compressing, unburdened⟩, rfl, filter⟩
  | @arrived behind last decoder filterNext octets parcels outcome returned running received _
      inductionHypothesis =>
      obtain ⟨inbox, counters, kept, rfl⟩ := hearing_of_received received
      obtain ⟨_, receivedAhead, filterThen⟩ :=
        filter.exists_receive_of_unblocked compressing received nofun
      exact .after []
        (inductionHypothesis negotiated standard compressing unburdened _ filterThen)
        fun _ _ _ later => .arrived returned running receivedAhead later
  | @closed behind last decoder filterNext parcels outcome returned running received _
      inductionHypothesis =>
      obtain ⟨inbox, counters, kept, rfl⟩ := hearing_of_received received
      obtain ⟨_, receivedAhead, filterThen⟩ :=
        filter.exists_receive_of_unblocked compressing received nofun
      exact .after []
        (inductionHypothesis negotiated standard compressing unburdened _ filterThen)
        fun _ _ _ later => .closed returned running receivedAhead later
  | @failed behind decoder filterNext error returned running received =>
      obtain ⟨inbox, counters, kept, rfl⟩ := hearing_of_received received
      obtain ⟨_, receivedAhead, filterThen⟩ :=
        filter.exists_receive_of_unblocked compressing received nofun
      exact .alike nofun (.failed returned running receivedAhead)
        ⟨⟨negotiated, standard, compressing, unburdened⟩, rfl, filterThen⟩
  | @blocked behind decoder filterNext returned running received =>
      obtain ⟨inbox, counters, kept, rfl⟩ := hearing_of_received received
      rcases filter.receive_cases compressing with ⟨-, unblocked, -⟩ | ⟨-, filterThen, both⟩
      · rw [received] at unblocked
        exact absurd rfl unblocked
      · rw [received] at filterThen both
        refine .blocked ⟨⟨negotiated, standard, compressing, unburdened⟩, rfl, filterThen⟩
          (fun _ _ _ awaited => ⟨_, awaited.of_decoded returned running⟩) fun nothing goesOn => ?_
        obtain ⟨arrived, filterBoth⟩ := both nothing goesOn
        have receivedAhead :
            filterAhead.receive.value = (.blocked, filterAhead.receive.value.2) :=
          Prod.ext arrived rfl
        exact ⟨_, .blocked returned running receivedAhead,
          ⟨negotiated, standard, compressing, unburdened⟩, rfl, filterBoth⟩

end Awaiting

section Reading

variable {future : Bytes} {closing : Bool} {behind ahead : Stream}

/-- Counting what is read says nothing about what is still to come. -/
theorem Lags.value_countRead
    (lags : Lags future closing behind ahead) :
    (countRead.on ahead).value.1 = (countRead.on behind).value.1 ∧
      Lags future closing (countRead.on behind).value.2 (countRead.on ahead).value.2 := by
  obtain ⟨⟨negotiated, standard, compressing, unburdened⟩, same, shared, octets, ends, last⟩ := lags
  rw [same]
  generalize ahead.filter = filterAhead at shared octets ends
  obtain ⟨inbox, peerFinished, counters, received, rfl⟩ := shared
  obtain ⟨after, counted⟩ := deaf_countRead behind inbox peerFinished counters received
  obtain ⟨gathered, outbox, sent, unacknowledged, left⟩ := speaks_countRead behind
  rw [counted, left]
  exact ⟨rfl, ⟨negotiated, standard, compressing, unburdened⟩, rfl, ⟨_, _, _, _, rfl⟩, octets,
    ends, last⟩

theorem Lags.conclude
    (lags : Lags future closing behind ahead)
    (outcome : Outcome Event) :
    (conclude outcome ahead).1 = (conclude outcome behind).1 ∧
      Lags future closing (conclude outcome behind).2 (conclude outcome ahead).2 := by
  cases outcome with
  | done event =>
      obtain ⟨same, stillLags⟩ := lags.value_countRead
      rw [Stream.conclude, Stream.conclude]
      generalize (countRead.on behind).value = counted at same stillLags
      generalize (countRead.on ahead).value = countedAhead at same stillLags
      obtain ⟨_, _⟩ := counted
      obtain ⟨result, _⟩ := countedAhead
      obtain rfl := same
      cases result with
      | ok _ => exact ⟨rfl, stillLags⟩
      | error _ => exact ⟨rfl, stillLags⟩
  | failed _ => exact ⟨rfl, lags⟩
  | blocked _ => exact ⟨rfl, lags⟩

/-- What a stream reads when another, lagging behind it, reads. -/
inductive ReadsAlike (future : Bytes) (closing : Bool) (behind ahead : Stream) : Prop where
  /-- Both read the same. -/
  | alike
      (unblocked : ∀ wait, behind.read.value.1 ≠ .blocked wait)
      (same : ahead.read.value.1 = behind.read.value.1)
      (lags : Lags future closing behind.read.value.2 ahead.read.value.2)
  /-- The one that lags is blocked, and the other as well if nothing is still to come. -/
  | blocked
      {between : Stream}
      (blocked : behind.read.value.1 = .blocked .forEvent)
      (lags : Lags future closing behind.read.value.2 between)
      (further : between.read.value = ahead.read.value)
      (both :
        future = [] → closing = false →
          ahead.read.value.1 = .blocked .forEvent ∧
            Lags future closing behind.read.value.2 ahead.read.value.2)

theorem unblocked_conclude
    {outcome : Outcome Event}
    (unblocked : ∀ wait, outcome ≠ .blocked wait)
    (received : Stream)
    (wait : Wait) :
    (Stream.conclude outcome received).1 ≠ .blocked wait := by
  intro blocked
  cases outcome with
  | done event =>
      rw [Stream.conclude] at blocked
      split at blocked <;> cases blocked
  | failed _ => cases blocked
  | blocked other => exact absurd rfl (unblocked other)

theorem Lags.readsAlike_of_framed
    (lags : Lags future closing behind ahead)
    (framed : behind.coarse = false) :
    ReadsAlike future closing behind ahead := by
  have framedBehind : behind.Framed :=
    ⟨lags.compresses.negotiated, framed, lags.compresses.standard⟩
  have sameCodec : ahead.codec = behind.codec := by rw [lags.same]
  have framedAhead : ahead.Framed := by
    rw [lags.same]
    exact ⟨lags.compresses.negotiated, framed, lags.compresses.standard⟩
  obtain ⟨parcels, outcome, received, awaited⟩ :=
    exists_awaited (judgeEvent behind.codec) .closed .forEvent behind
  have read := framedBehind.value_read.trans (value_readFramed awaited)
  cases lags.outruns awaited with
  | alike unblocked awaitedAhead lagsThen =>
      rw [← sameCodec] at awaitedAhead
      have readAhead := framedAhead.value_read.trans (value_readFramed awaitedAhead)
      obtain ⟨same, stillLags⟩ := lagsThen.conclude outcome
      refine .alike ?_ ?_ ?_
      · rw [read]
        exact unblocked_conclude unblocked received
      · rw [read, readAhead]
        exact same
      · rw [read, readAhead]
        exact stillLags
  | @blocked between lagsThen further both =>
      have sameThen : received.coarse = false ∧ received.codec = behind.codec := by
        obtain ⟨_, _, _, _, _, _, rfl⟩ := awaited.exists_hearing
        exact ⟨framed, rfl⟩
      have framedBetween : between.Framed := by
        rw [lagsThen.same]
        exact ⟨lagsThen.compresses.negotiated, sameThen.1, lagsThen.compresses.standard⟩
      have sameCodecBetween : between.codec = behind.codec := by
        rw [lagsThen.same]
        exact sameThen.2
      obtain ⟨others, outcomeAhead, last, awaitedBetween⟩ :=
        exists_awaited (judgeEvent behind.codec) .closed .forEvent between
      obtain ⟨seen, awaitedAhead⟩ := further _ _ _ awaitedBetween
      rw [← sameCodecBetween] at awaitedBetween
      rw [← sameCodec] at awaitedAhead
      refine @ReadsAlike.blocked _ _ _ _ between ?_ ?_ ?_ fun nothing goesOn => ?_
      · rw [read]
        rfl
      · rw [read]
        exact lagsThen
      · rw [framedBetween.value_read, framedAhead.value_read, value_readFramed awaitedBetween,
          value_readFramed awaitedAhead]
      · obtain ⟨lastAhead, awaitedBoth, lagsBoth⟩ := both nothing goesOn
        rw [← sameCodec] at awaitedBoth
        rw [read, framedAhead.value_read, value_readFramed awaitedBoth]
        exact ⟨rfl, lagsBoth⟩

theorem value_read_of_coarse
    {stream : Stream}
    (negotiated : stream.negotiated.isSome = true)
    (coarse : stream.coarse = true) :
    stream.read.value = stream.readCoarse.value := by
  rw [value_read_of_isSome negotiated, readNegotiated, if_pos coarse]

/-- Once nothing is left of what arrived with the handshake, octets are read as they arrive. -/
theorem value_readCoarse_of_unburdened
    {stream : Stream}
    (unburdened : stream.rawBacklog = [])
    (running : stream.ended = false) :
    stream.readCoarse.value =
      (stream.filter.receive.value.1.outcome,
        { stream with
          filter := stream.filter.receive.value.2
          ended := decide (stream.filter.receive.value.1 = .closed) }) := by
  obtain ⟨filter, _, _, _, _, _, ended, _, _, _⟩ := stream
  obtain rfl : ended = false := running
  rw [readCoarse, if_neg (not_not_intro unburdened), if_neg Bool.false_ne_true, Noted.value_bind]
  dsimp only
  rcases filter.receive.value with ⟨_ | _ | _ | _, _⟩ <;> rfl

theorem value_readCoarse_of_ended
    {stream : Stream}
    (unburdened : stream.rawBacklog = [])
    (ended : stream.ended = true) :
    stream.readCoarse.value = (.failed .closed, stream) := by
  rw [readCoarse, if_neg (not_not_intro unburdened), if_pos ended]
  rfl

theorem Lags.readsAlike_of_coarse
    (lags : Lags future closing behind ahead)
    (coarse : behind.coarse = true) :
    ReadsAlike future closing behind ahead := by
  obtain ⟨compresses, same, filter⟩ := lags
  have unburdened := compresses.unburdened coarse
  have read := value_read_of_coarse compresses.negotiated coarse
  have readAhead : ahead.read.value = ahead.readCoarse.value := by
    rw [same]
    exact value_read_of_coarse compresses.negotiated coarse
  have unburdenedAhead : ahead.rawBacklog = [] := by
    rw [same]
    exact unburdened
  have sameEnd : ahead.ended = behind.ended := by rw [same]
  cases ended : behind.ended with
  | true =>
      rw [value_readCoarse_of_ended unburdened ended] at read
      rw [value_readCoarse_of_ended unburdenedAhead (sameEnd.trans ended)] at readAhead
      refine .alike ?_ ?_ ?_
      · rw [read]
        nofun
      · rw [read, readAhead]
      · rw [read, readAhead]
        exact ⟨compresses, same, filter⟩
  | false =>
      rw [value_readCoarse_of_unburdened unburdened ended] at read
      rw [value_readCoarse_of_unburdened unburdenedAhead (sameEnd.trans ended)] at readAhead
      obtain ⟨inbox, counters, kept, heard⟩ := behind.filter.exists_hearing_of_receive
      have compressing : behind.filter.receive.value.2.enabled = true := by
        rw [heard]
        exact compresses.compressing
      rcases filter.receive_cases compresses.compressing with
        ⟨arrived, unblocked, filterThen⟩ | ⟨blocked, filterThen, both⟩
      · refine .alike ?_ ?_ ?_
        · rw [read]
          generalize behind.filter.receive.value.1 = arrival at unblocked
          cases arrival with
          | blocked => exact absurd rfl unblocked
          | _ => nofun
        · rw [read, readAhead, arrived]
        · rw [read, readAhead, arrived, same]
          exact
            ⟨⟨compresses.negotiated, compresses.standard, compressing, fun _ => unburdened⟩, rfl,
              filterThen⟩
      · refine @ReadsAlike.blocked _ _ _ _ ahead ?_ ?_ rfl fun nothing goesOn => ?_
        · rw [read, blocked]
          rfl
        · rw [read, blocked]
          refine ⟨⟨compresses.negotiated, compresses.standard, compressing, fun _ => unburdened⟩,
            ?_, filterThen⟩
          rw [same, ended]
          rfl
        · obtain ⟨arrived, filterBoth⟩ := both nothing goesOn
          rw [read, readAhead, arrived, blocked, same]
          exact ⟨rfl,
            ⟨compresses.negotiated, compresses.standard, compressing, fun _ => unburdened⟩, rfl,
            filterBoth⟩

/-- Whether events are read or opaque octets, one stream reads what the other reads. -/
theorem Lags.readsAlike
    (lags : Lags future closing behind ahead) :
    ReadsAlike future closing behind ahead := by
  cases coarse : behind.coarse with
  | false => exact lags.readsAlike_of_framed coarse
  | true => exact lags.readsAlike_of_coarse coarse

end Reading

section Trailing

variable {future : Bytes} {closing : Bool} {behind ahead : Stream}

/-- A stream reads the same as one that another stream lags behind. -/
def Trails (future : Bytes) (closing : Bool) (behind ahead : Stream) : Prop :=
  ∃ between, Lags future closing behind between ∧ between.read.value = ahead.read.value

theorem Lags.trails (lags : Lags future closing behind ahead) :
    Trails future closing behind ahead :=
  ⟨ahead, lags, rfl⟩

namespace Trails

/-- A read is blocked for what is still to come, or comes to the same on both streams. -/
theorem read_cases (trails : Trails future closing behind ahead) :
    ((∀ wait, behind.read.value.1 ≠ .blocked wait) ∧
        ahead.read.value.1 = behind.read.value.1 ∧
        Trails future closing behind.read.value.2 ahead.read.value.2) ∨
      behind.read.value.1 = .blocked .forEvent ∧
        Trails future closing behind.read.value.2 ahead := by
  obtain ⟨between, lags, same⟩ := trails
  rw [← same]
  cases lags.readsAlike with
  | alike unblocked sameOutcome stillLags =>
      exact .inl ⟨unblocked, sameOutcome, stillLags.trails⟩
  | @blocked further blocked stillLags reads _ =>
      exact .inr ⟨blocked, further, stillLags, reads.trans same⟩

/-- Once nothing is still to come both streams read the same and have used up the same octets. -/
theorem read_of_all (trails : Trails [] false behind ahead) :
    ahead.read.value.1 = behind.read.value.1 ∧
      ahead.read.value.2.filter.unread = behind.read.value.2.filter.unread := by
  obtain ⟨between, lags, same⟩ := trails
  rw [← same]
  have whole {behind ahead : Stream} (lags : Lags [] false behind ahead) :
      ahead.filter.unread = behind.filter.unread := by
    rw [← lags.filter.octets, List.append_nil]
  cases lags.readsAlike with
  | alike _ sameOutcome stillLags => exact ⟨sameOutcome, whole stillLags⟩
  | blocked blocked _ _ both =>
      obtain ⟨blockedAhead, stillLags⟩ := both rfl rfl
      exact ⟨blockedAhead.trans blocked.symm, whole stillLags⟩

/-- Octets that arrive are no longer still to come. -/
theorem arrival
    {octets : Bytes}
    (trails : Trails (octets ++ future) closing behind ahead) :
    Trails future closing ((Occurrence.arrival octets).after behind) ahead := by
  obtain ⟨between, ⟨compresses, same, shared, whole, ends, last⟩, reads⟩ := trails
  refine ⟨between,
    ⟨⟨compresses.negotiated, compresses.standard, compresses.compressing, compresses.unburdened⟩,
      same, shared, ?_, ends, fun finished => ?_⟩, reads⟩
  · rw [← whole]
    simp only [Occurrence.after, Filter.unread, List.flatten_append, List.flatten_cons,
      List.flatten_nil, List.append_nil, List.append_assoc]
  · exact (List.append_eq_nil_iff.mp (last finished)).2

/-- Once its peer has closed nothing is still to come. -/
theorem peerCloses
    (trails : Trails [] true behind ahead)
    (again : Bool) :
    Trails [] again (Occurrence.peerCloses.after behind) ahead := by
  obtain ⟨between, ⟨compresses, same, shared, whole, ends, -⟩, reads⟩ := trails
  rw [Bool.or_true] at ends
  exact ⟨between,
    ⟨⟨compresses.negotiated, compresses.standard, compresses.compressing, compresses.unburdened⟩,
      same, shared, whole, ends.trans (Bool.true_or again).symm, fun _ => rfl⟩, reads⟩

end Trails

end Trailing

end Stream

end EventWire
