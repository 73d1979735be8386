import EventWire.Proofs.Stream.Sending
import EventWire.Proofs.Stream.Waiting
import EventWire.Proofs.Transport.Packing

namespace EventWire

/-!
# Parcels in transit

What one end of a connection has been given to send and the other has not yet
decoded stands in three places: gathered in the sender's filter, in chunks on
their way or in the receiver's inbox, and in the receiver's decoder.  As long as
it is the frames of whole parcels in all of them, no step of either end loses a
parcel, doubles one or lets it overtake another.
-/

open EventWire.Frame

namespace Stream

/--
The parcels between two ends, in the order in which they leave: those in the
receiver's decoder, those in chunks behind the chunks of `lead`, one group for
each chunk, and those that the sender has gathered.
-/
structure Transit
    (limit : Nat)
    (compressing : Bool)
    (lead : List Bytes)
    (sender receiver : Stream)
    (held : List Parcel)
    (groups : List (List Parcel))
    (unsent : List Parcel) : Prop where
  holds : receiver.decoder.Holds held
  clear : receiver.filter.received = []
  chunks :
    ∃ chunks,
      receiver.filter.connection.inbox ++ sender.filter.connection.outbox = lead ++ chunks ∧
        List.Forall₂ (Filter.Unpacks compressing receiver.filter.compressor) groups chunks
  accepts : receiver.decoder.maxEventSize = limit
  small : ∀ parcel ∈ groups.flatten ++ unsent, parcel.body.length ≤ limit
  gathers : sender.filter.connection.finished = false → sender.filter.Gathers unsent
  spent : sender.filter.connection.finished = true → unsent = []
  closed :
    receiver.filter.connection.peerFinished = true →
      sender.filter.connection.finished = true ∧ sender.filter.connection.outbox = []
  drained :
    receiver.ended = true →
      receiver.filter.connection.inbox = [] ∧ receiver.filter.connection.peerFinished = true

/-- A stream that may have received something, and otherwise is the same. -/
def Listens (stream next : Stream) : Prop :=
  ∃ inbox peerFinished counters received decoder ended acknowledged,
    next =
      { stream with
        filter := stream.filter.receiving inbox peerFinished counters received
        decoder := decoder
        ended := ended
        acknowledged := acknowledged }

/-- A stream that may have sent something or closed, and otherwise is the same. -/
def Speaks (stream next : Stream) : Prop :=
  ∃ gathered outbox counters finished unacknowledged acknowledged,
    next =
      { stream with
        filter :=
          { stream.filter with
            connection := { stream.filter.connection with outbox, counters, finished }
            gathered := gathered }
        unacknowledged := unacknowledged
        acknowledged := acknowledged }

/-- A stream that has sent nothing, but may have gathered something. -/
def Mutes (stream next : Stream) : Prop :=
  ∃ gathered unacknowledged acknowledged,
    next =
      { stream with
        filter := { stream.filter with gathered := gathered }
        unacknowledged := unacknowledged
        acknowledged := acknowledged }

section Relations

variable {stream next last : Stream}

theorem Awaited.listens
    {Value : Type}
    {judge : Parcel → Noted (Verdict Value)}
    {ending : StreamError}
    {wait : Wait}
    {parcels : List Parcel}
    {outcome : Outcome Value}
    (awaited : Awaited judge ending wait stream parcels outcome last) :
    stream.Listens last := by
  obtain ⟨inbox, counters, received, decoder, ended, acknowledged, shape⟩ := awaited.exists_hearing
  exact ⟨inbox, stream.filter.connection.peerFinished, counters, received, decoder, ended,
    acknowledged, shape⟩

theorem Speaks.trans
    (first : stream.Speaks next)
    (second : next.Speaks last) :
    stream.Speaks last := by
  obtain ⟨_, _, _, _, _, _, rfl⟩ := first
  obtain ⟨_, _, _, _, _, _, rfl⟩ := second
  exact ⟨_, _, _, _, _, _, rfl⟩

theorem mutes_refl (stream : Stream) : stream.Mutes stream :=
  ⟨stream.filter.gathered, stream.unacknowledged, stream.acknowledged, rfl⟩

theorem Mutes.trans
    (first : stream.Mutes next)
    (second : next.Mutes last) :
    stream.Mutes last := by
  obtain ⟨_, _, _, rfl⟩ := first
  obtain ⟨_, _, _, rfl⟩ := second
  exact ⟨_, _, _, rfl⟩

theorem Mutes.speaks (mutes : stream.Mutes next) : stream.Speaks next := by
  obtain ⟨gathered, unacknowledged, acknowledged, rfl⟩ := mutes
  exact ⟨gathered, stream.filter.connection.outbox, stream.filter.connection.counters,
    stream.filter.connection.finished, unacknowledged, acknowledged, rfl⟩

end Relations

/--
A stream hands parcels to its filter, which sends some of these and of those it
had gathered, one group in each chunk, and gathers the rest.
-/
structure Gives
    (stream : Stream)
    (unsent parcels : List Parcel)
    (groups : List (List Parcel))
    (rest : List Parcel)
    (next : Stream) : Prop where
  emits : stream.filter.Emits (unsent ++ parcels) groups rest next.filter
  same :
    ∃ unacknowledged acknowledged,
      next =
        { stream with
          filter := next.filter
          unacknowledged := unacknowledged
          acknowledged := acknowledged }

section Giving

variable {stream next last : Stream} {unsent rest : List Parcel}

theorem Gives.speaks
    {parcels : List Parcel}
    {groups : List (List Parcel)}
    (gives : stream.Gives unsent parcels groups rest next) :
    stream.Speaks next := by
  obtain ⟨unacknowledged, acknowledged, shape⟩ := gives.same
  obtain ⟨gathered, counters, spoken⟩ := gives.emits.next_eq
  rw [spoken] at shape
  exact ⟨gathered, _, counters, stream.filter.connection.finished, unacknowledged, acknowledged,
    shape⟩

theorem Gives.trans
    {parcels others final : List Parcel}
    {groups later : List (List Parcel)}
    (gives : stream.Gives unsent parcels groups rest next)
    (further : next.Gives rest others later final last) :
    stream.Gives unsent (parcels ++ others) (groups ++ later) final last where
  emits := by
    rw [← List.append_assoc]
    exact gives.emits.trans further.emits
  same := by
    obtain ⟨_, _, shape⟩ := gives.same
    obtain ⟨unacknowledged, acknowledged, furtherShape⟩ := further.same
    rw [shape] at furtherShape
    exact ⟨unacknowledged, acknowledged, furtherShape⟩

variable (gathers : stream.filter.Gathers unsent) (unacknowledged acknowledged : UInt32)
include gathers

theorem gives_nothing :
    stream.Gives unsent [] [] unsent
      { stream with unacknowledged := unacknowledged, acknowledged := acknowledged } where
  emits := by
    rw [List.append_nil]
    exact .nothing gathers
  same := ⟨_, _, rfl⟩

theorem exists_gives_accepted (parcel : Parcel) :
    ∃ groups rest,
      stream.Gives unsent [parcel] groups rest
        { stream with
          filter := stream.filter.accepted parcel.wire
          unacknowledged := unacknowledged
          acknowledged := acknowledged } := by
  obtain ⟨groups, rest, emits⟩ := gathers.exists_emits_accepted parcel
  exact ⟨groups, rest, emits, _, _, rfl⟩

theorem exists_gives_pushed :
    ∃ groups,
      stream.Gives unsent [] groups []
        { stream with
          filter := stream.filter.pushed
          unacknowledged := unacknowledged
          acknowledged := acknowledged } := by
  obtain ⟨groups, emits⟩ := gathers.exists_emits_pushed
  rw [← List.append_nil unsent] at emits
  exact ⟨groups, emits, _, _, rfl⟩

end Giving

namespace Transit

variable
  {limit : Nat} {compressing : Bool} {lead : List Bytes} {sender receiver next : Stream}
  {held : List Parcel} {groups : List (List Parcel)} {unsent : List Parcel}

section Sending

/-- The parcels a sender gives are in transit behind those that were already. -/
theorem gives
    {parcels rest : List Parcel}
    {later : List (List Parcel)}
    (transit : Transit limit compressing lead sender receiver held groups unsent)
    (gives : sender.Gives unsent parcels later rest next)
    (unfinished : sender.filter.connection.finished = false)
    (agreed : sender.filter.enabled = compressing)
    (lossless :
      ∀ octets,
        receiver.filter.compressor.decompress (sender.filter.compressor.compress octets) =
          some octets)
    (short :
      next.filter.enabled = true →
        ∀ chunk ∈ next.filter.connection.outbox, chunk.length ≤ 4 + maxBlock)
    (small : ∀ parcel ∈ parcels, parcel.body.length ≤ limit) :
    Transit limit compressing lead next receiver held (groups ++ later) rest := by
  obtain ⟨_, _, shape⟩ := gives.same
  obtain ⟨gathered, counters, spoken⟩ := gives.emits.next_eq
  have gathers := gives.emits.gathers
  rw [spoken] at shape gathers
  rw [shape] at short ⊢
  obtain ⟨chunks, arranged, unpacks⟩ := transit.chunks
  refine ⟨transit.holds, transit.clear, ?_, transit.accepts, ?_, fun _ => gathers, ?_, ?_,
    transit.drained⟩
  · refine ⟨chunks ++ later.map sender.filter.packed, ?_, List.rel_append unpacks ?_⟩
    · dsimp only [Filter.speaking]
      rw [← List.append_assoc, ← List.append_assoc, arranged]
    · rw [List.forall₂_map_right_iff, List.forall₂_same]
      intro group member
      rw [← agreed]
      refine Filter.unpacks_packed lossless fun enabled => short enabled _ ?_
      exact List.mem_append_right _ (List.mem_map_of_mem member)
  · intro parcel member
    rw [List.flatten_append, List.append_assoc, gives.emits.kept, ← List.append_assoc] at member
    rcases List.mem_append.mp member with before | new
    · exact transit.small parcel before
    · exact small parcel new
  · intro finished
    exact nomatch unfinished.symm.trans finished
  · intro noticed
    exact nomatch unfinished.symm.trans (transit.closed noticed).1

/-- What the sender receives is none of the receiver's concern. -/
theorem sender_listens
    (transit : Transit limit compressing lead sender receiver held groups unsent)
    (listens : sender.Listens next) :
    Transit limit compressing lead next receiver held groups unsent := by
  obtain ⟨_, _, _, _, _, _, _, rfl⟩ := listens
  have gathers := transit.gathers
  exact ⟨transit.holds, transit.clear, transit.chunks, transit.accepts, transit.small,
    fun unfinished => ⟨(gathers unfinished).gathered_eq, (gathers unfinished).atOnce⟩,
    transit.spent, transit.closed, transit.drained⟩

/-- What the receiver sends is none of the sender's concern. -/
theorem receiver_speaks
    (transit : Transit limit compressing lead sender receiver held groups unsent)
    (speaks : receiver.Speaks next) :
    Transit limit compressing lead sender next held groups unsent := by
  obtain ⟨_, _, _, _, _, _, rfl⟩ := speaks
  exact ⟨transit.holds, transit.clear, transit.chunks, transit.accepts, transit.small,
    transit.gathers, transit.spent, transit.closed, transit.drained⟩

/-- A sender that has closed sends nothing, whatever it gathers. -/
theorem sender_mutes
    (transit : Transit limit compressing lead sender receiver held groups unsent)
    (finished : sender.filter.connection.finished = true)
    (mutes : sender.Mutes next) :
    Transit limit compressing lead next receiver held groups unsent := by
  obtain ⟨_, _, _, rfl⟩ := mutes
  exact ⟨transit.holds, transit.clear, transit.chunks, transit.accepts, transit.small,
    fun unfinished => absurd (finished.symm.trans unfinished) Bool.noConfusion,
    transit.spent, transit.closed, transit.drained⟩

/-- A sender that has given all it was given can close. -/
theorem finish (transit : Transit limit compressing lead sender receiver held groups []) :
    Transit limit compressing lead
      { sender with
        filter :=
          { sender.filter with
            connection := { sender.filter.connection with finished := true } } }
      receiver held groups [] where
  holds := transit.holds
  clear := transit.clear
  chunks := transit.chunks
  accepts := transit.accepts
  small := transit.small
  gathers := nofun
  spent _ := rfl
  closed noticed := ⟨rfl, (transit.closed noticed).2⟩
  drained := transit.drained

/-- Carrying what has been sent keeps it in transit. -/
theorem carry (transit : Transit limit compressing lead sender receiver held groups unsent) :
    let carried := sender.filter.connection.carry receiver.filter.connection
    Transit limit compressing lead
      { sender with filter := { sender.filter with connection := carried.1 } }
      { receiver with filter := { receiver.filter with connection := carried.2 } }
      held groups unsent where
  holds := transit.holds
  clear := transit.clear
  chunks := by
    obtain ⟨chunks, arranged, unpacks⟩ := transit.chunks
    exact ⟨chunks, (List.append_nil _).trans arranged, unpacks⟩
  accepts := transit.accepts
  small := transit.small
  gathers unfinished :=
    ⟨(transit.gathers unfinished).gathered_eq, (transit.gathers unfinished).atOnce⟩
  spent := transit.spent
  closed noticed := by
    refine ⟨?_, rfl⟩
    rcases Bool.or_eq_true_iff.mp noticed with already | now
    · exact (transit.closed already).1
    · exact now
  drained ended := by
    obtain ⟨inbox, finished⟩ := transit.drained ended
    refine ⟨?_, Bool.or_eq_true_iff.mpr (.inl finished)⟩
    exact List.append_eq_nil_iff.mpr ⟨inbox, (transit.closed finished).2⟩

end Sending

section Receiving

/-- A parcel that the decoder returns is the first one in transit. -/
theorem decode_some
    {parcel : Parcel}
    {decoder : Decoder}
    (transit : Transit limit compressing lead sender receiver held groups unsent)
    (returned : (receiver.decoder.decode receiver.ended).value = (some parcel, decoder))
    (acknowledged : UInt32) :
    ∃ others,
      held = parcel :: others ∧
        Transit limit compressing lead sender
          { receiver with decoder := decoder, acknowledged := acknowledged }
          others groups unsent := by
  cases held with
  | nil =>
      obtain ⟨_, nothing, -⟩ := transit.holds.decode_nil receiver.ended
      exact nomatch returned.symm.trans nothing
  | cons first others =>
      obtain ⟨_, decoded, holds, sameLimit⟩ := transit.holds.decode_cons receiver.ended
      cases returned.symm.trans decoded
      exact ⟨others, rfl, holds, transit.clear, transit.chunks, sameLimit.trans transit.accepts,
        transit.small, transit.gathers, transit.spent, transit.closed, transit.drained⟩

/-- A decoder that returns nothing holds no parcel. -/
theorem decode_none
    {decoder : Decoder}
    (transit : Transit limit compressing lead sender receiver held groups unsent)
    (returned : (receiver.decoder.decode receiver.ended).value = (none, decoder)) :
    held = [] ∧
      Transit limit compressing lead sender { receiver with decoder := decoder } [] groups
        unsent := by
  cases held with
  | nil =>
      obtain ⟨_, decoded, holds, sameLimit⟩ := transit.holds.decode_nil receiver.ended
      cases returned.symm.trans decoded
      exact ⟨rfl, holds, transit.clear, transit.chunks, sameLimit.trans transit.accepts,
        transit.small, transit.gathers, transit.spent, transit.closed, transit.drained⟩
  | cons first others =>
      obtain ⟨_, decoded, -⟩ := transit.holds.decode_cons receiver.ended
      exact nomatch returned.symm.trans decoded

/-- What is received next is the parcels of one chunk, unless no chunk has arrived. -/
theorem receive
    {arrival : Arrival}
    {filter : Filter}
    (transit : Transit limit compressing [] sender receiver [] groups unsent)
    (running : receiver.ended = false)
    (agreed : receiver.filter.enabled = compressing)
    (received : receiver.filter.receive.value = (arrival, filter)) :
    (∃ group others,
        groups = group :: others ∧
          arrival = .data (group.flatMap Parcel.wire) ∧
          Transit limit compressing [] sender
            { receiver with
              filter := filter
              decoder := receiver.decoder.push (group.flatMap Parcel.wire) }
            group others unsent) ∨
      receiver.filter.connection.inbox = [] ∧
        filter = receiver.filter ∧
        arrival = if receiver.filter.connection.peerFinished then .closed else .blocked := by
  obtain ⟨chunks, arranged, unpacks⟩ := transit.chunks
  cases inbox : receiver.filter.connection.inbox with
  | nil =>
      rw [Filter.value_receive_of_empty transit.clear inbox] at received
      cases received
      exact .inr ⟨rfl, rfl, rfl⟩
  | cons chunk waiting =>
      rw [inbox, List.nil_append, List.cons_append] at arranged
      obtain rfl := arranged
      obtain ⟨group, others, unpacksFirst, unpacksOthers, rfl⟩ :=
        List.forall₂_cons_right_iff.mp unpacks
      rw [← agreed] at unpacksFirst
      obtain ⟨counters, yielded⟩ :=
        Filter.exists_receive_of_unpacks transit.clear unpacksFirst inbox
      cases received.symm.trans yielded
      have small := transit.small
      rw [List.flatten_cons, List.append_assoc] at small
      refine .inl ⟨group, others, rfl, rfl, ?_, rfl, ⟨_, rfl, unpacksOthers⟩, transit.accepts, ?_,
        transit.gathers, transit.spent, transit.closed, ?_⟩
      · refine transit.holds.push fun parcel member => ?_
        rw [transit.accepts]
        exact small parcel (List.mem_append_left _ member)
      · exact fun parcel member => small parcel (List.mem_append_right _ member)
      · exact fun ended => nomatch running.symm.trans ended

/-- Once the sender has closed and everything has arrived, the receiver may notice. -/
theorem sees_end
    (transit : Transit limit compressing lead sender receiver held groups unsent)
    (inbox : receiver.filter.connection.inbox = [])
    (finished : receiver.filter.connection.peerFinished = true) :
    Transit limit compressing lead sender { receiver with ended := true } held groups unsent :=
  ⟨transit.holds, transit.clear, transit.chunks, transit.accepts, transit.small, transit.gathers,
    transit.spent, transit.closed, fun _ => ⟨inbox, finished⟩⟩

theorem groups_eq_nil
    (transit : Transit limit compressing [] sender receiver held groups unsent)
    (inbox : receiver.filter.connection.inbox = [])
    (outbox : sender.filter.connection.outbox = []) :
    groups = [] := by
  obtain ⟨chunks, arranged, unpacks⟩ := transit.chunks
  rw [inbox, outbox] at arranged
  obtain rfl : [] = chunks := arranged
  exact List.forall₂_nil_right_iff.mp unpacks

variable
  {Value : Type} {judge : Parcel → Noted (Verdict Value)} {ending : StreamError} {wait : Wait}

/--
Whatever a receiver waits for, the parcels it completes meanwhile are the first
ones in transit, and one of them settles the wait unless it is blocked or comes
to the end of the stream.  When it is blocked no others had arrived, and when it
comes to the end there were none.
-/
theorem exists_awaited
    {parcels : List Parcel}
    {outcome : Outcome Value}
    {last : Stream}
    (awaited : Awaited judge ending wait receiver parcels outcome last)
    (transit : Transit limit compressing [] sender receiver held groups unsent)
    (agreed : receiver.filter.enabled = compressing)
    (unending : ∀ parcel, (judge parcel).value ≠ .settled (.error ending)) :
    ∃ later others,
      Transit limit compressing [] sender last later others unsent ∧
        held ++ groups.flatten = parcels ++ (later ++ others.flatten) ∧
        (outcome = .blocked wait → later = [] ∧ last.filter.connection.inbox = []) ∧
        (outcome = .failed ending → later = [] ∧ last.ended = true) ∧
        (outcome = .blocked wait ∨ outcome = .failed ending ∨
          ∃ parcel ∈ parcels, ∃ result,
            (judge parcel).value = .settled result ∧ outcome = settle result) := by
  induction awaited generalizing held groups with
  | @passed receiver last decoder parcel parcels outcome returned judged _ inductionHypothesis =>
      obtain ⟨rest, rfl, decoded⟩ := transit.decode_some returned receiver.acknowledged
      obtain ⟨later, others, left, split, blocked, ended, outcomes⟩ :=
        inductionHypothesis decoded agreed
      refine ⟨later, others, left, congrArg (parcel :: ·) split, blocked, ended, ?_⟩
      exact outcomes.imp_right (.imp_right fun ⟨found, member, settles⟩ =>
        ⟨found, List.mem_cons_of_mem _ member, settles⟩)
  | @acknowledged receiver last decoder parcel parcels outcome count returned judged _
      inductionHypothesis =>
      obtain ⟨rest, rfl, decoded⟩ :=
        transit.decode_some returned (saturatingSum receiver.acknowledged count)
      obtain ⟨later, others, left, split, blocked, ended, outcomes⟩ :=
        inductionHypothesis decoded agreed
      refine ⟨later, others, left, congrArg (parcel :: ·) split, blocked, ended, ?_⟩
      exact outcomes.imp_right (.imp_right fun ⟨found, member, settles⟩ =>
        ⟨found, List.mem_cons_of_mem _ member, settles⟩)
  | @settled receiver decoder parcel result returned judged =>
      obtain ⟨rest, rfl, decoded⟩ := transit.decode_some returned receiver.acknowledged
      refine ⟨rest, groups, decoded, rfl, ?_, ?_, ?_⟩
      · intro blocked
        cases result <;> exact nomatch blocked
      · intro failed
        cases result with
        | ok _ => exact nomatch failed
        | error error =>
            cases failed
            exact absurd judged (unending parcel)
      · exact .inr (.inr ⟨parcel, List.mem_singleton_self _, result, judged, rfl⟩)
  | ended returned atEnd =>
      obtain ⟨rfl, decoded⟩ := transit.decode_none returned
      exact ⟨[], groups, decoded, rfl, nofun, fun _ => ⟨rfl, atEnd⟩, .inr (.inl rfl)⟩
  | arrived returned running received _ inductionHypothesis =>
      obtain ⟨rfl, decoded⟩ := transit.decode_none returned
      rcases decoded.receive running agreed received with
        ⟨group, rest, rfl, arrival, pushed⟩ | ⟨_, _, arrival⟩
      · cases arrival
        obtain ⟨_, _, _, rfl⟩ := hearing_of_received received
        obtain ⟨later, others, left, split, exhausted⟩ := inductionHypothesis pushed agreed
        exact ⟨later, others, left, split, exhausted⟩
      · split at arrival <;> exact nomatch arrival
  | @closed receiver last decoder filter parcels outcome returned running received _
      inductionHypothesis =>
      obtain ⟨rfl, decoded⟩ := transit.decode_none returned
      rcases decoded.receive running agreed received with
        ⟨_, _, _, arrival, _⟩ | ⟨inbox, rfl, arrival⟩
      · exact nomatch arrival
      · have finished : receiver.filter.connection.peerFinished = true := by
          split at arrival
          · next finished => exact finished
          · exact nomatch arrival
        exact inductionHypothesis (decoded.sees_end inbox finished) agreed
  | failed returned running received =>
      obtain ⟨rfl, decoded⟩ := transit.decode_none returned
      rcases decoded.receive running agreed received with ⟨_, _, _, arrival, _⟩ | ⟨_, _, arrival⟩
      · exact nomatch arrival
      · split at arrival <;> exact nomatch arrival
  | blocked returned running received =>
      obtain ⟨rfl, decoded⟩ := transit.decode_none returned
      rcases decoded.receive running agreed received with ⟨_, _, _, arrival, _⟩ | ⟨inbox, rfl, _⟩
      · exact nomatch arrival
      · exact ⟨[], groups, decoded, rfl, fun _ => ⟨rfl, inbox⟩, nofun, .inl rfl⟩

end Receiving

end Transit

end Stream

end EventWire
