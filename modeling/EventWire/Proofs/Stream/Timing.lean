import EventWire.Proofs.Stream.Resuming

namespace EventWire

/-!
# When things arrive

A stream that is read returns the same events and errors whenever the chunks of
its peer arrive and however often a read is blocked in between: those that are
read when everything has arrived beforehand.  If the stream compresses, they do
not depend on how the octets are cut into chunks either.
-/

namespace Stream

namespace Occurrence

/-- The chunks that arrive when something happens. -/
def chunks : Occurrence → List Bytes
  | arrival octets => [octets]
  | _ => []

/-- Whether the peer sends nothing more after this. -/
def ends : Occurrence → Bool
  | peerCloses => true
  | peerDrops => true
  | _ => false

end Occurrence

/-- What the peer supplies while things happen. -/
def supplying (occurrences : List Occurrence) : Supply where
  chunks := occurrences.flatMap Occurrence.chunks
  closes := occurrences.any Occurrence.ends
  leaves := occurrences.contains .peerDrops

/-- The stream is read at any time, and chunks arrive until the peer has closed. -/
inductive Timely : Bool → List Occurrence → Prop where
  | nil (closed : Bool) : Timely closed []
  | read
      {closed : Bool}
      {occurrences : List Occurrence}
      (later : Timely closed occurrences) :
      Timely closed (.read :: occurrences)
  | arrival
      {occurrences : List Occurrence}
      (octets : Bytes)
      (later : Timely false occurrences) :
      Timely false (.arrival octets :: occurrences)
  | peerCloses
      {closed : Bool}
      {occurrences : List Occurrence}
      (later : Timely true occurrences) :
      Timely closed (.peerCloses :: occurrences)
  | peerDrops
      {closed : Bool}
      {occurrences : List Occurrence}
      (later : Timely true occurrences) :
      Timely closed (.peerDrops :: occurrences)

/-- Things happen at the end of a stream one after the other, and its reads are logged. -/
def live : Stream → List Occurrence → List (Outcome Event) × Stream
  | stream, [] => ([], stream)
  | stream, .read :: later =>
    let lived := live stream.read.value.2 later
    (stream.read.value.1 :: lived.1, lived.2)
  | stream, occurrence :: later => live (occurrence.after stream) later

/-- What one read after the other comes to when nothing else happens. -/
def reading : Stream → Nat → Outcome Event
  | stream, 0 => stream.read.value.1
  | stream, count + 1 => reading stream.read.value.2 count

section Supplying

variable {stream : Stream} {occurrences : List Occurrence}

/-- Nothing arrives once the peer has closed. -/
theorem Timely.chunks_eq_nil
    {closed : Bool}
    (timely : Timely closed occurrences)
    (isClosed : closed = true) :
    (supplying occurrences).chunks = [] := by
  induction timely with
  | nil _ => rfl
  | read _ inductionHypothesis => exact inductionHypothesis isClosed
  | arrival _ _ _ => cases isClosed
  | peerCloses _ inductionHypothesis => exact inductionHypothesis rfl
  | peerDrops _ inductionHypothesis => exact inductionHypothesis rfl

theorem supplied_nothing (stream : Stream) : stream.supplied (supplying []) = stream := by
  obtain ⟨⟨⟨_, inbox, _, _, _, _, _⟩, _, _, _, _, _⟩, _, _, _, _, _, _, _, _, _⟩ := stream
  simp [supplied, Filter.supplied, supplying]

/-- What is supplied at once was supplied together with what is supplied later. -/
theorem supplied_after
    (occurrence : Occurrence)
    (noRead : occurrence ≠ .read)
    (noClose : occurrence ≠ .close) :
    (occurrence.after stream).supplied (supplying occurrences) =
      stream.supplied (supplying (occurrence :: occurrences)) := by
  cases occurrence with
  | read => exact absurd rfl noRead
  | close => exact absurd rfl noClose
  | _ =>
      simp [Occurrence.after, supplied, Filter.supplied, supplying, Occurrence.chunks,
        Occurrence.ends, Connection.dropPeer]

end Supplying

section Living

variable {stream : Stream} {occurrences : List Occurrence}

/-- Nothing that happens undoes the handshake or changes the codec. -/
theorem kept_after
    (negotiated : stream.negotiated.isSome = true)
    (occurrence : Occurrence) :
    (occurrence.after stream).negotiated = stream.negotiated ∧
      (occurrence.after stream).codec = stream.codec := by
  cases occurrence with
  | read =>
      obtain ⟨sameNegotiated, -, sameCodec, -⟩ := kept_read negotiated
      exact ⟨sameNegotiated, sameCodec⟩
  | close =>
      rw [Occurrence.after, Stream.close, Action.value_on_onFilter]
      exact ⟨rfl, rfl⟩
  | _ => exact ⟨rfl, rfl⟩

/-- A read whose time runs out is never taken for an error. -/
theorem of_blocked_mem_live
    {wait : Wait}
    (negotiated : stream.negotiated.isSome = true)
    (blocked : .blocked wait ∈ (stream.live occurrences).1) :
    wait = .forEvent := by
  induction occurrences generalizing stream with
  | nil => exact absurd blocked List.not_mem_nil
  | cons occurrence later inductionHypothesis =>
      have negotiatedThen : (occurrence.after stream).negotiated.isSome = true :=
        (congrArg Option.isSome (kept_after negotiated occurrence).1).trans negotiated
      cases occurrence with
      | read =>
          rcases List.mem_cons.mp blocked with first | others
          · exact of_read_eq_blocked negotiated first.symm
          · exact inductionHypothesis negotiatedThen others
      | _ => exact inductionHypothesis negotiatedThen blocked

/--
The reads of a stream come to what those of another come to that is ahead of it,
when the one has the same to read as the other once all has been supplied.
-/
theorem Timely.live_follows
    {ahead : Stream}
    {closed : Bool}
    (timely : Timely closed occurrences)
    (negotiated : stream.negotiated.isSome = true)
    (finished : stream.filter.connection.peerFinished = closed)
    (unsent : (supplying occurrences).leaves = true → stream.config.ackLimit = 0)
    (same : (stream.supplied (supplying occurrences)).read.value = ahead.read.value) :
    let lived := stream.live occurrences
    let returned := lived.1.filter Outcome.isSettled
    returned = (List.range returned.length).map ahead.reading ∧
      lived.2.read.value.1 = ahead.reading returned.length := by
  induction timely generalizing stream ahead with
  | nil _ =>
      rw [supplied_nothing] at same
      exact ⟨rfl, congrArg Prod.fst same⟩
  | @read closed occurrences later inductionHypothesis =>
      obtain ⟨sameNegotiated, -, -, sameConfig, sameEnd⟩ := kept_read negotiated
      have negotiatedThen : stream.read.value.2.negotiated.isSome = true :=
        (congrArg Option.isSome sameNegotiated).trans negotiated
      have finishedThen := sameEnd.trans finished
      have unsentThen :
          (supplying occurrences).leaves = true → stream.read.value.2.config.ackLimit = 0 := by
        rw [sameConfig]
        exact unsent
      have nothing :
          stream.filter.connection.peerFinished = true → (supplying occurrences).chunks = [] :=
        fun isFinished => later.chunks_eq_nil (finished.symm.trans isFinished)
      dsimp only [live]
      rcases overlooks_read negotiated nothing unsent with ⟨settled, called⟩ | ⟨blocked, again⟩
      · -- The one ahead reads the same, and is ahead again behind this read.
        have readAhead := called.symm.trans same
        obtain ⟨returned, next⟩ :=
          @inductionHypothesis stream.read.value.2 ahead.read.value.2 negotiatedThen finishedThen
            unsentThen (by rw [← readAhead])
        rw [List.filter_cons_of_pos settled, List.length_cons, List.range_succ_eq_map,
          List.map_cons, List.map_map]
        refine ⟨?_, next⟩
        rw [reading, ← readAhead]
        exact congrArg (_ :: ·) returned
      · -- The one ahead does not read, and what it would read is still the same.
        have unsettled : ¬ stream.read.value.1.isSettled = true := by
          rw [show stream.read.value.1 = _ from blocked]
          exact Bool.false_ne_true
        rw [List.filter_cons_of_neg unsettled]
        exact inductionHypothesis negotiatedThen finishedThen unsentThen (again.trans same)
  | arrival octets _ inductionHypothesis =>
      refine inductionHypothesis negotiated finished unsent ?_
      rw [supplied_after (.arrival octets) nofun nofun]
      exact same
  | peerCloses _ inductionHypothesis =>
      refine inductionHypothesis negotiated rfl unsent ?_
      rw [supplied_after .peerCloses nofun nofun]
      exact same
  | peerDrops _ inductionHypothesis =>
      refine inductionHypothesis negotiated rfl (fun _ => unsent rfl) ?_
      rw [supplied_after .peerDrops nofun nofun]
      exact same

end Living

section Cutting

/-- Two streams that compress read the same when the same octets have arrived. -/
theorem Lags.reading
    {behind ahead : Stream}
    (lags : Lags [] false behind ahead)
    (count : Nat) :
    ahead.reading count = behind.reading count := by
  induction count generalizing behind ahead with
  | zero => exact lags.trails.read_of_all.1
  | succ count inductionHypothesis =>
      refine inductionHypothesis ?_
      cases lags.readsAlike with
      | alike _ _ stillLags => exact stillLags
      | blocked _ _ _ both => exact (both rfl rfl).2

variable {stream : Stream} {supply other : Supply}

theorem Compresses.lags_supplied
    (compresses : stream.Compresses)
    (octets : supply.chunks.flatten = other.chunks.flatten)
    (closes : supply.closes = other.closes)
    (leaves : supply.leaves = other.leaves) :
    Lags [] false (stream.supplied supply) (stream.supplied other) where
  compresses :=
    ⟨compresses.negotiated, compresses.standard, compresses.compressing, compresses.unburdened⟩
  same := rfl
  filter := {
    same := by
      let ahead := (stream.supplied other).filter
      refine ⟨ahead.connection.inbox, ahead.connection.peerFinished, ahead.connection.counters,
        ahead.received, ?_⟩
      simp only [ahead, supplied, Filter.supplied, Filter.receiving, leaves]
    octets := by
      simp only [supplied, Filter.supplied, Filter.unread, List.flatten_append, octets,
        List.append_nil]
    ends := by
      simp only [supplied, Filter.supplied, closes, Bool.or_false]
    last := fun _ => rfl }

/-- With compression, how the octets that arrive are cut into chunks makes no difference. -/
theorem reading_supplied_of_flatten
    (negotiated : stream.negotiated.isSome = true)
    (standard : stream.codec.control = Registry.control.value)
    (compressing : stream.filter.enabled = true)
    (octets : supply.chunks.flatten = other.chunks.flatten)
    (closes : supply.closes = other.closes)
    (leaves : supply.leaves = other.leaves)
    (count : Nat) :
    (stream.supplied other).reading count = (stream.supplied supply).reading count := by
  by_cases burdened : stream.coarse = true ∧ stream.rawBacklog ≠ []
  · -- The first read only returns what is left of the handshake.
    have first (supply : Supply) :
        (stream.supplied supply).read.value =
          (.done (.raw stream.rawBacklog),
            ({ stream with rawBacklog := [] } : Stream).supplied supply) :=
      (@value_read_of_coarse (stream.supplied supply) negotiated burdened.1).trans
        (@value_readCoarse_of_burdened (stream.supplied supply) burdened.2)
    have compresses : Compresses { stream with rawBacklog := [] } :=
      ⟨negotiated, standard, compressing, fun _ => rfl⟩
    cases count with
    | zero => rw [reading, reading, first, first]
    | succ count =>
        rw [reading, reading, first, first]
        exact (compresses.lags_supplied octets closes leaves).reading count
  · have compresses : stream.Compresses :=
      ⟨negotiated, standard, compressing, fun coarse =>
        Decidable.byContradiction fun left => burdened ⟨coarse, left⟩⟩
    exact (compresses.lags_supplied octets closes leaves).reading count

end Cutting

section Ending

variable {stream : Stream}

/-- A stream that has been read to its end. -/
structure Drained (stream : Stream) : Prop where
  negotiated : stream.negotiated.isSome = true
  ended : stream.ended = true
  unburdened : stream.coarse = true → stream.rawBacklog = []
  emptied : stream.coarse = false → (stream.decoder.decode true).value.1 = none

/-- A read behind the end says so again. -/
theorem Drained.read (drained : stream.Drained) :
    stream.read.value.1 = .failed .closed ∧ stream.read.value.2.Drained := by
  rw [value_read_of_isSome drained.negotiated, readNegotiated]
  cases coarse : stream.coarse with
  | true =>
      rw [if_pos rfl, value_readCoarse_of_ended (drained.unburdened coarse) drained.ended]
      exact ⟨rfl, drained⟩
  | false =>
      rcases decoded : (stream.decoder.decode true).value with ⟨parcel, next⟩
      obtain rfl : parcel = none := by
        have emptied := drained.emptied coarse
        rwa [decoded] at emptied
      have awaited :
          Awaited (judgeEvent stream.codec) .closed .forEvent stream [] (.failed .closed)
            { stream with decoder := next } :=
        .ended (by rw [drained.ended, decoded]) drained.ended
      rw [if_neg Bool.false_ne_true, value_readFramed awaited]
      exact ⟨rfl, drained.negotiated, drained.ended, drained.unburdened, fun _ =>
        Frame.Decoder.fst_decode_again decoded⟩

/-- Nothing that happens behind the end changes that. -/
theorem Drained.after
    (drained : stream.Drained)
    (occurrence : Occurrence) :
    (occurrence.after stream).Drained := by
  cases occurrence with
  | read => exact drained.read.2
  | close =>
      rw [Occurrence.after, Stream.close, Action.value_on_onFilter]
      exact ⟨drained.negotiated, drained.ended, drained.unburdened, drained.emptied⟩
  | _ => exact ⟨drained.negotiated, drained.ended, drained.unburdened, drained.emptied⟩

theorem Drained.live
    (drained : stream.Drained)
    (occurrences : List Occurrence) :
    ∀ outcome ∈ (stream.live occurrences).1, outcome = .failed .closed := by
  induction occurrences generalizing stream with
  | nil => nofun
  | cons occurrence later inductionHypothesis =>
      have others := inductionHypothesis (drained.after occurrence)
      cases occurrence with
      | read => exact List.forall_mem_cons.mpr ⟨drained.read.1, others⟩
      | _ => exact others

/-- Waiting that meets the end of the stream leaves nothing to decode. -/
theorem Awaited.emptied
    {codec : Codec}
    {last : Stream}
    {parcels : List Frame.Parcel}
    {outcome : Outcome Event}
    (awaited : Awaited (judgeEvent codec) .closed .forEvent stream parcels outcome last)
    (closed : outcome = .failed .closed) :
    last.ended = true ∧ (last.decoder.decode true).value.1 = none := by
  induction awaited with
  | passed _ _ _ inductionHypothesis => exact inductionHypothesis closed
  | acknowledged _ _ _ inductionHypothesis => exact inductionHypothesis closed
  | @settled _ _ parcel result _ judged =>
      cases result with
      | ok _ => cases closed
      | error error =>
          cases closed
          exact absurd judged (judgeEvent_ne_closed codec parcel)
  | ended returned atEnd =>
      rw [atEnd] at returned
      exact ⟨atEnd, Frame.Decoder.fst_decode_again returned⟩
  | arrived _ _ _ _ inductionHypothesis => exact inductionHypothesis closed
  | closed _ _ _ _ inductionHypothesis => exact inductionHypothesis closed
  | failed _ _ _ => cases closed
  | blocked _ _ _ => cases closed

theorem drained_of_readCoarse_eq_closed
    (negotiated : stream.negotiated.isSome = true)
    (coarse : stream.coarse = true)
    (closed : stream.readCoarse.value.1 = .failed .closed) :
    stream.readCoarse.value.2.Drained := by
  have unframed : stream.coarse ≠ false := Bool.ne_false_iff.mpr coarse
  by_cases unburdened : stream.rawBacklog = []
  · cases ended : stream.ended with
    | true =>
        rw [value_readCoarse_of_ended unburdened ended]
        exact ⟨negotiated, ended, fun _ => unburdened, fun framed => absurd framed unframed⟩
    | false =>
        rcases received : stream.filter.receive.value with ⟨arrival, filter⟩
        rw [value_readCoarse_of_received unburdened ended received] at closed ⊢
        cases arrival with
        | closed =>
            exact ⟨negotiated, rfl, fun _ => unburdened, fun framed => absurd framed unframed⟩
        | _ => cases closed
  · rw [value_readCoarse_of_burdened unburdened] at closed
    cases closed

theorem drained_of_readFramed_eq_closed
    (negotiated : stream.negotiated.isSome = true)
    (framed : stream.coarse = false)
    (standard : stream.codec.control = Registry.control.value)
    (closed : stream.readFramed.value.1 = .failed .closed) :
    stream.readFramed.value.2.Drained := by
  obtain ⟨parcels, outcome, received, awaited⟩ :=
    exists_awaited (judgeEvent stream.codec) .closed .forEvent stream
  obtain ⟨sameNegotiated, sameCoarse, sameCodec⟩ :
      received.negotiated = stream.negotiated ∧ received.coarse = stream.coarse ∧
        received.codec = stream.codec := by
    obtain ⟨_, _, _, _, _, _, rfl⟩ := awaited.exists_hearing
    exact ⟨rfl, rfl, rfl⟩
  rw [value_readFramed awaited] at closed ⊢
  cases outcome with
  | done event =>
      -- An event that cannot be acknowledged is an error of the connection.
      rw [conclude] at closed
      split at closed
      · cases closed
      · next error counted performed =>
          cases closed
          obtain ⟨-, isShut | isGone⟩ :=
            of_countRead_eq_error (sameCodec ▸ standard) (congrArg Prod.fst performed)
          · cases isShut
          · cases isGone
  | failed error =>
      cases closed
      obtain ⟨ended, emptied⟩ := awaited.emptied rfl
      have stillFramed : received.coarse ≠ true := by
        rw [sameCoarse, framed]
        exact Bool.false_ne_true
      exact ⟨sameNegotiated ▸ negotiated, ended, fun coarse => absurd coarse stillFramed,
        fun _ => emptied⟩
  | blocked _ => cases closed

/-- A read that reports the end of the stream has reached it. -/
theorem drained_of_read_eq_closed
    (negotiated : stream.negotiated.isSome = true)
    (standard : stream.codec.control = Registry.control.value)
    (closed : stream.read.value.1 = .failed .closed) :
    stream.read.value.2.Drained := by
  rw [value_read_of_isSome negotiated, readNegotiated] at closed ⊢
  cases coarse : stream.coarse with
  | true =>
      rw [coarse, if_pos rfl] at closed
      rw [if_pos rfl]
      exact drained_of_readCoarse_eq_closed negotiated coarse closed
  | false =>
      rw [coarse, if_neg Bool.false_ne_true] at closed
      rw [if_neg Bool.false_ne_true]
      exact drained_of_readFramed_eq_closed negotiated coarse standard closed

/-- Once a read has reported the end of the stream, every later one does. -/
theorem live_of_closed
    {occurrences : List Occurrence}
    {earlier later : List (Outcome Event)}
    (negotiated : stream.negotiated.isSome = true)
    (standard : stream.codec.control = Registry.control.value)
    (lived : (stream.live occurrences).1 = earlier ++ .failed .closed :: later) :
    ∀ outcome ∈ later, outcome = .failed .closed := by
  induction occurrences generalizing stream earlier with
  | nil => cases (List.append_eq_nil_iff.mp lived.symm).2
  | cons occurrence others inductionHypothesis =>
      obtain ⟨negotiatedThen, codecThen⟩ := kept_after negotiated occurrence
      have further {earlier : List (Outcome Event)} :=
        @inductionHypothesis (occurrence.after stream) earlier (negotiatedThen ▸ negotiated)
          (codecThen ▸ standard)
      cases occurrence with
      | read =>
          cases earlier with
          | nil =>
              obtain ⟨closed, rest⟩ := List.cons.inj lived
              exact rest ▸ (drained_of_read_eq_closed negotiated standard closed).live others
          | cons first earlier => exact further (List.cons.inj lived).2
      | _ => exact further lived

end Ending

/--
Things happen that bring a stream all that is supplied: the same chunks, or if
the stream compresses the same octets in any chunks.
-/
structure Brings
    (stream : Stream)
    (supply : Supply)
    (occurrences : List Occurrence) : Prop where
  timely : Timely stream.filter.connection.peerFinished occurrences
  chunks :
    (supplying occurrences).chunks = supply.chunks ∨
      stream.filter.enabled = true ∧
        (supplying occurrences).chunks.flatten = supply.chunks.flatten
  closes : (supplying occurrences).closes = supply.closes
  leaves : (supplying occurrences).leaves = supply.leaves

/--
Whatever is supplied to a stream that has negotiated, the events and errors that
its reads return are those that it reads when all has arrived beforehand: as far
as it has been read, and in the next read.  This holds whenever the chunks arrive
and wherever a read is blocked, and with compression however the octets are cut.
A read whose time runs out returns nothing, and after the end every read reports
the end again.  Only a peer that leaves where acknowledgements are due is excluded.
-/
theorem reads_independent_of_timing
    {stream : Stream}
    {supply : Supply}
    {occurrences : List Occurrence}
    (negotiated : stream.negotiated.isSome = true)
    (standard : stream.codec.control = Registry.control.value)
    (unsent : supply.leaves = true → stream.config.ackLimit = 0)
    (brings : stream.Brings supply occurrences) :
    let lived := stream.live occurrences
    let returned := lived.1.filter Outcome.isSettled
    returned = (List.range returned.length).map (stream.supplied supply).reading ∧
      lived.2.read.value.1 = (stream.supplied supply).reading returned.length ∧
      (∀ outcome ∈ lived.1, outcome.isSettled = false → outcome.expire = .ok none) ∧
      ∀ earlier later,
        lived.1 = earlier ++ .failed .closed :: later →
          ∀ outcome ∈ later, outcome = .failed .closed := by
  obtain ⟨timely, chunks, closes, leaves⟩ := brings
  have same :
      (stream.supplied (supplying occurrences)).reading = (stream.supplied supply).reading := by
    rcases chunks with equal | ⟨compressing, octets⟩
    · rw [show supplying occurrences = supply by
        obtain ⟨_, _, _⟩ := supply
        cases equal
        cases closes
        cases leaves
        rfl]
    · exact funext
        (reading_supplied_of_flatten negotiated standard compressing octets.symm closes.symm
          leaves.symm)
  obtain ⟨returned, next⟩ := timely.live_follows negotiated rfl (leaves ▸ unsent) rfl
  rw [same] at returned next
  refine ⟨returned, next, fun outcome member unsettled => ?_, fun _ _ =>
    live_of_closed negotiated standard⟩
  cases outcome with
  | blocked wait =>
      obtain rfl := of_blocked_mem_live negotiated member
      rfl
  | _ => cases unsettled

section Halves

/-- A stream that compresses, and acknowledges every event. -/
def deflating : Stream :=
  { eager with filter := .compressing (.fresh ⟨1⟩) (Compression.Zlib.compressor 6) 4096 }

/-- A record without fields in a compressed block. -/
def tickBlock : Bytes :=
  Filter.block (Compression.Zlib.compressor 6) tickParcel.wire

/-- The length of the block arrives before the rest of it, and the stream is read in between. -/
def halves : List Occurrence :=
  [.arrival (tickBlock.take 4), .read, .arrival (tickBlock.drop 4), .read, .peerCloses, .read]

/-- A block whose halves arrive apart is read as if it had arrived in one chunk. -/
theorem reads_independent_of_halves :
    deflating.negotiated.isSome = true ∧
      deflating.codec.control = Registry.control.value ∧
      deflating.Brings ⟨[tickBlock], true, false⟩ halves ∧
      let lived := deflating.live halves
      let returned := lived.1.filter Outcome.isSettled
      returned =
          (List.range returned.length).map
            (deflating.supplied ⟨[tickBlock], true, false⟩).reading ∧
        lived.2.read.value.1 =
          (deflating.supplied ⟨[tickBlock], true, false⟩).reading returned.length := by
  have brings : deflating.Brings ⟨[tickBlock], true, false⟩ halves := {
    timely := .arrival _ (.read (.arrival _ (.read (.peerCloses (.read (.nil true))))))
    chunks := .inr ⟨rfl, by
      rw [show (supplying halves).chunks = [tickBlock.take 4, tickBlock.drop 4] from rfl,
        List.flatten_cons, List.flatten_singleton, List.take_append_drop, List.flatten_singleton]⟩
    closes := rfl
    leaves := rfl }
  obtain ⟨returned, next, -⟩ :=
    @reads_independent_of_timing deflating ⟨[tickBlock], true, false⟩ halves rfl rfl nofun brings
  exact ⟨rfl, rfl, brings, returned, next⟩

end Halves

end Stream

end EventWire
