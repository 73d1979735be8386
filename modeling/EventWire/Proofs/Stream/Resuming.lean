import EventWire.Proofs.Stream.Relaying
import EventWire.Proofs.Transport.Supply

namespace EventWire

/-!
# Reads with more supplied

A read that is not blocked comes to the same when more has been supplied before
it, and leaves the same with this more.  A read that is blocked has only
decoded and put together what had arrived: when more is supplied afterwards, the
next read comes to what it would have come to without the blocked one.
-/

namespace Stream

/-- A stream to which more has been supplied. -/
def supplied (stream : Stream) (supply : Supply) : Stream :=
  { stream with filter := stream.filter.supplied supply }

section Sending

variable {supply : Supply}

/-- An operation that comes to the same with more supplied, and leaves the same with it. -/
def Action.Ignores (supply : Supply) (action : Action Unit) : Prop :=
  ∀ stream : Stream,
    (action.on (stream.supplied supply)).value =
      ((action.on stream).value.1, (action.on stream).value.2.supplied supply)

theorem Action.Ignores.bind
    {action : Action Unit}
    {next : Unit → Action Unit}
    (first : action.Ignores supply)
    (second : (next ()).Ignores supply) :
    (action >>= next).Ignores supply := by
  intro stream
  rw [value_on_bind, value_on_bind, first stream]
  rcases (action.on stream).value with ⟨_ | _, changed⟩
  · rfl
  · exact second changed

section Staying

variable (stays : supply.leaves = false)
include stays

theorem ignores_sendEvent (event : Event) : (sendEvent event).Ignores supply := by
  intro stream
  rcases appended : (stream.codec.append event []).value with ⟨_ | _, frames⟩
  · rw [value_sendEvent_of_error appended,
      @value_sendEvent_of_error (stream.supplied supply) _ _ _ appended]
  · rw [value_sendEvent_of_ok appended,
      @value_sendEvent_of_ok (stream.supplied supply) _ _ _ appended, supplied,
      Filter.value_send_supplied stays]
    rfl

theorem ignores_pushOut : pushOut.Ignores supply := by
  intro stream
  rw [pushOut, Action.value_on_onFilter, Action.value_on_onFilter, supplied,
    Filter.value_flush_supplied stays]
  rfl

theorem ignores_acknowledge : acknowledge.Ignores supply := by
  intro stream
  by_cases nothing : stream.coarse = true ∨ stream.unacknowledged = 0
  · rw [value_acknowledge_of_nothing nothing,
      @value_acknowledge_of_nothing (stream.supplied supply) nothing]
  · rw [value_acknowledge_of_some nothing,
      @value_acknowledge_of_some (stream.supplied supply) nothing]
    exact (ignores_sendEvent stays _).bind (ignores_pushOut stays)
      { stream with unacknowledged := 0 }

end Staying

/-- What is supplied does not influence an acknowledgement, unless the peer leaves before it. -/
theorem value_countRead_supplied
    {stream : Stream}
    (unsent : supply.leaves = true → stream.config.ackLimit = 0) :
    (countRead.on (stream.supplied supply)).value =
      ((countRead.on stream).value.1, (countRead.on stream).value.2.supplied supply) := by
  by_cases due :
      0 < stream.config.ackLimit ∧ stream.config.ackLimit ≤ stream.unacknowledged + 1
  · have stays : supply.leaves = false := by
      by_contra leaves
      rw [unsent (Bool.eq_true_of_not_eq_false leaves)] at due
      exact absurd due.1 (by decide)
    rw [value_countRead_of_due due, @value_countRead_of_due (stream.supplied supply) due]
    exact ignores_acknowledge stays
      { stream with unacknowledged := stream.unacknowledged + 1 }
  · rw [value_countRead_of_early due, @value_countRead_of_early (stream.supplied supply) due]
    rfl

theorem conclude_supplied
    {received : Stream}
    (unsent : supply.leaves = true → received.config.ackLimit = 0)
    (outcome : Outcome Event) :
    conclude outcome (received.supplied supply) =
      ((conclude outcome received).1, (conclude outcome received).2.supplied supply) := by
  cases outcome with
  | done event =>
      rw [conclude, conclude, value_countRead_supplied unsent]
      rcases (countRead.on received).value with ⟨_ | _, _⟩ <;> rfl
  | failed _ => rfl
  | blocked _ => rfl

end Sending

section Waiting

variable
  {Value : Type} {judge : Frame.Parcel → Noted (Verdict Value)} {ending : StreamError} {wait : Wait}
variable
  {supply : Supply} {stream last : Stream} {parcels : List Frame.Parcel} {outcome : Outcome Value}

/-- Once its decoder has nothing to return, what a stream waits for is what it receives. -/
theorem Awaited.of_received
    {filter : Filter}
    {decoder : Frame.Decoder}
    (returned : (stream.decoder.decode stream.ended).value = (none, decoder))
    (running : stream.ended = false)
    (same : filter.receive.value = stream.filter.receive.value)
    (awaited : Awaited judge ending wait { stream with filter := filter } parcels outcome last) :
    Awaited judge ending wait stream parcels outcome last := by
  cases awaited with
  | passed found _ _ => exact nomatch returned.symm.trans found
  | acknowledged found _ _ => exact nomatch returned.symm.trans found
  | settled found _ => exact nomatch returned.symm.trans found
  | ended _ atEnd => exact nomatch running.symm.trans atEnd
  | arrived found _ received later => exact .arrived found running (same.symm.trans received) later
  | closed found _ received later => exact .closed found running (same.symm.trans received) later
  | failed found _ received => exact .failed found running (same.symm.trans received)
  | blocked found _ received => exact .blocked found running (same.symm.trans received)

/--
What becomes of a stream to which all has been supplied, while another waits to
which it has not.  It comes to the same, or the other is blocked; then it comes
to whatever the other comes to when it is supplied and waits again.
-/
inductive Resumes
    (judge : Frame.Parcel → Noted (Verdict Value))
    (ending : StreamError)
    (wait : Wait)
    (supply : Supply)
    (ahead last : Stream) :
    List Frame.Parcel → Outcome Value → Prop where
  | alike
      {parcels : List Frame.Parcel}
      {outcome : Outcome Value}
      (settled : outcome.isSettled = true)
      (awaited : Awaited judge ending wait ahead parcels outcome (last.supplied supply)) :
      Resumes judge ending wait supply ahead last parcels outcome
  | blocked
      {parcels : List Frame.Parcel}
      (further :
        ∀ parcels outcome final,
          Awaited judge ending wait (last.supplied supply) parcels outcome final →
            ∃ seen, Awaited judge ending wait ahead seen outcome final) :
      Resumes judge ending wait supply ahead last parcels (.blocked wait)

/-- A step that a stream takes for itself comes before whatever becomes of it. -/
theorem Resumes.after
    {ahead next : Stream}
    (seen : List Frame.Parcel)
    (resumes : Resumes judge ending wait supply next last parcels outcome)
    (step :
      ∀ parcels outcome final,
        Awaited judge ending wait next parcels outcome final →
          Awaited judge ending wait ahead (seen ++ parcels) outcome final) :
    Resumes judge ending wait supply ahead last (seen ++ parcels) outcome := by
  cases resumes with
  | alike settled awaited => exact .alike settled (step _ _ _ awaited)
  | blocked further =>
      refine .blocked fun parcels outcome final awaited => ?_
      obtain ⟨others, later⟩ := further parcels outcome final awaited
      exact ⟨_, step _ _ _ later⟩

/-- Waiting comes to the same with more supplied, or goes on once it is supplied. -/
theorem Awaited.resumes
    (awaited : Awaited judge ending wait stream parcels outcome last)
    (nothing : stream.filter.connection.peerFinished = true → supply.chunks = []) :
    Resumes judge ending wait supply (stream.supplied supply) last parcels outcome := by
  induction awaited with
  | passed returned judged _ inductionHypothesis =>
      exact (inductionHypothesis nothing).after [_] fun _ _ _ later =>
        .passed returned judged later
  | acknowledged returned judged _ inductionHypothesis =>
      exact (inductionHypothesis nothing).after [_] fun _ _ _ later =>
        .acknowledged returned judged later
  | @settled _ _ _ result returned judged =>
      exact .alike (by cases result <;> rfl) (.settled returned judged)
  | ended returned atEnd => exact .alike rfl (.ended returned atEnd)
  | @arrived stream last decoder filter octets parcels outcome returned running received _
      inductionHypothesis =>
      obtain ⟨inbox, counters, kept, rfl⟩ := hearing_of_received received
      have called := Filter.value_receive_supplied nothing received nofun
      exact (inductionHypothesis nothing).after [] fun _ _ _ later =>
        .arrived returned running called later
  | @closed stream last decoder filter parcels outcome returned running received _
      inductionHypothesis =>
      obtain ⟨inbox, counters, kept, rfl⟩ := hearing_of_received received
      have called := Filter.value_receive_supplied nothing received nofun
      exact (inductionHypothesis nothing).after [] fun _ _ _ later =>
        .closed returned running called later
  | @failed stream decoder filter error returned running received =>
      have called := Filter.value_receive_supplied nothing received nofun
      exact .alike rfl (.failed returned running called)
  | @blocked stream decoder filter returned running received =>
      have again := Filter.value_receive_again nothing received
      have nothingMore : (decoder.decode stream.ended).value = (none, decoder) := by
        rw [running] at returned ⊢
        exact Frame.Decoder.decode_again returned
      -- Neither the decoder nor the filter has lost what a read after the supply needs.
      refine .blocked fun parcels _ _ later => ⟨parcels, ?_⟩
      exact @Awaited.of_decoded _ _ _ _ (stream.supplied supply) _ _ _ _ returned running
        (@Awaited.of_received _ _ _ _ { stream.supplied supply with decoder := decoder } _ _ _
          _ _ nothingMore running again later)

end Waiting

section Reading

variable {supply : Supply} {stream : Stream}

/--
A call either comes to the same with more supplied and leaves the same with it,
or it is blocked and can be made again when more has been supplied.
-/
def Overlooks
    (supply : Supply)
    (stream : Stream)
    (call : Stream → Outcome Event × Stream) : Prop :=
  (call stream).1.isSettled = true ∧
      call (stream.supplied supply) = ((call stream).1, (call stream).2.supplied supply) ∨
    (call stream).1 = .blocked .forEvent ∧
      call ((call stream).2.supplied supply) = call (stream.supplied supply)

theorem overlooks_readFramed
    (nothing : stream.filter.connection.peerFinished = true → supply.chunks = [])
    (unsent : supply.leaves = true → stream.config.ackLimit = 0) :
    stream.Overlooks supply fun stream => stream.readFramed.value := by
  obtain ⟨parcels, outcome, received, awaited⟩ :=
    exists_awaited (judgeEvent stream.codec) .closed .forEvent stream
  have kept : received.codec = stream.codec ∧ received.config = stream.config := by
    obtain ⟨_, _, _, _, _, _, rfl⟩ := awaited.exists_hearing
    exact ⟨rfl, rfl⟩
  dsimp only [Overlooks]
  rw [value_readFramed awaited]
  cases awaited.resumes nothing with
  | alike settled awaitedAhead =>
      left
      rw [@value_readFramed (stream.supplied supply) _ _ _ awaitedAhead]
      have unblocked := unblocked_conclude (Outcome.isSettled_iff.mp settled) received
      exact ⟨Outcome.isSettled_iff.mpr unblocked, conclude_supplied (kept.2 ▸ unsent) outcome⟩
  | blocked further =>
      right
      obtain ⟨others, result, final, awaitedAgain⟩ :=
        exists_awaited (judgeEvent stream.codec) .closed .forEvent (received.supplied supply)
      obtain ⟨seen, awaitedAhead⟩ := further _ _ _ awaitedAgain
      rw [← kept.1] at awaitedAgain
      rw [@value_readFramed (stream.supplied supply) _ _ _ awaitedAhead]
      exact ⟨rfl, @value_readFramed (received.supplied supply) _ _ _ awaitedAgain⟩

theorem value_readCoarse_of_burdened
    (burdened : stream.rawBacklog ≠ []) :
    stream.readCoarse.value =
      (.done (.raw stream.rawBacklog), { stream with rawBacklog := [] }) := by
  rw [readCoarse, if_pos burdened]
  rfl

theorem value_readCoarse_of_received
    {arrival : Arrival}
    {filter : Filter}
    (unburdened : stream.rawBacklog = [])
    (running : stream.ended = false)
    (received : stream.filter.receive.value = (arrival, filter)) :
    stream.readCoarse.value =
      (arrival.outcome,
        { stream with filter := filter, ended := decide (arrival = .closed) }) := by
  rw [value_readCoarse_of_unburdened unburdened running]
  simp only [received]

theorem overlooks_readCoarse
    (nothing : stream.filter.connection.peerFinished = true → supply.chunks = []) :
    stream.Overlooks supply fun stream => stream.readCoarse.value := by
  dsimp only [Overlooks]
  by_cases unburdened : stream.rawBacklog = []
  · cases ended : stream.ended with
    | true =>
        left
        rw [value_readCoarse_of_ended unburdened ended,
          @value_readCoarse_of_ended (stream.supplied supply) unburdened ended]
        exact ⟨rfl, rfl⟩
    | false =>
        rcases received : stream.filter.receive.value with ⟨arrival, filter⟩
        rw [value_readCoarse_of_received unburdened ended received]
        cases arrival with
        | blocked =>
            right
            rcases again : (stream.filter.supplied supply).receive.value with ⟨arrival, next⟩
            have same := (Filter.value_receive_again nothing received).trans again
            rw [@value_readCoarse_of_received (stream.supplied supply) _ _ unburdened ended again]
            exact ⟨rfl,
              @value_readCoarse_of_received
                (supplied { stream with filter := filter, ended := false } supply) _ _ unburdened
                rfl same⟩
        | _ =>
            left
            rw [@value_readCoarse_of_received (stream.supplied supply) _ _ unburdened ended
              (Filter.value_receive_supplied nothing received nofun)]
            exact ⟨rfl, rfl⟩
  · left
    rw [value_readCoarse_of_burdened unburdened,
      @value_readCoarse_of_burdened (stream.supplied supply) unburdened]
    exact ⟨rfl, rfl⟩

/-- Reading octets changes only what is received and what is left of the handshake. -/
theorem exists_readCoarse (stream : Stream) :
    ∃ inbox counters received ended backlog,
      stream.readCoarse.value.2 =
        { stream with
          filter := stream.filter.hearing inbox counters received
          ended := ended
          rawBacklog := backlog } := by
  by_cases unburdened : stream.rawBacklog = []
  · cases ended : stream.ended with
    | true =>
        rw [value_readCoarse_of_ended unburdened ended]
        exact ⟨stream.filter.connection.inbox, stream.filter.connection.counters,
          stream.filter.received, stream.ended, stream.rawBacklog, rfl⟩
    | false =>
        obtain ⟨inbox, counters, received, heard⟩ := stream.filter.exists_hearing_of_receive
        rw [value_readCoarse_of_unburdened unburdened ended, heard]
        exact ⟨inbox, counters, received, _, _, rfl⟩
  · rw [value_readCoarse_of_burdened unburdened]
    exact ⟨stream.filter.connection.inbox, stream.filter.connection.counters,
      stream.filter.received, stream.ended, [], rfl⟩

variable (negotiated : stream.negotiated.isSome = true)
include negotiated

/-- A read changes only what is received, what is sent, what is counted and what was left over. -/
theorem exists_read :
    ∃ inbox counters received gathered outbox sent decoder ended backlog unacknowledged
        acknowledged,
      stream.read.value.2 =
        { stream with
          filter := (stream.filter.hearing inbox counters received).speaking gathered outbox sent
          decoder := decoder
          ended := ended
          rawBacklog := backlog
          unacknowledged := unacknowledged
          acknowledged := acknowledged } := by
  rw [value_read_of_isSome negotiated, readNegotiated]
  split
  · obtain ⟨inbox, counters, received, ended, backlog, left⟩ := stream.exists_readCoarse
    rw [left]
    exact ⟨inbox, counters, received, stream.filter.gathered, stream.filter.connection.outbox,
      counters, stream.decoder, ended, backlog, stream.unacknowledged, stream.acknowledged, rfl⟩
  · obtain ⟨_, _, _, _, _, _, _, _, _, _, left⟩ := stream.exists_readFramed
    rw [left]
    exact ⟨_, _, _, _, _, _, _, _, _, _, _, rfl⟩

/-- A read keeps what was agreed and settled, and the peer's end is still to come if it was. -/
theorem kept_read :
    let next := stream.read.value.2
    next.negotiated = stream.negotiated ∧
      next.coarse = stream.coarse ∧
      next.codec = stream.codec ∧
      next.config = stream.config ∧
      next.filter.connection.peerFinished = stream.filter.connection.peerFinished := by
  obtain ⟨_, _, _, _, _, _, _, _, _, _, _, left⟩ := exists_read negotiated
  rw [left]
  exact ⟨rfl, rfl, rfl, rfl, rfl⟩

/-- A read comes to the same with more supplied, or can be made again once it is supplied. -/
theorem overlooks_read
    (nothing : stream.filter.connection.peerFinished = true → supply.chunks = [])
    (unsent : supply.leaves = true → stream.config.ackLimit = 0) :
    stream.Overlooks supply fun stream => stream.read.value := by
  obtain ⟨sameNegotiated, sameCoarse, -⟩ := kept_read negotiated
  have negotiatedThen : (stream.read.value.2.supplied supply).negotiated.isSome = true :=
    (congrArg Option.isSome sameNegotiated).trans negotiated
  have coarseThen : (stream.read.value.2.supplied supply).coarse = stream.coarse := sameCoarse
  dsimp only [Overlooks]
  rw [value_read_of_isSome negotiatedThen,
    @value_read_of_isSome (stream.supplied supply) negotiated, readNegotiated, readNegotiated,
    coarseThen, value_read_of_isSome negotiated, readNegotiated]
  cases coarse : stream.coarse with
  | true =>
      rw [show (stream.supplied supply).coarse = true from coarse]
      exact overlooks_readCoarse nothing
  | false =>
      rw [show (stream.supplied supply).coarse = false from coarse]
      exact overlooks_readFramed nothing unsent

/-- Only for the next event is a read ever blocked. -/
theorem of_read_eq_blocked
    {wait : Wait}
    (blocked : stream.read.value.1 = .blocked wait) :
    wait = .forEvent := by
  rcases @overlooks_read ⟨[], false, false⟩ stream negotiated (fun _ => rfl) nofun with
    ⟨settled, -⟩ | ⟨waits, -⟩
  · exact absurd blocked (Outcome.isSettled_iff.mp settled wait)
  · cases blocked.symm.trans waits
    rfl

end Reading

end Stream

end EventWire
