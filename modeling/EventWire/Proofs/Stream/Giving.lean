import EventWire.Proofs.Stream.Delivery
import EventWire.Proofs.Stream.Handshake
import EventWire.Proofs.Stream.Transit

namespace EventWire

/-!
# What each operation gives

On a stream that carries framed events every operation that sends hands whole
parcels to the filter: the one of the event that is written, or one that
acknowledges what has been read.  Once the stream has closed it sends nothing
more, whatever is tried.
-/

open EventWire.Frame

/-- A connection that has been closed sends nothing. -/
theorem Filter.sendThrough_of_finished
    {filter : Filter}
    (finished : filter.connection.finished = true)
    (octets : Bytes) :
    (filter.sendThrough octets).2 = filter := by
  rw [sendThrough, Connection.send]
  by_cases empty : octets = []
  · rw [if_pos empty]
  · rw [if_neg empty, if_pos finished]

namespace Stream

/-- A stream that has negotiated and carries framed events. -/
structure Talks (agreed : Extensions) (stream : Stream) : Prop where
  inForce : stream.InForce agreed
  framed : agreed.coarse = false
  standard : stream.codec.control = Registry.control.value
  terminated : stream.codec.termination = .emptyFrame
  attended : stream.filter.connection.peerDropped = false

/-- A parcel of an event of the protocol itself that is no longer than an acknowledgement. -/
def IsReport (parcel : Parcel) : Prop :=
  parcel.identity.eventType.isControl = true ∧ parcel.body.length = 4

theorem Talks.isFramed {agreed : Extensions} {stream : Stream} (talks : stream.Talks agreed) :
    stream.Framed where
  negotiated := by
    rw [talks.inForce.negotiated]
    rfl
  framed := talks.inForce.unframed.trans talks.framed
  standard := talks.standard

theorem Talks.listens
    {agreed : Extensions}
    {stream next : Stream}
    (talks : stream.Talks agreed)
    (listens : stream.Listens next) :
    next.Talks agreed := by
  obtain ⟨_, _, _, _, _, _, _, rfl⟩ := listens
  obtain ⟨⟨negotiated, compressing, unframed⟩, framed, standard, terminated, attended⟩ := talks
  exact ⟨⟨negotiated, compressing, unframed⟩, framed, standard, terminated, attended⟩

theorem Talks.speaks
    {agreed : Extensions}
    {stream next : Stream}
    (talks : stream.Talks agreed)
    (speaks : stream.Speaks next) :
    next.Talks agreed := by
  obtain ⟨_, _, _, _, _, _, rfl⟩ := speaks
  obtain ⟨⟨negotiated, compressing, unframed⟩, framed, standard, terminated, attended⟩ := talks
  exact ⟨⟨negotiated, compressing, unframed⟩, framed, standard, terminated, attended⟩

section Giving

variable {agreed : Extensions} {stream : Stream} {unsent : List Parcel}

theorem value_on_ensureNegotiated (stream : Stream) :
    (ensureNegotiated.on stream).value =
      ((stream.negotiate .responder).value.1.expire.map fun _ => (),
        (stream.negotiate .responder).value.2) :=
  rfl

/-- A stream whose handshake is over writes without negotiating. -/
theorem value_write_of_isSome
    (negotiated : stream.negotiated.isSome = true)
    (event : Event) :
    ((write event).on stream).value =
      (((if stream.coarse then
            match event with
            | .raw octets => Action.onFilter fun filter => filter.send octets
            | .record record => throw (.coarseWrite record.eventType)
          else sendEvent event) >>=
          fun _ => takeAcknowledged : Action UInt32).on stream).value := by
  obtain ⟨_, settled⟩ := Option.isSome_iff_exists.mp negotiated
  rw [write, Action.value_on_bind, value_on_ensureNegotiated,
    value_negotiate_of_negotiated settled]
  dsimp only [Outcome.expire, Except.map]
  rw [Action.value_on_bind, Action.value_on_get]
  dsimp only
  by_cases coarse : stream.coarse = true
  · rw [if_pos coarse, if_pos coarse]
    cases event <;> rfl
  · rw [if_neg coarse, if_neg coarse]

/-- Writing an event on a stream that carries events sends it and takes the count. -/
theorem Framed.value_write
    (isFramed : stream.Framed)
    (event : Event) :
    ((write event).on stream).value =
      match ((sendEvent event).on stream).value with
      | (.ok _, next) => (.ok next.acknowledged, { next with acknowledged := 0 })
      | (.error error, next) => (.error error, next) := by
  rw [value_write_of_isSome isFramed.negotiated, if_neg (Bool.eq_false_iff.mp isFramed.framed),
    Action.value_on_bind]
  rcases ((sendEvent event).on stream).value with ⟨_ | _, _⟩ <;> rfl

variable (gathers : stream.filter.Gathers unsent) (writable : stream.filter.connection.Writable)
include gathers writable

/-- Writing an event that has a parcel gives this parcel. -/
theorem Talks.exists_gives_write
    {event : Event}
    {parcel : Parcel}
    (talks : stream.Talks agreed)
    (encodes : stream.codec.Encodes event parcel) :
    ∃ count groups rest next,
      ((write event).on stream).value = (.ok count, next) ∧
        stream.Gives unsent [parcel] groups rest next := by
  obtain ⟨_, appended⟩ := encodes.exists_append talks.terminated
  rw [talks.isFramed.value_write, value_sendEvent_of_ok appended,
    Filter.value_send_of_writable writable parcel.wire_ne_nil]
  obtain ⟨groups, rest, gives⟩ := exists_gives_accepted gathers stream.unacknowledged 0 parcel
  exact ⟨stream.acknowledged, groups, rest, _, rfl, gives⟩

theorem Talks.write_cases
    (talks : stream.Talks agreed)
    (event : Event) :
    (∃ error, ((write event).on stream).value = (.error error, stream)) ∨
      ∃ parcel count groups rest next,
        stream.codec.Encodes event parcel ∧
          ((write event).on stream).value = (.ok count, next) ∧
          stream.Gives unsent [parcel] groups rest next := by
  rcases Codec.value_append_cases talks.terminated event with
    ⟨error, rejected⟩ | ⟨parcel, _, encodes, -⟩
  · rw [talks.isFramed.value_write, value_sendEvent_of_error rejected]
    exact .inl ⟨_, rfl⟩
  · obtain ⟨count, groups, rest, next, performed, gives⟩ :=
      talks.exists_gives_write gathers writable encodes
    exact .inr ⟨parcel, count, groups, rest, next, encodes, performed, gives⟩

omit gathers in
theorem value_flush_of_writable :
    (flush.on stream).value =
      (.ok stream.acknowledged,
        { stream with filter := stream.filter.pushed, acknowledged := 0 }) := by
  rw [flush, Action.value_on_bind, pushOut, Action.value_on_onFilter,
    Filter.value_flush_of_writable writable]
  rfl

theorem exists_gives_flush :
    ∃ count groups next,
      (flush.on stream).value = (.ok count, next) ∧ stream.Gives unsent [] groups [] next := by
  obtain ⟨groups, gives⟩ := exists_gives_pushed gathers stream.unacknowledged 0
  exact ⟨stream.acknowledged, groups, _, value_flush_of_writable writable, gives⟩

omit gathers in
theorem value_close_of_writable :
    (close.on stream).value =
      (.ok (),
        { stream with
          filter :=
            { stream.filter.pushed with
              connection := { stream.filter.pushed.connection with finished := true } } }) := by
  rw [close, Action.value_on_onFilter, Filter.close, Noted.value_bind,
    Filter.value_flush_of_writable writable]
  rfl

variable (standard : stream.codec.control = Registry.control.value)
include standard

/-- Acknowledging gives one report, or nothing when there is nothing to acknowledge. -/
theorem exists_gives_acknowledge :
    ∃ reports groups rest,
      (∀ parcel ∈ reports, IsReport parcel) ∧
        stream.Gives unsent reports groups rest (acknowledge.on stream).value.2 ∧
        (unsent = [] → rest = []) := by
  by_cases nothing : stream.coarse = true ∨ stream.unacknowledged = 0
  · rw [value_acknowledge_of_nothing nothing]
    exact ⟨[], [], unsent, nofun,
      gives_nothing gathers stream.unacknowledged stream.acknowledged, fun nothing => nothing⟩
  · rw [value_acknowledge_of_writable standard nothing writable]
    obtain ⟨groups, rest, gives⟩ :=
      exists_gives_accepted gathers 0 stream.acknowledged
        (Acknowledgement.mk stream.unacknowledged).parcel
    obtain ⟨later, pushes⟩ :=
      exists_gives_pushed gives.emits.gathers 0 stream.acknowledged
    refine ⟨_, _, _, ?_, gives.trans pushes, fun _ => rfl⟩
    rw [List.append_nil, List.forall_mem_singleton]
    exact ⟨rfl, rfl⟩

/-- Counting what has been read gives at most one report. -/
theorem exists_gives_countRead :
    ∃ reports groups rest next,
      (∀ parcel ∈ reports, IsReport parcel) ∧
        (countRead.on stream).value = (.ok (), next) ∧
        stream.Gives unsent reports groups rest next ∧
        (unsent = [] → rest = []) := by
  by_cases due :
      0 < stream.config.ackLimit ∧ stream.config.ackLimit ≤ stream.unacknowledged + 1
  · rw [value_countRead_of_due due]
    obtain ⟨reports, groups, rest, areReports, gives, nothingLeft⟩ :=
      @exists_gives_acknowledge { stream with unacknowledged := stream.unacknowledged + 1 } unsent
        gathers writable standard
    cases acknowledged :
        (acknowledge.on { stream with unacknowledged := stream.unacknowledged + 1 }).value with
    | mk result next =>
        rw [acknowledged] at gives
        have succeeded : result = .ok () := by
          cases result with
          | ok _ => rfl
          | error error =>
              have failed := congrArg Prod.fst acknowledged
              exact absurd writable
                (@of_acknowledge_eq_error
                  { stream with unacknowledged := stream.unacknowledged + 1 } _ standard failed).1
        subst succeeded
        obtain ⟨unacknowledged, count, same⟩ := gives.same
        exact ⟨reports, groups, rest, next, areReports, rfl,
          ⟨gives.emits, unacknowledged, count, same⟩, nothingLeft⟩
  · rw [value_countRead_of_early due]
    exact ⟨[], [], unsent, _, nofun, rfl, gives_nothing gathers _ stream.acknowledged,
      fun nothing => nothing⟩

end Giving

section Finished

variable {stream : Stream} (finished : stream.filter.connection.finished = true)
include finished

theorem mutes_sendEvent (event : Event) :
    stream.Mutes ((sendEvent event).on stream).value.2 := by
  rcases appended : (stream.codec.append event []).value with ⟨_ | _, frames⟩
  · rw [value_sendEvent_of_error appended]
    exact mutes_refl stream
  · rw [value_sendEvent_of_ok appended]
    by_cases enabled : stream.filter.enabled = true
    · by_cases full :
          stream.filter.bufferSize ≤ (stream.filter.gathered ++ frames).length ∧
            stream.filter.gathered ++ frames ≠ []
      · rw [Filter.value_send_of_full enabled full,
          @Filter.sendThrough_of_finished { stream.filter with gathered := [] } finished]
        exact ⟨_, stream.unacknowledged, stream.acknowledged, rfl⟩
      · rw [Filter.value_send_of_roomy enabled full]
        exact ⟨_, stream.unacknowledged, stream.acknowledged, rfl⟩
    · rw [Filter.value_send_of_disabled enabled, Filter.sendThrough_of_finished finished]
      exact mutes_refl stream

theorem mutes_pushOut : stream.Mutes (pushOut.on stream).value.2 := by
  rw [pushOut, Action.value_on_onFilter]
  by_cases pending : stream.filter.enabled = true ∧ stream.filter.gathered ≠ []
  · rw [Filter.value_flush_of_pending pending,
      @Filter.sendThrough_of_finished { stream.filter with gathered := [] } finished]
    exact ⟨_, stream.unacknowledged, stream.acknowledged, rfl⟩
  · rw [Filter.value_flush_of_idle pending]
    exact mutes_refl stream

theorem mutes_dispatch (event : Event) :
    stream.Mutes ((dispatch event).on stream).value.2 := by
  have sent := mutes_sendEvent finished event
  rw [dispatch, Action.value_on_bind]
  split
  · next performed =>
      rw [performed] at sent
      obtain ⟨_, _, _, rfl⟩ := sent
      exact Mutes.trans ⟨_, _, _, rfl⟩ (mutes_pushOut finished)
  · next performed =>
      rw [performed] at sent
      exact sent

theorem mutes_acknowledge : stream.Mutes (acknowledge.on stream).value.2 := by
  by_cases nothing : stream.coarse = true ∨ stream.unacknowledged = 0
  · rw [value_acknowledge_of_nothing nothing]
    exact mutes_refl stream
  · rw [value_acknowledge_of_some nothing]
    exact
      Mutes.trans ⟨stream.filter.gathered, 0, stream.acknowledged, rfl⟩
        (@mutes_dispatch { stream with unacknowledged := 0 } finished _)

theorem mutes_flush : stream.Mutes (flush.on stream).value.2 := by
  have pushed := mutes_pushOut finished
  rw [flush, Action.value_on_bind]
  split
  · next performed =>
      rw [performed] at pushed
      exact pushed.trans ⟨_, _, _, rfl⟩
  · next performed =>
      rw [performed] at pushed
      exact pushed

theorem mutes_close : stream.Mutes (close.on stream).value.2 := by
  have pushed := mutes_pushOut finished
  rw [pushOut, Action.value_on_onFilter] at pushed
  rw [close, Action.value_on_onFilter, Filter.close, Noted.value_bind]
  rcases flushed : stream.filter.flush.value with ⟨_ | _, filter⟩
  · rw [flushed] at pushed
    exact pushed
  · rw [flushed] at pushed
    have still : filter.connection.finished = true := by
      obtain ⟨gathered, _, _, same⟩ := pushed
      rw [show filter = { stream.filter with gathered := gathered } from
        congrArg Stream.filter same]
      exact finished
    have unmoved : filter.connection.close.value = filter.connection := by
      change { filter.connection with finished := true } = filter.connection
      rw [← still]
    dsimp only
    rw [Noted.value_bind, unmoved]
    exact pushed

end Finished

end Stream

end EventWire
