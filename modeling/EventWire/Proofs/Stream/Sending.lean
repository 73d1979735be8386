import EventWire.Proofs.Frame.Holding
import EventWire.Proofs.Protocol.Control
import EventWire.Proofs.Transport.Filter
import EventWire.Stream.Traffic

namespace EventWire

/-!
# How sending goes

Whatever a stream sends is an event whose frames its filter accepts, and most
of these events are pushed out at once.  This module says what that comes to on
a connection that can be written to, that it fails on no other, and that
neither its result nor what it leaves depends on what has arrived.
-/

namespace Stream

namespace Action

variable {Value Result : Type} (stream : Stream)

@[simp] theorem value_on_pure (value : Value) :
    ((pure value : Action Value).on stream).value = (.ok value, stream) :=
  rfl

@[simp] theorem value_on_throw (error : StreamError) :
    ((throw error : Action Value).on stream).value = (.error error, stream) :=
  rfl

@[simp] theorem value_on_get :
    ((get : Action Stream).on stream).value = (.ok stream, stream) :=
  rfl

@[simp] theorem value_on_set (next : Stream) :
    ((set next : Action Unit).on stream).value = (.ok (), next) :=
  rfl

@[simp] theorem value_on_modify (change : Stream → Stream) :
    ((modify change : Action Unit).on stream).value = (.ok (), change stream) :=
  rfl

@[simp] theorem value_on_give (notice : Notice) :
    ((give notice).on stream).value = (.ok (), stream) :=
  rfl

@[simp] theorem value_on_liftM (noted : Noted Value) :
    (Action.on (liftM noted) stream).value = (.ok noted.value, stream) :=
  rfl

@[simp] theorem value_on_onFilter (attempt : Filter → Noted (Filter.Attempt Value)) :
    ((onFilter attempt).on stream).value =
      ((attempt stream.filter).value.1.mapError .transport,
        { stream with filter := (attempt stream.filter).value.2 }) :=
  rfl

@[simp] theorem value_on_bind (action : Action Value) (next : Value → Action Result) :
    ((action >>= next).on stream).value =
      match (action.on stream).value with
      | (.ok value, changed) => ((next value).on changed).value
      | (.error error, changed) => (.error error, changed) := by
  rcases performed : (action.on stream).value with ⟨result, changed⟩
  rw [on, ExceptT.run_bind, StateT.run_bind, Noted.value_bind,
    show ((ExceptT.run action).run stream).value = _ from performed]
  cases result <;> rfl

end Action

section Events

variable {stream : Stream} {event : Event} {frames written : Bytes} {count : Nat}

theorem value_sendEvent_of_error
    {error : ProtocolError}
    (rejected : (stream.codec.append event []).value = (.error error, written)) :
    ((sendEvent event).on stream).value = (.error (.protocol error), stream) := by
  simp only [sendEvent, Action.value_on_bind, Action.value_on_get, Action.value_on_liftM, rejected,
    Action.value_on_throw]

theorem value_sendEvent_of_ok
    (appended : (stream.codec.append event []).value = (.ok count, frames)) :
    ((sendEvent event).on stream).value =
      ((stream.filter.send frames).value.1.mapError .transport,
        { stream with filter := (stream.filter.send frames).value.2 }) := by
  simp only [sendEvent, Action.value_on_bind, Action.value_on_get, Action.value_on_liftM, appended,
    Action.value_on_onFilter]

/-- Send an event and push it out at once. -/
def dispatch (event : Event) : Action Unit := do
  sendEvent event
  pushOut

theorem value_acknowledge_of_nothing
    (nothing : stream.coarse = true ∨ stream.unacknowledged = 0) :
    (acknowledge.on stream).value = (.ok (), stream) := by
  simp only [acknowledge, Action.value_on_bind, Action.value_on_get, if_pos nothing,
    Action.value_on_pure]

theorem value_acknowledge_of_some
    (some : ¬ (stream.coarse = true ∨ stream.unacknowledged = 0)) :
    (acknowledge.on stream).value =
      ((dispatch (.record (Acknowledgement.mk stream.unacknowledged).toRecord)).on
        { stream with unacknowledged := 0 }).value := by
  simp only [acknowledge, dispatch, Action.value_on_bind, Action.value_on_get, if_neg some,
    Action.value_on_set]
  split
  · next changed _ => rcases (pushOut.on changed).value with ⟨_ | _, _⟩ <;> rfl
  · rfl

theorem value_countRead_of_due
    (due :
      0 < stream.config.ackLimit ∧ stream.config.ackLimit ≤ stream.unacknowledged + 1) :
    (countRead.on stream).value =
      (acknowledge.on { stream with unacknowledged := stream.unacknowledged + 1 }).value := by
  simp only [countRead, Action.value_on_bind, Action.value_on_get, Action.value_on_set, if_pos due]

theorem value_countRead_of_early
    (early :
      ¬ (0 < stream.config.ackLimit ∧ stream.config.ackLimit ≤ stream.unacknowledged + 1)) :
    (countRead.on stream).value =
      (.ok (), { stream with unacknowledged := stream.unacknowledged + 1 }) := by
  simp only [countRead, Action.value_on_bind, Action.value_on_get, Action.value_on_set,
    if_neg early, Action.value_on_pure]

end Events

section Speaking

/-- An operation that changes nothing but what is sent and what is to be acknowledged. -/
def Action.Speaks (action : Action Unit) : Prop :=
  ∀ stream : Stream,
    ∃ gathered outbox counters unacknowledged,
      (action.on stream).value.2 =
        { stream with
          filter := stream.filter.speaking gathered outbox counters
          unacknowledged := unacknowledged }

variable (event : Event)

theorem Action.Speaks.bind
    {action : Action Unit}
    {next : Unit → Action Unit}
    (first : action.Speaks)
    (second : (next ()).Speaks) :
    (action >>= next).Speaks := by
  intro stream
  rw [value_on_bind]
  obtain ⟨gathered, outbox, counters, unacknowledged, changed⟩ := first stream
  split
  · next performed =>
      rw [performed] at changed
      cases changed
      obtain ⟨_, _, _, _, further⟩ := second _
      exact ⟨_, _, _, _, further⟩
  · next performed =>
      rw [performed] at changed
      exact ⟨_, _, _, _, changed⟩

theorem speaks_sendEvent : (sendEvent event).Speaks := by
  intro stream
  rcases appended : (stream.codec.append event []).value with ⟨_ | _, frames⟩
  · rw [value_sendEvent_of_error appended]
    exact ⟨stream.filter.gathered, stream.filter.connection.outbox,
      stream.filter.connection.counters, stream.unacknowledged, rfl⟩
  · obtain ⟨gathered, outbox, counters, sent⟩ := stream.filter.exists_speaking_of_send frames
    exact ⟨gathered, outbox, counters, stream.unacknowledged,
      by rw [value_sendEvent_of_ok appended, sent]⟩

theorem speaks_pushOut : pushOut.Speaks := by
  intro stream
  obtain ⟨gathered, outbox, counters, pushed⟩ := stream.filter.exists_speaking_of_flush
  exact ⟨gathered, outbox, counters, stream.unacknowledged,
    by rw [pushOut, Action.value_on_onFilter, pushed]⟩

theorem speaks_dispatch : (dispatch event).Speaks :=
  (speaks_sendEvent event).bind speaks_pushOut

theorem speaks_acknowledge : acknowledge.Speaks := by
  intro stream
  by_cases nothing : stream.coarse = true ∨ stream.unacknowledged = 0
  · rw [value_acknowledge_of_nothing nothing]
    exact ⟨stream.filter.gathered, stream.filter.connection.outbox,
      stream.filter.connection.counters, stream.unacknowledged, rfl⟩
  · rw [value_acknowledge_of_some nothing]
    exact speaks_dispatch _ { stream with unacknowledged := 0 }

theorem speaks_countRead : countRead.Speaks := by
  intro stream
  by_cases due :
      0 < stream.config.ackLimit ∧ stream.config.ackLimit ≤ stream.unacknowledged + 1
  · rw [value_countRead_of_due due]
    exact speaks_acknowledge { stream with unacknowledged := stream.unacknowledged + 1 }
  · rw [value_countRead_of_early due]
    exact ⟨stream.filter.gathered, stream.filter.connection.outbox,
      stream.filter.connection.counters, _, rfl⟩

end Speaking

/-- An error of a connection that is closed or has lost its peer. -/
def Unwritable (error : StreamError) : Prop :=
  error = .transport .shutDown ∨ error = .transport .peerDropped

section Frames

variable {stream : Stream} {event : Event} {frames : Bytes} {count : Nat} {error : StreamError}

theorem of_onFilter_eq_error
    {result : Except TransportError Unit}
    (cause :
      ∀ error, result = .error error →
        ¬ stream.filter.connection.Writable ∧ (error = .shutDown ∨ error = .peerDropped))
    (failed : result.mapError .transport = .error error) :
    ¬ stream.filter.connection.Writable ∧ Unwritable error := by
  cases result with
  | ok _ => exact nomatch failed
  | error error =>
      cases failed
      obtain ⟨unwritable, reason⟩ := cause error rfl
      exact ⟨unwritable, reason.imp (congrArg _) (congrArg _)⟩

variable (appended : (stream.codec.append event []).value = (.ok count, frames))
include appended

/-- An event whose frames exist fails to be sent only on a connection that cannot be written to. -/
theorem of_dispatch_eq_error
    (failed : ((dispatch event).on stream).value.1 = .error error) :
    ¬ stream.filter.connection.Writable ∧ Unwritable error := by
  obtain ⟨gathered, outbox, counters, sent⟩ := stream.filter.exists_speaking_of_send frames
  rw [dispatch, Action.value_on_bind, value_sendEvent_of_ok appended, sent] at failed
  split at failed
  · next changed performed =>
      obtain rfl := congrArg Prod.snd performed
      rw [← @Filter.writable_speaking stream.filter gathered outbox counters]
      exact of_onFilter_eq_error (fun _ => Filter.of_flush_eq_error) failed
  · next performed =>
      cases failed
      exact of_onFilter_eq_error (fun _ => Filter.of_send_eq_error) (congrArg Prod.fst performed)

theorem value_dispatch_of_writable
    (some : frames ≠ [])
    (writable : stream.filter.connection.Writable) :
    ((dispatch event).on stream).value =
      (.ok (), { stream with filter := (stream.filter.accepted frames).pushed }) := by
  rw [dispatch, Action.value_on_bind, value_sendEvent_of_ok appended,
    Filter.value_send_of_writable writable some]
  dsimp only [Except.mapError, pushOut]
  rw [Action.value_on_onFilter,
    Filter.value_flush_of_writable (Filter.writable_accepted writable frames)]
  rfl

end Frames

section Acknowledging

variable {stream : Stream} {error : StreamError}

variable (standard : stream.codec.control = Registry.control.value)
include standard

/-- Acknowledging fails only on a connection that cannot be written to. -/
theorem of_acknowledge_eq_error
    (failed : (acknowledge.on stream).value.1 = .error error) :
    ¬ stream.filter.connection.Writable ∧ Unwritable error := by
  by_cases nothing : stream.coarse = true ∨ stream.unacknowledged = 0
  · rw [value_acknowledge_of_nothing nothing] at failed
    exact nomatch failed
  · obtain ⟨count, appended⟩ :=
      Codec.value_append_acknowledgement standard ⟨stream.unacknowledged⟩ []
    rw [value_acknowledge_of_some nothing] at failed
    exact @of_dispatch_eq_error { stream with unacknowledged := 0 } _ _ _ _ appended failed

theorem of_countRead_eq_error
    (failed : (countRead.on stream).value.1 = .error error) :
    ¬ stream.filter.connection.Writable ∧ Unwritable error := by
  by_cases due :
      0 < stream.config.ackLimit ∧ stream.config.ackLimit ≤ stream.unacknowledged + 1
  · rw [value_countRead_of_due due] at failed
    exact
      @of_acknowledge_eq_error { stream with unacknowledged := stream.unacknowledged + 1 } _
        standard failed
  · rw [value_countRead_of_early due] at failed
    exact nomatch failed

theorem value_acknowledge_of_writable
    (some : ¬ (stream.coarse = true ∨ stream.unacknowledged = 0))
    (writable : stream.filter.connection.Writable) :
    (acknowledge.on stream).value =
      (.ok (),
        { stream with
          filter :=
            (stream.filter.accepted (Acknowledgement.mk stream.unacknowledged).parcel.wire).pushed
          unacknowledged := 0 }) := by
  obtain ⟨count, appended⟩ :=
    Codec.value_append_acknowledgement standard ⟨stream.unacknowledged⟩ []
  rw [value_acknowledge_of_some some]
  exact
    @value_dispatch_of_writable { stream with unacknowledged := 0 } _ _ _ appended
      (Frame.Parcel.wire_ne_nil _) writable

end Acknowledging

section Independent

/-- An operation that neither looks at what its peer has sent nor changes it. -/
def Action.Deaf (action : Action Unit) : Prop :=
  ∀ (stream : Stream) (inbox : List Bytes) (peerFinished : Bool) (counters : Counters)
      (received : Bytes),
    ∃ after,
      (action.on
          { stream with
            filter := stream.filter.receiving inbox peerFinished counters received }).value =
        ((action.on stream).value.1,
          { (action.on stream).value.2 with
            filter :=
              (action.on stream).value.2.filter.receiving inbox peerFinished after received })

variable (event : Event)

theorem Action.Deaf.bind
    {action : Action Unit}
    {next : Unit → Action Unit}
    (first : action.Deaf)
    (second : (next ()).Deaf) :
    (action >>= next).Deaf := by
  intro stream inbox peerFinished counters received
  obtain ⟨after, performed⟩ := first stream inbox peerFinished counters received
  rw [value_on_bind, value_on_bind, performed]
  rcases (action.on stream).value with ⟨_ | _, changed⟩
  · exact ⟨after, rfl⟩
  · exact second changed inbox peerFinished after received

theorem deaf_sendEvent : (sendEvent event).Deaf := by
  intro stream inbox peerFinished counters received
  rcases appended : (stream.codec.append event []).value with ⟨_ | _, frames⟩
  · rw [value_sendEvent_of_error appended, @value_sendEvent_of_error
      { stream with filter := stream.filter.receiving inbox peerFinished counters received }
      _ _ _ appended]
    exact ⟨counters, rfl⟩
  · obtain ⟨after, sent⟩ :=
      Filter.value_send_receiving stream.filter frames inbox peerFinished counters received
    rw [value_sendEvent_of_ok appended, @value_sendEvent_of_ok
      { stream with filter := stream.filter.receiving inbox peerFinished counters received }
      _ _ _ appended, sent]
    exact ⟨after, rfl⟩

theorem deaf_pushOut : pushOut.Deaf := by
  intro stream inbox peerFinished counters received
  obtain ⟨after, pushed⟩ :=
    Filter.value_flush_receiving stream.filter inbox peerFinished counters received
  rw [pushOut, Action.value_on_onFilter, Action.value_on_onFilter, pushed]
  exact ⟨after, rfl⟩

theorem deaf_dispatch : (dispatch event).Deaf :=
  (deaf_sendEvent event).bind deaf_pushOut

theorem deaf_acknowledge : acknowledge.Deaf := by
  intro stream inbox peerFinished counters received
  by_cases nothing : stream.coarse = true ∨ stream.unacknowledged = 0
  · rw [value_acknowledge_of_nothing nothing, @value_acknowledge_of_nothing
      { stream with filter := stream.filter.receiving inbox peerFinished counters received }
      nothing]
    exact ⟨counters, rfl⟩
  · rw [value_acknowledge_of_some nothing, @value_acknowledge_of_some
      { stream with filter := stream.filter.receiving inbox peerFinished counters received }
      nothing]
    exact deaf_dispatch _ { stream with unacknowledged := 0 } inbox peerFinished counters received

theorem deaf_countRead : countRead.Deaf := by
  intro stream inbox peerFinished counters received
  by_cases due :
      0 < stream.config.ackLimit ∧ stream.config.ackLimit ≤ stream.unacknowledged + 1
  · rw [value_countRead_of_due due, @value_countRead_of_due
      { stream with filter := stream.filter.receiving inbox peerFinished counters received } due]
    exact
      deaf_acknowledge { stream with unacknowledged := stream.unacknowledged + 1 } inbox
        peerFinished counters received
  · rw [value_countRead_of_early due, @value_countRead_of_early
      { stream with filter := stream.filter.receiving inbox peerFinished counters received } due]
    exact ⟨counters, rfl⟩

end Independent

end Stream

end EventWire
