import EventWire.Proofs.Stream.Greeting

namespace EventWire

/-!
# What a handshake does to a stream

Over a connection that can be written to, a handshake depends only on whether
the peer's record has arrived.  If not, it is blocked, and going on with it
later is going on from there.  If so, it succeeds: both ends come to the
extensions they both offered, and what arrived behind the record is handed to
the layer that owns it from then on.
-/

open VersionRecord

namespace Filter

section Plain

variable {filter : Filter} (plain : filter.enabled = false)
include plain

theorem accepted_of_plain (octets : Bytes) : filter.accepted octets = filter.posted octets :=
  if_neg (Bool.eq_false_iff.mp plain)

theorem pushed_of_plain : filter.pushed = filter :=
  if_neg fun pending => Bool.eq_false_iff.mp plain pending.1

end Plain

end Filter

namespace Stream

/-- A stream that has sent the record by which it offers extensions. -/
def greeted (extensions : Extensions) (stream : Stream) : Stream :=
  { stream with filter := stream.filter.posted (greeting extensions) }

/-- A stream that has put extensions into force and handed over what arrived under them. -/
def applied (agreed : Extensions) (stream : Stream) : Stream :=
  { stream with
    filter :=
      if agreed.compression then
        { stream.filter with
          enabled := true
          received := stream.decoder.buffer ++ stream.filter.received }
      else stream.filter
    decoder :=
      if agreed.compression || agreed.coarse then stream.decoder.takeRemaining.2
      else stream.decoder
    coarse := agreed.coarse || stream.coarse
    rawBacklog :=
      if agreed.coarse then (if agreed.compression then [] else stream.decoder.buffer)
      else stream.rawBacklog }

/-- A stream whose handshake is over. -/
def settled (agreed : Extensions) (stream : Stream) : Stream :=
  { stream.applied agreed with negotiated := some agreed }

/-- A stream that the responder leaves, or the initiator, once the record has been received. -/
def answered (role : Role) (stream : Stream) : Stream :=
  match role with
  | .initiator => stream
  | .responder => stream.greeted stream.config.advertised

/-- A stream as it opens its handshake. -/
def opened (role : Role) (stream : Stream) : Stream :=
  match role with
  | .initiator => stream.greeted stream.config.advertised
  | .responder => stream

/-- Putting extensions into force leaves the connection alone. -/
@[simp] theorem connection_settled (agreed : Extensions) (stream : Stream) :
    (stream.settled agreed).filter.connection = stream.filter.connection := by
  rcases agreed with ⟨_ | _, _⟩ <;> rfl

theorem value_apply (agreed : Extensions) (stream : Stream) :
    ((apply agreed).on stream).value = (.ok (), stream.applied agreed) := by
  rcases agreed with ⟨_ | _, _ | _⟩ <;> rfl

/-- A stream that can take part in a handshake. -/
structure Undecided (stream : Stream) : Prop where
  writable : stream.filter.connection.Writable
  plain : stream.filter.enabled = false
  standard : stream.codec.control = Registry.control.value
  undecided : stream.negotiated = none
  framed : stream.coarse = false

/-- What decides whether a stream can take part in a handshake. -/
def standing (stream : Stream) : Bool × Bool × Bool × Registry × Option Extensions × Bool :=
  (stream.filter.connection.finished, stream.filter.connection.peerDropped, stream.filter.enabled,
    stream.codec.control, stream.negotiated, stream.coarse)

/-- What a stream sends and receives does not keep it from a handshake. -/
theorem Undecided.of_standing
    {stream next : Stream}
    (undecided : stream.Undecided)
    (same : next.standing = stream.standing) :
    next.Undecided := by
  simp only [standing, Prod.mk.injEq] at same
  obtain ⟨finished, dropped, enabled, control, negotiated, coarse⟩ := same
  exact ⟨⟨finished.trans undecided.writable.unfinished, dropped.trans undecided.writable.attended⟩,
    enabled.trans undecided.plain, control.trans undecided.standard,
    negotiated.trans undecided.undecided, coarse.trans undecided.framed⟩

/-- A stream on which extensions have been agreed and are in force. -/
structure InForce (agreed : Extensions) (stream : Stream) : Prop where
  negotiated : stream.negotiated = some agreed
  compressing : stream.filter.enabled = agreed.compression
  unframed : stream.coarse = agreed.coarse

section Handshake

variable {stream : Stream}

/-- The record of an end is sent at once, as one chunk. -/
theorem Undecided.value_sendRecord
    (undecided : stream.Undecided)
    (extensions : Extensions) :
    ((sendRecord extensions).on stream).value = (.ok (), stream.greeted extensions) := by
  obtain ⟨count, appended⟩ :=
    Codec.value_append_versionRecord undecided.standard (offering extensions) []
  have sent :=
    value_dispatch_of_writable appended (Frame.Parcel.wire_ne_nil _) undecided.writable
  rw [List.nil_append, Filter.accepted_of_plain undecided.plain,
    Filter.pushed_of_plain (show (stream.filter.posted _).enabled = false from undecided.plain)]
    at sent
  exact sent

theorem Undecided.value_beginHandshake
    (undecided : stream.Undecided)
    (role : Role) :
    ((beginHandshake role).on stream).value = (.ok (), stream.opened role) := by
  cases role with
  | initiator =>
      simp only [beginHandshake, Action.value_on_bind, Action.value_on_get, Action.value_on_give,
        undecided.value_sendRecord]
      rfl
  | responder => rfl

theorem Undecided.value_endHandshake
    (undecided : stream.Undecided)
    (role : Role)
    (offered : Extensions) :
    ((endHandshake role offered).on stream).value =
      (.ok (stream.config.advertised.inter offered),
        (stream.answered role).settled (stream.config.advertised.inter offered)) := by
  cases role with
  | initiator =>
      simp only [endHandshake, Action.value_on_bind, Action.value_on_get, Action.value_on_give,
        Action.value_on_pure, Action.value_on_modify, value_apply]
      rfl
  | responder =>
      simp only [endHandshake, Action.value_on_bind, Action.value_on_get, Action.value_on_give,
        Action.value_on_pure, Action.value_on_modify, value_apply, undecided.value_sendRecord]
      rfl

/-- What a handshake comes to depends on what its wait for the peer's record comes to. -/
theorem value_continueHandshake
    {received : Stream}
    {parcels : List Frame.Parcel}
    {offered : Extensions}
    (awaited :
      Awaited (judgeRecord stream.codec) (.protocol .incomplete) .forRecord stream parcels
        (.done offered) received)
    (undecided : received.Undecided)
    (role : Role) :
    (stream.continueHandshake role).value =
      (.done (received.config.advertised.inter offered),
        (received.answered role).settled (received.config.advertised.inter offered)) := by
  rw [continueHandshake, Noted.value_bind, receiveRecord, awaited.value_await]
  dsimp only
  rw [Noted.value_bind, undecided.value_endHandshake]
  rfl

theorem value_continueHandshake_of_blocked
    {received : Stream}
    {parcels : List Frame.Parcel}
    {wait : Wait}
    (awaited :
      Awaited (judgeRecord stream.codec) (.protocol .incomplete) .forRecord stream parcels
        (.blocked wait) received)
    (role : Role) :
    (stream.continueHandshake role).value = (.blocked wait, received) := by
  rw [continueHandshake, Noted.value_bind, receiveRecord, awaited.value_await]
  rfl

theorem Undecided.value_negotiate
    (undecided : stream.Undecided)
    (role : Role) :
    (stream.negotiate role).value = ((stream.opened role).continueHandshake role).value := by
  rw [negotiate, undecided.undecided, Noted.value_bind, undecided.value_beginHandshake]

theorem value_negotiate_of_negotiated
    {agreed : Extensions}
    (negotiated : stream.negotiated = some agreed)
    (role : Role) :
    (stream.negotiate role).value = (.done agreed, stream) := by
  rw [negotiate, negotiated]
  rfl

/-- Extensions that a handshake ends with are agreed on. -/
theorem negotiated_endHandshake
    {role : Role}
    {offered agreed : Extensions}
    {ended : Stream}
    (done : ((endHandshake role offered).on stream).value = (.ok agreed, ended)) :
    ended.negotiated = some agreed := by
  cases role with
  | initiator =>
      simp only [endHandshake, Action.value_on_bind, Action.value_on_get, Action.value_on_give,
        Action.value_on_pure, Action.value_on_modify, value_apply, Prod.mk.injEq,
        Except.ok.injEq] at done
      rw [← done.2, ← done.1]
  | responder =>
      simp only [endHandshake, Action.value_on_bind, Action.value_on_get, Action.value_on_give,
        Action.value_on_pure, Action.value_on_modify, value_apply] at done
      rcases sent : ((sendRecord stream.config.advertised).on stream).value with ⟨_ | _, greeted⟩
      · rw [sent] at done
        exact nomatch done
      · rw [sent] at done
        cases done
        rfl

theorem negotiated_continueHandshake
    {role : Role}
    {agreed : Extensions}
    {ended : Stream}
    (done : (stream.continueHandshake role).value = (.done agreed, ended)) :
    ended.negotiated = some agreed := by
  rw [continueHandshake, Noted.value_bind] at done
  rcases awaited : stream.receiveRecord.value with ⟨offered | _ | _, received⟩ <;>
    rw [awaited] at done
  · dsimp only at done
    rw [Noted.value_bind] at done
    rcases performed : ((endHandshake role offered).on received).value with ⟨_ | _, _⟩
    · rw [performed] at done
      exact nomatch done
    · rw [performed] at done
      cases done
      exact negotiated_endHandshake performed
  · exact nomatch done
  · exact nomatch done

/-- What a call returns is what the ends have agreed on. -/
theorem negotiated_negotiate
    {role : Role}
    {agreed : Extensions}
    {ended : Stream}
    (done : (stream.negotiate role).value = (.done agreed, ended)) :
    ended.negotiated = some agreed := by
  rw [negotiate] at done
  split at done
  · next negotiated =>
      cases done
      exact negotiated
  · rw [Noted.value_bind] at done
    rcases opening : ((beginHandshake role).on stream).value with ⟨_ | _, begun⟩ <;>
      rw [opening] at done
    · exact nomatch done
    · exact negotiated_continueHandshake done

theorem Undecided.inForce_settled
    (undecided : stream.Undecided)
    (agreed : Extensions) :
    (stream.settled agreed).InForce agreed := by
  rcases agreed with ⟨_ | _, coarse⟩
  · exact ⟨rfl, undecided.plain, by rw [settled, applied, undecided.framed, Bool.or_false]⟩
  · exact ⟨rfl, rfl, by rw [settled, applied, undecided.framed, Bool.or_false]⟩

section Expecting

variable {offered : Extensions} {heard : Bytes}

/-- A stream that differs in what it has received and decoded is as undecided. -/
theorem Undecided.hearing
    (undecided : stream.Undecided)
    (inbox : List Bytes)
    (counters : Counters)
    (received : Bytes)
    (decoder : Frame.Decoder) :
    Undecided
      { stream with
        filter := stream.filter.hearing inbox counters received
        decoder := decoder } :=
  undecided.of_standing rfl

/-- A handshake succeeds once the peer's record is there, and keeps what stands behind it. -/
theorem Expects.value_continueHandshake_of_whole
    {behind : Bytes}
    (expects : stream.Expects offered heard)
    (undecided : stream.Undecided)
    (arrived : heard ++ stream.filter.connection.inbox.flatten = greeting offered ++ behind)
    (role : Role) :
    ∃ extra rest counters phase,
      let received :=
        { stream with
          filter := stream.filter.hearing rest counters stream.filter.received
          decoder :=
            { stream.decoder with
              buffer := extra, held := none, phase := phase, verified := 0 } }
      extra ++ rest.flatten = behind ∧
        rest <:+ stream.filter.connection.inbox ∧
        (stream.continueHandshake role).value =
          (.done (stream.config.advertised.inter offered),
            (received.answered role).settled (stream.config.advertised.inter offered)) := by
  obtain ⟨extra, rest, counters, phase, split, left, awaited⟩ := expects.awaited_of_whole arrived
  exact ⟨extra, rest, counters, phase, split, left,
    value_continueHandshake awaited (undecided.hearing _ _ _ _) role⟩

/-- A handshake stays blocked as long as part of the peer's record is missing. -/
theorem Expects.value_continueHandshake_of_part
    (expects : stream.Expects offered heard)
    (attended : stream.filter.connection.peerFinished = false)
    (part : heard ++ stream.filter.connection.inbox.flatten <+: greeting offered)
    (unfinished : (heard ++ stream.filter.connection.inbox.flatten).length < 30)
    (role : Role) :
    ∃ counters phase,
      let waiting :=
        { stream with
          filter := stream.filter.hearing [] counters stream.filter.received
          decoder :=
            { stream.decoder with
              buffer := heard ++ stream.filter.connection.inbox.flatten
              phase := phase
              verified := (heard ++ stream.filter.connection.inbox.flatten).length } }
      waiting.Expects offered (heard ++ stream.filter.connection.inbox.flatten) ∧
        (stream.continueHandshake role).value = (.blocked .forRecord, waiting) := by
  obtain ⟨counters, phase, stillExpects, awaited⟩ :=
    expects.awaited_of_part attended part unfinished
  exact ⟨counters, phase, stillExpects, value_continueHandshake_of_blocked awaited role⟩

end Expecting

end Handshake

end Stream

namespace Equipment

variable {equipment : Equipment}

/-- A new stream that is to negotiate has decided nothing yet. -/
theorem undecided_stream
    (negotiates : equipment.config.negotiate = true)
    (framed : equipment.config.coarse = false)
    {connection : Connection}
    (writable : connection.Writable)
    (registry : Registry) :
    (equipment.stream registry connection).Undecided where
  writable := writable
  plain := rfl
  standard := rfl
  undecided := by
    change
      (if equipment.config.coarse then _ else if equipment.config.negotiate then none else _) = none
    rw [framed, negotiates]
    rfl
  framed := framed

/-- A new stream expects its peer's record, whatever the peer offers. -/
theorem expects_stream
    (accepts : 14 ≤ equipment.config.maxEventSize)
    (connection : Connection)
    (registry : Registry)
    (offered : Extensions) :
    (equipment.stream registry connection).Expects offered [] where
  hears := Frame.Decoder.Hears.fresh offered equipment.config.termination accepts
  running := rfl
  plain := rfl
  standard := rfl

end Equipment

end EventWire
