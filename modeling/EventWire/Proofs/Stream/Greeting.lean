import EventWire.Proofs.Stream.Sending
import EventWire.Proofs.Stream.Waiting

namespace EventWire

/-!
# Waiting for the peer's record

The record by which the peer offers extensions may arrive in any pieces, and
what follows it may arrive in the same piece as its end.  Until it is there as
a whole the decoder returns nothing, and then it returns the record and keeps
exactly what stood behind it.
-/

open VersionRecord

namespace Frame.Decoder

/-- A decoder has been given the front of a record that offers extensions, and nothing else. -/
structure Hears (decoder : Decoder) (extensions : Extensions) (heard : Bytes) : Prop where
  buffer_eq : decoder.buffer = heard
  idle : decoder.held = none
  covered : decoder.verified ≤ heard.length
  accepts : 14 ≤ decoder.maxEventSize
  part : heard <+: greeting extensions
  unfinished : heard.length < 30

namespace Hears

variable {decoder : Decoder} {extensions : Extensions} {heard octets extra : Bytes}

theorem fresh
    (extensions : Extensions)
    (termination : Termination)
    {maxEventSize : Nat}
    (accepts : 14 ≤ maxEventSize) :
    (Decoder.fresh termination maxEventSize).Hears extensions [] where
  buffer_eq := rfl
  idle := rfl
  covered := Nat.le_refl 0
  accepts := accepts
  part := List.nil_prefix
  unfinished := by decide

/-- The front of a record holds no frame. -/
theorem framesIn_eq_nil (hears : decoder.Hears extensions heard) :
    framesIn heard = [] := by
  have shape := List.prefix_iff_eq_take.mp hears.part
  rw [shape, greeting_eq]
  exact framesIn_take_greeting extensions.compression extensions.coarse
    ⟨heard.length, hears.unfinished⟩

/-- Before the record is whole a call returns nothing and changes nothing of note. -/
theorem decode_eq (hears : decoder.Hears extensions heard) :
    ∃ phase,
      (decoder.decode false).value =
        (none, { decoder with buffer := heard, phase := phase, verified := heard.length }) := by
  obtain ⟨later, shape⟩ := hears.part
  have unfinished : Unfinished [greetingFrame extensions] decoder.buffer later := by
    constructor
    · rw [hears.buffer_eq, shape, greeting_eq, List.flatMap_cons, List.flatMap_nil,
        List.append_nil]
    · rintro frame ⟨⟩
      rw [hears.buffer_eq]
      exact hears.unfinished
  have hidden : framesIn decoder.buffer = [] := by
    rw [hears.buffer_eq]
    exact hears.framesIn_eq_nil
  have returned := decode_of_hidden unfinished hidden
  have waiting :
      ∃ phase,
        (decoder.await 0).value =
          { decoder with buffer := heard, phase := phase, verified := heard.length } := by
    rw [← hears.buffer_eq]
    exact ⟨_, rfl⟩
  obtain ⟨phase, waits⟩ := waiting
  exact ⟨phase, by rw [returned, waits]⟩

theorem of_decode
    (hears : decoder.Hears extensions heard)
    (phase : Phase) :
    { decoder with buffer := heard, phase := phase, verified := heard.length }.Hears extensions
      heard :=
  ⟨rfl, hears.idle, Nat.le_refl _, hears.accepts, hears.part, hears.unfinished⟩

theorem push
    (hears : decoder.Hears extensions heard)
    (part : heard ++ octets <+: greeting extensions)
    (unfinished : (heard ++ octets).length < 30) :
    (decoder.push octets).Hears extensions (heard ++ octets) where
  buffer_eq := by rw [← hears.buffer_eq, Decoder.push]
  idle := hears.idle
  covered := by
    rw [List.length_append]
    exact Nat.le_trans hears.covered (Nat.le_add_right _ _)
  accepts := hears.accepts
  part := part
  unfinished := unfinished

/-- Once the record is whole a call returns it and keeps what stands behind it. -/
theorem decode_push_whole
    (hears : decoder.Hears extensions heard)
    (whole : heard ++ octets = greeting extensions ++ extra)
    (atEnd : Bool) :
    ∃ phase,
      ((decoder.push octets).decode atEnd).value =
        (some (offering extensions).parcel,
          { decoder with buffer := extra, held := none, phase := phase, verified := 0 }) := by
  have shape : decoder.buffer ++ octets = (offering extensions).parcel.wire ++ extra := by
    rw [hears.buffer_eq, whole]
    rfl
  have unsearched :
      ∀ frame ∈ (offering extensions).parcel.carriers.head?,
        decoder.verified < frame.length := by
    intro frame member
    have short : (offering extensions).parcel.body.length < maxChunk :=
      (by decide : 14 < maxChunk)
    rw [Parcel.carriers_of_lt short] at member
    cases member
    exact Nat.lt_of_le_of_lt hears.covered hears.unfinished
  exact decode_of_wire shape hears.idle unsearched hears.accepts

end Hears

end Frame.Decoder

namespace Stream

theorem value_judgeRecord
    {codec : Codec}
    (standard : codec.control = Registry.control.value)
    (extensions : Extensions) :
    (judgeRecord codec (offering extensions).parcel).value = .settled (.ok extensions) := by
  rw [judgeRecord, Noted.value_bind, Codec.value_open?_versionRecord standard]
  simp only [VersionRecord.ofRecord?_toRecord, validate_offering, Noted.value_bind,
    offered_offering]
  rfl

/-- A stream that has been given the front of its peer's record and may be given more. -/
structure Expects (stream : Stream) (extensions : Extensions) (heard : Bytes) : Prop where
  hears : stream.decoder.Hears extensions heard
  running : stream.ended = false
  plain : stream.filter.enabled = false
  standard : stream.codec.control = Registry.control.value

/-- What decides what a stream makes of the octets that it receives next. -/
def attention (stream : Stream) : Frame.Decoder × Bool × Bool × Registry :=
  (stream.decoder, stream.ended, stream.filter.enabled, stream.codec.control)

namespace Expects

variable {stream : Stream} {extensions : Extensions} {heard : Bytes}

theorem of_attention
    {next : Stream}
    (expects : stream.Expects extensions heard)
    (same : next.attention = stream.attention) :
    next.Expects extensions heard := by
  simp only [attention, Prod.mk.injEq] at same
  obtain ⟨decoder, ended, enabled, control⟩ := same
  exact ⟨decoder ▸ expects.hears, ended.trans expects.running, enabled.trans expects.plain,
    control.trans expects.standard⟩

/-- The chunk that completes the record ends the wait; what stands behind the record is kept. -/
theorem awaited_of_last
    {octets extra : Bytes}
    {others : List Bytes}
    (expects : stream.Expects extensions heard)
    (inbox : stream.filter.connection.inbox = octets :: others)
    (whole : heard ++ octets = greeting extensions ++ extra) :
    ∃ counters phase,
      Awaited (judgeRecord stream.codec) (.protocol .incomplete) .forRecord stream
        [(offering extensions).parcel] (.done extensions)
        { stream with
          filter := stream.filter.hearing others counters stream.filter.received
          decoder :=
            { stream.decoder with
              buffer := extra, held := none, phase := phase, verified := 0 } } := by
  obtain ⟨phase, returned⟩ := expects.hears.decode_eq
  have received := Filter.value_receive_of_disabled expects.plain
  rw [inbox] at received
  rw [← expects.running] at returned
  obtain ⟨after, returnedRecord⟩ :=
    (expects.hears.of_decode phase).decode_push_whole whole stream.ended
  exact ⟨_, after,
    .arrived returned expects.running received
      (.settled returnedRecord (value_judgeRecord expects.standard extensions))⟩

/-- When the whole record has arrived the wait for it is over, and nothing behind it is lost. -/
theorem awaited_of_whole
    {behind : Bytes}
    (expects : stream.Expects extensions heard)
    (arrived :
      heard ++ stream.filter.connection.inbox.flatten = greeting extensions ++ behind) :
    ∃ extra rest counters phase,
      extra ++ rest.flatten = behind ∧
        rest <:+ stream.filter.connection.inbox ∧
        Awaited (judgeRecord stream.codec) (.protocol .incomplete) .forRecord stream
          [(offering extensions).parcel] (.done extensions)
          { stream with
            filter := stream.filter.hearing rest counters stream.filter.received
            decoder :=
              { stream.decoder with
                buffer := extra, held := none, phase := phase, verified := 0 } } := by
  induction inbox : stream.filter.connection.inbox generalizing stream heard with
  | nil =>
      rw [inbox, List.flatten_nil, List.append_nil] at arrived
      have lengths := congrArg List.length arrived
      rw [List.length_append, length_greeting] at lengths
      have unfinished := expects.hears.unfinished
      omega
  | cons octets others inductionHypothesis =>
      rw [inbox, List.flatten_cons, ← List.append_assoc] at arrived
      rcases greeting_cases arrived with ⟨part, unfinished, -⟩ | ⟨extra, whole, split⟩
      · obtain ⟨phase, returned⟩ := expects.hears.decode_eq
        have received := Filter.value_receive_of_disabled expects.plain
        rw [inbox] at received
        rw [← expects.running] at returned
        have expectsNext :
            Expects
              { stream with
                filter :=
                  stream.filter.hearing others
                    (stream.filter.connection.counters.received (UInt64.ofNat octets.length))
                    stream.filter.received
                decoder :=
                  { stream.decoder with
                    buffer := heard, phase := phase, verified := heard.length }.push octets }
              extensions (heard ++ octets) :=
          ⟨(expects.hears.of_decode phase).push part unfinished, expects.running, expects.plain,
            expects.standard⟩
        obtain ⟨extra, rest, counters, after, split, left, awaited⟩ :=
          inductionHypothesis expectsNext arrived rfl
        exact ⟨extra, rest, counters, after, split, left.trans (List.suffix_cons _ _),
          .arrived returned expects.running received awaited⟩
      · obtain ⟨counters, phase, awaited⟩ := expects.awaited_of_last inbox whole
        exact ⟨extra, others, counters, phase, split, List.suffix_cons _ _, awaited⟩

/-- As long as part of the record is missing the stream goes on waiting for it. -/
theorem awaited_of_part
    (expects : stream.Expects extensions heard)
    (attended : stream.filter.connection.peerFinished = false)
    (part : heard ++ stream.filter.connection.inbox.flatten <+: greeting extensions)
    (unfinished : (heard ++ stream.filter.connection.inbox.flatten).length < 30) :
    ∃ counters phase,
      let waiting :=
        { stream with
          filter := stream.filter.hearing [] counters stream.filter.received
          decoder :=
            { stream.decoder with
              buffer := heard ++ stream.filter.connection.inbox.flatten
              phase := phase
              verified := (heard ++ stream.filter.connection.inbox.flatten).length } }
      waiting.Expects extensions (heard ++ stream.filter.connection.inbox.flatten) ∧
        Awaited (judgeRecord stream.codec) (.protocol .incomplete) .forRecord stream []
          (.blocked .forRecord) waiting := by
  induction inbox : stream.filter.connection.inbox generalizing stream heard with
  | nil =>
      obtain ⟨phase, returned⟩ := expects.hears.decode_eq
      have received := Filter.value_receive_of_disabled expects.plain
      rw [inbox, attended] at received
      rw [← expects.running] at returned
      have same :
          stream.filter =
            stream.filter.hearing [] stream.filter.connection.counters
              stream.filter.received := by
        rw [← inbox]
        rfl
      refine ⟨stream.filter.connection.counters, phase, ?_, ?_⟩
      · rw [← same, List.flatten_nil, List.append_nil]
        exact ⟨expects.hears.of_decode phase, expects.running, expects.plain, expects.standard⟩
      · rw [← same, List.flatten_nil, List.append_nil]
        exact .blocked returned expects.running received
  | cons octets others inductionHypothesis =>
      rw [inbox, List.flatten_cons, ← List.append_assoc] at part unfinished
      obtain ⟨phase, returned⟩ := expects.hears.decode_eq
      have received := Filter.value_receive_of_disabled expects.plain
      rw [inbox] at received
      rw [← expects.running] at returned
      have shorter : (heard ++ octets).length < 30 := by
        rw [List.length_append] at unfinished
        omega
      have expectsNext :
          Expects
            { stream with
              filter :=
                stream.filter.hearing others
                  (stream.filter.connection.counters.received (UInt64.ofNat octets.length))
                  stream.filter.received
              decoder :=
                { stream.decoder with
                    buffer := heard, phase := phase, verified := heard.length }.push octets }
            extensions (heard ++ octets) :=
        ⟨(expects.hears.of_decode phase).push ((List.prefix_append _ _).trans part) shorter,
          expects.running, expects.plain, expects.standard⟩
      obtain ⟨counters, after, stillExpects, awaited⟩ :=
        inductionHypothesis expectsNext attended part unfinished rfl
      rw [List.flatten_cons, ← List.append_assoc]
      exact ⟨counters, after, stillExpects,
        .arrived returned expects.running received awaited⟩

end Expects

end Stream

end EventWire
