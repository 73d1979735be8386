import EventWire.Proofs.Event.Values
import EventWire.Proofs.Frame.Layout
import EventWire.Protocol.Codec

namespace EventWire

/-!
# What appending an event comes to

An event is appended as a whole or not at all.  Its type has to be known to the
registry that owns the type's category, and each field of the type has to have
a text without a NUL, or some other value, in the event.  The first field that
has none decides the error.
-/

section Refusals

variable {event : Event} {field : Field} {cause : EventError}

theorem Field.Refuses.unique
    {other : EventError}
    (refuses : field.Refuses event cause)
    (refusesToo : field.Refuses event other) :
    cause = other := by
  cases refuses with
  | foreign missing =>
      cases refusesToo with
      | foreign _ => rfl
      | unclean found _ => exact nomatch missing.symm.trans found
  | unclean found _ =>
      cases refusesToo with
      | foreign missing => exact nomatch missing.symm.trans found
      | unclean _ _ => rfl

theorem Field.not_refuses
    {value : FieldValue}
    (found : field.getFrom event = some value)
    (clean : value.holdsNul = false) :
    ¬ field.Refuses event cause := by
  rintro (⟨missing⟩ | ⟨foundText, nul⟩)
  · exact nomatch missing.symm.trans found
  · cases foundText.symm.trans found
    exact Bool.eq_false_iff.mp clean (List.contains_iff_mem.mpr nul)

end Refusals

namespace Registry

variable {event : Event} {table : List Field}

/-- Fields make no body exactly because of the first of them that keeps the event from it. -/
theorem encodeFields_eq_error_iff {cause : EventError} :
    encodeFields event table = .error cause ↔
      ∃ earlier field later,
        table = earlier ++ field :: later ∧
          (∀ other ∈ earlier, ∀ reason, ¬ other.Refuses event reason) ∧
          field.Refuses event cause := by
  induction table with
  | nil =>
      constructor
      · exact nofun
      · rintro ⟨earlier, field, later, shape, -⟩
        exact absurd shape.symm (List.append_ne_nil_of_right_ne_nil _ (List.cons_ne_nil _ _))
  | cons first others inductionHypothesis =>
      rcases encodeFields_cons_cases event first others with
        ⟨reason, refuses, failed⟩ | ⟨value, found, clean, encoded⟩
      · rw [failed]
        constructor
        · rintro ⟨⟩
          exact ⟨[], first, others, rfl, List.forall_mem_nil _, refuses⟩
        · rintro ⟨earlier, field, later, shape, willing, refusesToo⟩
          cases earlier with
          | nil =>
              cases shape
              exact congrArg Except.error (refuses.unique refusesToo)
          | cons head tail =>
              cases shape
              exact absurd refuses (willing first (List.mem_cons_self ..) reason)
      · have willing : ∀ reason, ¬ first.Refuses event reason := fun _ =>
          Field.not_refuses found clean
        have failedBehind :
            encodeFields event (first :: others) = .error cause ↔
              encodeFields event others = .error cause := by
          rw [encoded]
          cases encodeFields event others <;> simp [Except.map]
        rw [failedBehind, inductionHypothesis]
        constructor
        · rintro ⟨earlier, field, later, rfl, willingToo, refuses⟩
          exact ⟨first :: earlier, field, later, rfl,
            List.forall_mem_cons.mpr ⟨willing, willingToo⟩, refuses⟩
        · rintro ⟨earlier, field, later, shape, willingToo, refuses⟩
          cases earlier with
          | nil =>
              cases shape
              exact absurd refuses (willing cause)
          | cons head tail =>
              cases shape
              exact ⟨tail, field, later, rfl, (List.forall_mem_cons.mp willingToo).2, refuses⟩

/-- Fields make a body of an event that none of them refuses. -/
theorem exists_encodeFields_eq_error_iff :
    (∃ cause, encodeFields event table = .error cause) ↔
      ∃ field ∈ table, ∃ cause, field.Refuses event cause := by
  constructor
  · rintro ⟨cause, failed⟩
    obtain ⟨earlier, field, later, rfl, -, refuses⟩ := encodeFields_eq_error_iff.mp failed
    exact ⟨field, List.mem_append_right _ (List.mem_cons_self ..), cause, refuses⟩
  · rintro ⟨field, member, cause, refuses⟩
    induction table with
    | nil => exact absurd member List.not_mem_nil
    | cons first others inductionHypothesis =>
        rcases encodeFields_cons_cases event first others with
          ⟨reason, -, failed⟩ | ⟨value, found, clean, encoded⟩
        · exact ⟨reason, failed⟩
        · rcases List.mem_cons.mp member with rfl | behind
          · exact absurd refuses (Field.not_refuses found clean)
          · obtain ⟨reason, failed⟩ := inductionHypothesis behind
            exact ⟨reason, by rw [encoded, failed]; rfl⟩

end Registry

namespace Codec

section Attempts

variable {codec : Codec} {event : Event} {entry : Entry}

theorem value_append_of_unknown
    (unknown : (codec.registryFor event.eventType).lookup event.eventType = none)
    (written : Bytes) :
    (codec.append event written).value = (.error (.unknownType event.eventType), written) := by
  rw [append, Noted.value_bind, Registry.serialize, unknown]
  rfl

/-- An event of a known type is appended as far as its fields make a body. -/
theorem value_append_of_known
    (known : (codec.registryFor event.eventType).lookup event.eventType = some entry)
    (written : Bytes) :
    (codec.append event written).value =
      match Registry.encodeFields event entry.table with
      | .error cause => (.error (.event cause), written)
      | .ok body =>
        let frames := Frame.frames ⟨event.eventType, event.route⟩ codec.termination body
        (.ok frames.length, written ++ frames.flatten) := by
  rw [append, Noted.value_bind, Registry.value_serialize_of_entry known]
  cases encoded : Registry.encodeFields event entry.table with
  | ok body => rfl
  | error cause =>
      obtain ⟨_, _, _, -, -, refuses⟩ := Registry.encodeFields_eq_error_iff.mp encoded
      cases refuses <;> rfl

theorem fst_append_eq_error_iff
    (known : (codec.registryFor event.eventType).lookup event.eventType = some entry)
    (written : Bytes)
    (error : ProtocolError) :
    (codec.append event written).value.1 = .error error ↔
      ∃ cause, Registry.encodeFields event entry.table = .error cause ∧ error = .event cause := by
  rw [value_append_of_known known]
  cases Registry.encodeFields event entry.table with
  | ok body => exact ⟨nofun, nofun⟩
  | error cause =>
      constructor
      · rintro ⟨⟩
        exact ⟨cause, rfl, rfl⟩
      · rintro ⟨_, ⟨⟩, rfl⟩
        rfl

theorem fst_append_eq_unknown_iff
    (written : Bytes)
    (unknown : EventType) :
    (codec.append event written).value.1 = .error (.unknownType unknown) ↔
      (codec.registryFor event.eventType).lookup event.eventType = none ∧
        unknown = event.eventType := by
  cases known : (codec.registryFor event.eventType).lookup event.eventType with
  | none =>
      rw [value_append_of_unknown known]
      constructor
      · rintro ⟨⟩
        exact ⟨rfl, rfl⟩
      · rintro ⟨-, rfl⟩
        rfl
  | some entry =>
      rw [fst_append_eq_error_iff known]
      exact ⟨nofun, nofun⟩

/-- What has been written stays as it is, or is followed by the frames of the event's body. -/
theorem append_cases (codec : Codec) (event : Event) (written : Bytes) :
    (∃ error, (codec.append event written).value = (.error error, written)) ∨
      ∃ body,
        ((codec.registryFor event.eventType).serialize event).value = .ok body ∧
          let frames := Frame.frames ⟨event.eventType, event.route⟩ codec.termination body
          (codec.append event written).value =
            (.ok frames.length, written ++ frames.flatten) := by
  rw [append, Noted.value_bind]
  cases serialized : ((codec.registryFor event.eventType).serialize event).value with
  | error error => exact .inl ⟨writeError error, rfl⟩
  | ok body => exact .inr ⟨body, rfl, rfl⟩

/-- An event of a known type is not appended exactly when some field of the type refuses it. -/
theorem exists_fst_append_eq_error_iff
    (known : (codec.registryFor event.eventType).lookup event.eventType = some entry)
    (written : Bytes) :
    (∃ error, (codec.append event written).value.1 = .error error) ↔
      ∃ field ∈ entry.table, ∃ cause, field.Refuses event cause := by
  rw [← Registry.exists_encodeFields_eq_error_iff]
  constructor
  · rintro ⟨error, failed⟩
    obtain ⟨cause, encoded, -⟩ := (fst_append_eq_error_iff known written error).mp failed
    exact ⟨cause, encoded⟩
  · rintro ⟨cause, encoded⟩
    exact ⟨.event cause, (fst_append_eq_error_iff known written _).mpr ⟨cause, encoded, rfl⟩⟩

/-- The error is that of the first field that refuses the event. -/
theorem fst_append_eq_error_iff_first
    (known : (codec.registryFor event.eventType).lookup event.eventType = some entry)
    (written : Bytes)
    (error : ProtocolError) :
    (codec.append event written).value.1 = .error error ↔
      ∃ earlier field later cause,
        entry.table = earlier ++ field :: later ∧
          (∀ other ∈ earlier, ∀ reason, ¬ other.Refuses event reason) ∧
          field.Refuses event cause ∧ error = .event cause := by
  rw [fst_append_eq_error_iff known]
  constructor
  · rintro ⟨cause, encoded, rfl⟩
    obtain ⟨earlier, field, later, shape, willing, refuses⟩ :=
      Registry.encodeFields_eq_error_iff.mp encoded
    exact ⟨earlier, field, later, cause, shape, willing, refuses, rfl⟩
  · rintro ⟨earlier, field, later, cause, shape, willing, refuses, rfl⟩
    exact ⟨cause,
      Registry.encodeFields_eq_error_iff.mpr ⟨earlier, field, later, shape, willing, refuses⟩,
      rfl⟩

theorem snd_append_of_error
    {written : Bytes}
    {error : ProtocolError}
    (failed : (codec.append event written).value.1 = .error error) :
    (codec.append event written).value.2 = written := by
  rcases codec.append_cases event written with ⟨_, kept⟩ | ⟨_, -, appended⟩
  · exact congrArg Prod.snd kept
  · exact nomatch (congrArg Prod.fst appended).symm.trans failed

theorem exists_body_of_append_eq_ok
    {written : Bytes}
    {count : Nat}
    (counted : (codec.append event written).value.1 = .ok count) :
    ∃ body,
      ((codec.registryFor event.eventType).serialize event).value = .ok body ∧
        let frames := Frame.frames ⟨event.eventType, event.route⟩ codec.termination body
        (codec.append event written).value.2 = written ++ frames.flatten ∧
          count = frames.length := by
  rcases codec.append_cases event written with ⟨_, kept⟩ | ⟨body, serialized, appended⟩
  · exact nomatch (congrArg Prod.fst kept).symm.trans counted
  · refine ⟨body, serialized, congrArg Prod.snd appended, ?_⟩
    exact Except.ok.inj (counted.symm.trans (congrArg Prod.fst appended))

end Attempts

/--
Appending an event fails because its type is unknown to the registry that owns
its category, or because of the first field that refuses it, and then appends
nothing.  Otherwise it appends the frames of the event's body and counts them: a
reader of headers finds as many, laid out as the policy says, with the body in
them and the event's type and route in each.
-/
theorem append_all_or_nothing
    (registry : Registry)
    (termination : Frame.Termination)
    (maxEventSize : Nat)
    (event : Event)
    (written : Bytes) :
    let codec := (ofRegistry registry termination maxEventSize).value
    let owner := if event.eventType.category = 0xFFFF then Registry.control.value else registry
    let attempt := (codec.append event written).value
    (∀ unknown,
        attempt.1 = .error (.unknownType unknown) ↔
          owner.lookup event.eventType = none ∧ unknown = event.eventType) ∧
      (∀ entry,
        owner.lookup event.eventType = some entry →
        ((∃ error, attempt.1 = .error error) ↔
            ∃ field ∈ entry.table, ∃ cause, field.Refuses event cause) ∧
          ∀ error,
            attempt.1 = .error error ↔
              ∃ earlier field later cause,
                entry.table = earlier ++ field :: later ∧
                  (∀ other ∈ earlier, ∀ reason, ¬ other.Refuses event reason) ∧
                  field.Refuses event cause ∧ error = .event cause) ∧
      (∀ error, attempt.1 = .error error → attempt.2 = written) ∧
      ∀ count,
        attempt.1 = .ok count →
        ∃ body,
          (owner.serialize event).value = .ok body ∧
            let identity : Identity := ⟨event.eventType, event.route⟩
            let frames := Frame.frames identity termination body
            attempt.2 = written ++ frames.flatten ∧
              count = frames.length ∧
              ∃ front last,
                Frame.readFrames? frames.flatten = some (front ++ [last]) ∧
                  (front ++ [last]).length = count ∧
                  Frame.LaidOut termination identity body front last := by
  intro codec owner attempt
  have owns : codec.registryFor event.eventType = owner := by
    simp only [registryFor, EventType.isControl, beq_iff_eq]
    rfl
  rw [← owns]
  refine ⟨fst_append_eq_unknown_iff written, ?_, ?_, ?_⟩
  · intro entry known
    exact ⟨exists_fst_append_eq_error_iff known written,
      fst_append_eq_error_iff_first known written⟩
  · intro error failed
    exact snd_append_of_error failed
  · intro count counted
    obtain ⟨body, serialized, appended, rfl⟩ := exists_body_of_append_eq_ok counted
    exact ⟨body, serialized, appended, rfl, Frame.exists_readFrames?_frames _ _ body⟩

section Samples

/-- A registry whose lines have the fields of remarks too, and that lays claim to a control type. -/
def contested : Registry where
  entries :=
    [{ Entry.ofSchema Catalog.log with table := Catalog.log.table ++ Catalog.note.table },
      { Entry.ofSchema Catalog.log with eventType := ⟨0xFFFF, 9⟩ }]
  nodup := by decide

/-- A line whose text holds a NUL. -/
def uncleanLine : Record where
  schema := Catalog.log
  eventType := Catalog.log.eventType
  route := Route.none
  values := [.unsigned 7, .text "a\x00b"]
  kinds_eq := rfl
  route_eq := fun _ => rfl

/--
The NUL comes before the fields of another schema, and control types are not the
users'.  An acknowledgement is appended as the one frame in which it is found.
-/
theorem append_all_or_nothing_contested :
    let codec := (ofRegistry contested .emptyFrame 9).value
    let acknowledged := (codec.append (.record (Acknowledgement.mk 5).toRecord) [1, 2, 3]).value
    (codec.append (.record uncleanLine) [1, 2, 3]).value =
        (.error (.event (.interiorNul "message")), [1, 2, 3]) ∧
      (codec.append (.record (Registry.line.retyped ⟨0xFFFF, 9⟩)) [1, 2, 3]).value =
        (.error (.unknownType ⟨0xFFFF, 9⟩), [1, 2, 3]) ∧
      acknowledged.1 = .ok 1 ∧
      ∃ octets frame,
        acknowledged.2 = [1, 2, 3] ++ octets ∧
          Frame.readFrames? octets = some [frame] ∧
          frame.1.verifies frame.2 = true ∧
          frame.1.identity = ⟨.acknowledgement, Route.none⟩ ∧
          frame.2 = [0, 0, 0, 5] := by
  intro codec acknowledged
  refine ⟨?_, ?_, ?_⟩
  · obtain ⟨-, refused, kept, -⟩ :=
      append_all_or_nothing contested .emptyFrame 9 (.record uncleanLine) [1, 2, 3]
    have willing :
        ∀ other ∈ [Field.mk Catalog.log ⟨0, by decide⟩],
          ∀ reason, ¬ other.Refuses (.record uncleanLine) reason := by
      rw [List.forall_mem_singleton]
      exact fun reason => Field.not_refuses rfl rfl
    have failed :=
      ((refused _ rfl).2 (.event (.interiorNul "message"))).mpr
        ⟨[⟨Catalog.log, ⟨0, by decide⟩⟩], ⟨Catalog.log, ⟨1, by decide⟩⟩, Catalog.note.table, _,
          rfl, willing, .unclean rfl (by decide), rfl⟩
    exact Prod.ext failed (kept _ failed)
  · obtain ⟨unknown, -, kept, -⟩ :=
      append_all_or_nothing contested .emptyFrame 9
        (.record (Registry.line.retyped ⟨0xFFFF, 9⟩)) [1, 2, 3]
    have failed := (unknown ⟨0xFFFF, 9⟩).mpr ⟨rfl, rfl⟩
    exact Prod.ext failed (kept _ failed)
  · obtain ⟨-, refused, -, appends⟩ :=
      append_all_or_nothing contested .emptyFrame 9 (.record (Acknowledgement.mk 5).toRecord)
        [1, 2, 3]
    rcases outcome : acknowledged.1 with error | count
    · obtain ⟨field, member, cause, refuses⟩ := (refused _ rfl).1.mp ⟨error, outcome⟩
      obtain rfl := List.mem_singleton.mp member
      exact absurd refuses (Field.not_refuses rfl rfl)
    · obtain ⟨body, serialized, appended, -, front, last, readBack, counted, laidOut⟩ :=
        appends count outcome
      obtain rfl : [0, 0, 0, 5] = body := Except.ok.inj serialized
      have single : front.length + 1 = 1 := (List.length_append ..).symm.trans laidOut.count
      obtain rfl := List.length_eq_zero_iff.mp (Nat.succ.inj single)
      obtain ⟨verified, identity, -⟩ := laidOut.valid last (List.mem_singleton_self _)
      refine ⟨congrArg Except.ok counted.symm, _, last, appended, readBack, verified, identity, ?_⟩
      exact (List.flatMap_singleton _ _).symm.trans laidOut.payloads

end Samples

end Codec

end EventWire
