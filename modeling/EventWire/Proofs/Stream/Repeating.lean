import EventWire.Proofs.Protocol.Negotiation
import EventWire.Proofs.Stream.Reading

namespace EventWire

/-!
# Negotiation records that arrive later

An end judges the record that opens the handshake, and judges again each record
that arrives while it reads.  Where a body holds all fields of a record, both
judgements are the same, whatever stands behind the fields.  Where it does not,
the handshake reports what can be told of the record, but a read passes over it.
-/

namespace VersionRecord

section Bodies

variable {body : Bytes}

/-- What the handshake makes of a record's body: what its sender offers, or why it is refused. -/
def verdict (body : Bytes) : Except ProtocolError Extensions :=
  if body.length < 14 then .error (unreadable body)
  else (ofBody body).validate.map fun _ => (ofBody body).offered

/-- Whatever the reason, a refusal names what the body says of the magic and the version. -/
theorem verdict_eq_error
    {error : ProtocolError}
    (refused : verdict body = .error error) :
    error = unreadable body := by
  rw [verdict] at refused
  split at refused
  · exact (Except.error.inj refused).symm
  · rw [validate] at refused
    split at refused
    · exact nomatch refused
    · exact (Except.error.inj refused).symm

/-- Why a read refuses a record, if it does: one whose body is too short is never refused. -/
def refusal? (body : Bytes) : Option ProtocolError :=
  if body.length < 14 then none
  else
    match verdict body with
    | .error error => some error
    | .ok _ => none

end Bodies

end VersionRecord

namespace Stream

section Judging

variable {codec : Codec} {parcel : Frame.Parcel} (standard : codec.control = Registry.control.value)
include standard

section Records

variable (isRecord : parcel.identity.eventType = EventType.versionRecord)
include isRecord

theorem value_open?_of_long (long : 14 ≤ parcel.body.length) :
    (codec.open? parcel).value = some (VersionRecord.ofBody parcel.body).toRecord := by
  have registryIsControl :
      codec.registryFor parcel.identity.eventType = Registry.control.value := by
    rw [isRecord]
    exact standard
  rw [Codec.open?, Noted.value_bind, registryIsControl, isRecord,
    VersionRecord.deserialize_of_long long]
  rfl

theorem value_open?_of_short (short : parcel.body.length < 14) :
    (codec.open? parcel).value = none := by
  have registryIsControl :
      codec.registryFor parcel.identity.eventType = Registry.control.value := by
    rw [isRecord]
    exact standard
  obtain ⟨_, -, error, failed, -⟩ := VersionRecord.cutIn_of_short short
  rw [Codec.open?, Noted.value_bind, registryIsControl, isRecord, failed]
  cases error <;> rfl

/-- The handshake judges every body, readable or not. -/
theorem value_judgeRecord_eq :
    (judgeRecord codec parcel).value =
      .settled ((VersionRecord.verdict parcel.body).mapError StreamError.protocol) := by
  rw [judgeRecord, Noted.value_bind]
  by_cases short : parcel.body.length < 14
  · rw [value_open?_of_short standard isRecord short, VersionRecord.verdict, if_pos short]
    dsimp only
    rw [if_pos isRecord]
    rfl
  · rw [value_open?_of_long standard isRecord (Nat.le_of_not_lt short), VersionRecord.verdict,
      if_neg short]
    simp only [VersionRecord.ofRecord?_toRecord]
    cases (VersionRecord.ofBody parcel.body).validate <;> rfl

/-- A read judges the bodies that can be read, and passes over the others. -/
theorem value_judgeEvent_eq :
    (judgeEvent codec parcel).value =
      match VersionRecord.refusal? parcel.body with
      | some error => .settled (.error (.protocol error))
      | none => .pass := by
  by_cases short : parcel.body.length < 14
  · rw [judgeEvent_of_unopened (value_open?_of_short standard isRecord short),
      VersionRecord.refusal?, if_pos short]
  · rw [judgeEvent, Noted.value_bind,
      value_open?_of_long standard isRecord (Nat.le_of_not_lt short), VersionRecord.refusal?,
      if_neg short, VersionRecord.verdict, if_neg short]
    dsimp only
    rw [if_pos
        (show (VersionRecord.ofBody parcel.body).toRecord.eventType.isControl = true from rfl),
      judgeControl,
      show Acknowledgement.ofRecord? (VersionRecord.ofBody parcel.body).toRecord = none from rfl]
    simp only [VersionRecord.ofRecord?_toRecord]
    cases (VersionRecord.ofBody parcel.body).validate <;> rfl

theorem refusal?_of_judged
    {verdict : Verdict Event}
    (judged : (judgeEvent codec parcel).value = verdict) :
    (∃ error,
        VersionRecord.refusal? parcel.body = some error ∧
          verdict = .settled (.error (.protocol error))) ∨
      VersionRecord.refusal? parcel.body = none ∧ verdict = .pass := by
  rw [← judged, value_judgeEvent_eq standard isRecord]
  cases VersionRecord.refusal? parcel.body with
  | some error => exact .inl ⟨error, rfl, rfl⟩
  | none => exact .inr ⟨rfl, rfl⟩

end Records

end Judging

section Waiting

variable {codec : Codec} {wait : Wait} {stream last : Stream} {outcome : Outcome Event}

/-- A wait that completes no parcel comes to no event and to no error of the protocol. -/
theorem Awaited.of_nil
    (awaited : Awaited (judgeEvent codec) .closed wait stream [] outcome last) :
    (∀ event, outcome ≠ .done event) ∧ ∀ error, outcome ≠ .failed (.protocol error) := by
  generalize none : [] = parcels at awaited
  induction awaited with
  | passed => exact nomatch none
  | acknowledged => exact nomatch none
  | settled => exact nomatch none
  | ended => exact ⟨nofun, nofun⟩
  | arrived _ _ _ _ inductionHypothesis => exact inductionHypothesis none
  | closed _ _ _ _ inductionHypothesis => exact inductionHypothesis none
  | failed => exact ⟨nofun, nofun⟩
  | blocked => exact ⟨nofun, nofun⟩

/--
What becomes of a read that meets a negotiation record among the parcels that it
completes: it ends there with the refusal, or goes on behind the record.
-/
def Meets (body : Bytes) (later : List Frame.Parcel) (outcome : Outcome Event) : Prop :=
  match VersionRecord.refusal? body with
  | some error => later = [] ∧ outcome = .failed (.protocol error)
  | none =>
    later = [] →
      (∀ event, outcome ≠ .done event) ∧ ∀ error, outcome ≠ .failed (.protocol error)

theorem Awaited.meets
    {parcels earlier later : List Frame.Parcel}
    {parcel : Frame.Parcel}
    (standard : codec.control = Registry.control.value)
    (isRecord : parcel.identity.eventType = EventType.versionRecord)
    (awaited : Awaited (judgeEvent codec) .closed wait stream parcels outcome last)
    (completed : parcels = earlier ++ parcel :: later) :
    Meets parcel.body later outcome := by
  induction awaited generalizing earlier with
  | passed returned passed behind inductionHypothesis =>
      cases earlier with
      | cons first others => exact inductionHypothesis (List.cons.inj completed).2
      | nil =>
          cases completed
          rcases refusal?_of_judged standard isRecord passed with ⟨_, -, other⟩ | ⟨kept, -⟩
          · exact nomatch other
          · rw [Meets, kept]
            rintro rfl
            exact behind.of_nil
  | acknowledged returned counted behind inductionHypothesis =>
      cases earlier with
      | cons first others => exact inductionHypothesis (List.cons.inj completed).2
      | nil =>
          cases completed
          rcases refusal?_of_judged standard isRecord counted with ⟨_, -, other⟩ | ⟨-, other⟩ <;>
            exact nomatch other
  | settled returned settled =>
      cases earlier with
      | cons first others => simp at completed
      | nil =>
          cases completed
          rcases refusal?_of_judged standard isRecord settled with
            ⟨error, refused, same⟩ | ⟨-, other⟩
          · cases same
            rw [Meets, refused]
            exact ⟨rfl, rfl⟩
          · exact nomatch other
  | ended => simp at completed
  | arrived _ _ _ _ inductionHypothesis => exact inductionHypothesis completed
  | closed _ _ _ _ inductionHypothesis => exact inductionHypothesis completed
  | failed => simp at completed
  | blocked => simp at completed

/-- Counting an event changes nothing about a record that came before it. -/
theorem Meets.conclude
    {body : Bytes}
    {later : List Frame.Parcel}
    (meets : Meets body later outcome)
    (received : Stream) :
    Meets body later (conclude outcome received).1 := by
  rw [Meets] at meets ⊢
  cases refused : VersionRecord.refusal? body with
  | some error =>
      rw [refused] at meets
      obtain ⟨last, rfl⟩ := meets
      exact ⟨last, rfl⟩
  | none =>
      rw [refused] at meets
      intro last
      cases outcome with
      | done event => exact absurd rfl ((meets last).1 event)
      | failed error => exact meets last
      | blocked wait => exact meets last

end Waiting

section Reading

variable {stream : Stream} {parcel : Frame.Parcel} {next : Frame.Decoder}

theorem value_receiveRecord_of_returned
    (standard : stream.codec.control = Registry.control.value)
    (isRecord : parcel.identity.eventType = EventType.versionRecord)
    (returned : (stream.decoder.decode stream.ended).value = (some parcel, next)) :
    stream.receiveRecord.value =
      (settle ((VersionRecord.verdict parcel.body).mapError .protocol),
        { stream with decoder := next }) :=
  (Awaited.settled returned (value_judgeRecord_eq standard isRecord)).value_await

theorem Framed.value_read_of_returned
    (framed : stream.Framed)
    (isRecord : parcel.identity.eventType = EventType.versionRecord)
    (returned : (stream.decoder.decode stream.ended).value = (some parcel, next)) :
    stream.read.value =
      match VersionRecord.refusal? parcel.body with
      | some error => (.failed (.protocol error), { stream with decoder := next })
      | none => { stream with decoder := next }.read.value := by
  have judged := value_judgeEvent_eq framed.standard isRecord
  rw [framed.value_read]
  cases refused : VersionRecord.refusal? parcel.body with
  | some error =>
      rw [refused] at judged
      exact value_readFramed (.settled returned judged)
  | none =>
      rw [refused] at judged
      have framedNext : { stream with decoder := next }.Framed :=
        ⟨framed.negotiated, framed.framed, framed.standard⟩
      obtain ⟨parcels, outcome, last, later⟩ :=
        exists_awaited (judgeEvent stream.codec) .closed .forEvent { stream with decoder := next }
      rw [value_readFramed (.passed returned judged later)]
      dsimp only
      rw [framedNext.value_read, value_readFramed later]

theorem Reads.meets
    {occurrences : List Occurrence}
    {log : List (List Frame.Parcel × Outcome Event)}
    (framed : stream.Framed)
    (reads : Reads stream occurrences log)
    (isRecord : parcel.identity.eventType = EventType.versionRecord) :
    ∀ entry ∈ log, ∀ earlier later,
      entry.1 = earlier ++ parcel :: later → Meets parcel.body later entry.2 := by
  induction reads with
  | nil => exact nofun
  | @read stream received occurrences log parcels outcome completed later inductionHypothesis =>
      refine List.forall_mem_cons.mpr ⟨?_, inductionHypothesis (framed.after .read).1⟩
      intro earlier behind split
      rw [framed.value_read, value_readFramed completed]
      exact (completed.meets framed.standard isRecord split).conclude received
  | other noRead later inductionHypothesis => exact inductionHypothesis (framed.after _).1

/--
The handshake judges every body of a negotiation record, and whenever it refuses
one it reports what the body says.  A read that meets such a record refuses it in
the same way if the body is long enough to be read, and else goes on behind it,
and this holds for each record in whatever happens at the stream.
-/
theorem later_records_judged (framed : stream.Framed) :
    (∀ (body : Bytes) (error : ProtocolError),
      VersionRecord.verdict body = .error error → error = VersionRecord.unreadable body) ∧
    (∀ (waiting : Stream) (parcel : Frame.Parcel) (next : Frame.Decoder),
      waiting.codec.control = Registry.control.value →
      parcel.identity.eventType = EventType.versionRecord →
      (waiting.decoder.decode waiting.ended).value = (some parcel, next) →
      waiting.receiveRecord.value =
        (settle ((VersionRecord.verdict parcel.body).mapError .protocol),
          { waiting with decoder := next })) ∧
    (∀ (parcel : Frame.Parcel) (next : Frame.Decoder),
      parcel.identity.eventType = EventType.versionRecord →
      (stream.decoder.decode stream.ended).value = (some parcel, next) →
      stream.read.value =
        match VersionRecord.refusal? parcel.body with
        | some error => (.failed (.protocol error), { stream with decoder := next })
        | none => { stream with decoder := next }.read.value) ∧
    ∀ (occurrences : List Occurrence) (log : List (List Frame.Parcel × Outcome Event)),
      Reads stream occurrences log →
      ∀ entry ∈ log, ∀ (earlier later : List Frame.Parcel) (parcel : Frame.Parcel),
        entry.1 = earlier ++ parcel :: later →
        parcel.identity.eventType = EventType.versionRecord →
        Meets parcel.body later entry.2 := by
  refine ⟨fun _ _ => VersionRecord.verdict_eq_error, fun _ _ _ => value_receiveRecord_of_returned,
    fun _ _ => framed.value_read_of_returned, ?_⟩
  intro occurrences log reads entry member earlier later parcel completed isRecord
  exact reads.meets framed isRecord entry member earlier later completed

/-- The parcel of a negotiation record with the given body. -/
def recordParcel (body : Bytes) : Frame.Parcel :=
  ⟨⟨EventType.versionRecord, Route.none⟩, body⟩

theorem decode_recordParcel
    {decoder : Frame.Decoder}
    (holds : decoder.Holds [])
    {body : Bytes}
    (small : body.length ≤ decoder.maxEventSize) :
    ∃ next,
      ((decoder.push (recordParcel body).wire).decode false).value =
        (some (recordParcel body), next) ∧
        next.Holds [] := by
  obtain ⟨next, returned, empty, -⟩ :=
    (@Frame.Decoder.Holds.push _ _ holds [recordParcel body]
      (List.forall_mem_singleton.mpr small)).decode_cons false
  rw [List.flatMap_cons, List.flatMap_nil, List.append_nil] at returned
  exact ⟨next, returned, empty⟩

/-- A record of another major version with an octet behind it ends a read. -/
theorem later_records_judged_outdated :
    let body := (VersionRecord.mk ⟨VersionRecord.magic, 1, 0, 0⟩ 0).body ++ [7]
    let stream := { eager with decoder := eager.decoder.push (recordParcel body).wire }
    stream.Framed ∧
      stream.read.value.1 =
        .failed (.protocol (.versionMismatch ⟨VersionRecord.magic, 1, 0, 0⟩)) := by
  intro body stream
  have framed : stream.Framed := ⟨rfl, rfl, rfl⟩
  obtain ⟨next, returned, -⟩ :=
    @decode_recordParcel eager.decoder (.fresh ..) body (by decide)
  obtain ⟨-, -, judged, -⟩ := later_records_judged framed
  exact ⟨framed, congrArg Prod.fst (judged _ _ rfl returned)⟩

/-- A record without a body ends a handshake, but a read waits for what comes behind it. -/
theorem unreadable_record_passed :
    let parcel := recordParcel []
    let waiting :=
      { (onConnection (.fresh ⟨1⟩) Codec.sampleWriter .default).value with
        decoder := eager.decoder.push parcel.wire }
    let stream := { eager with decoder := eager.decoder.push parcel.wire }
    waiting.receiveRecord.value.1 = .failed (.protocol (.versionMismatch ⟨0, 0, 0, 0⟩)) ∧
      stream.Framed ∧
      stream.read.value.1 = .blocked .forEvent := by
  intro parcel waiting stream
  have framed : stream.Framed := ⟨rfl, rfl, rfl⟩
  obtain ⟨next, returned, empty⟩ :=
    @decode_recordParcel eager.decoder (.fresh ..) [] (Nat.zero_le _)
  obtain ⟨idle, nothing, -⟩ := empty.decode_nil false
  have judged :=
    value_receiveRecord_of_returned (show waiting.codec.control = _ from rfl) rfl returned
  have passed : (judgeEvent stream.codec parcel).value = .pass :=
    value_judgeEvent_eq framed.standard rfl
  have waits :
      Awaited (judgeEvent stream.codec) .closed .forEvent stream [parcel] (.blocked .forEvent) _ :=
    .passed returned passed (.blocked nothing rfl rfl)
  have read := framed.value_read.trans (value_readFramed waits)
  exact ⟨congrArg Prod.fst judged, framed, congrArg Prod.fst read⟩

end Reading

end Stream

end EventWire
