import EventWire.Proofs.Stream.Accounts
import EventWire.Proofs.Stream.Rejecting
import Mathlib.Data.List.DropRight

namespace EventWire

/-!
# Events that are to be acknowledged

A stream counts the events that it reads and starts again when it acknowledges
them.  A log says which events were counted and which counts were sent.  The
counter holds what was counted since the last count was sent, up to its width,
and with a limit it gets no further than that.  But it starts again before the
count is sent: once that fails, the events are not owed any more.
-/

/-- What happens to the count of events that are to be acknowledged. -/
inductive Tally where
  /-- A read takes in an event and counts it, and goes on to return it or not. -/
  | takes (record : Record) (returned : Bool)
  /-- The count is sent or that fails, and it starts again. -/
  | reports (count : UInt32) (result : Except StreamError Unit)

namespace Tally

def isTake : Tally → Bool
  | takes _ _ => true
  | reports _ _ => false

/-- The event that a read returned. -/
def returned? : Tally → Option Record
  | takes record true => some record
  | _ => none

/-- An event that is taken in is returned, and a count is sent. -/
def Succeeds : Tally → Prop
  | takes _ returned => returned = true
  | reports _ result => result = .ok ()

/-- How many events have been counted since a count was last sent, or that failed. -/
def owed (log : List Tally) : Nat :=
  (log.rtakeWhile isTake).length

theorem owed_takes (log : List Tally) (record : Record) (returned : Bool) :
    owed (log ++ [takes record returned]) = owed log + 1 := by
  rw [owed, List.rtakeWhile_concat_pos _ _ _ rfl, List.length_append, List.length_singleton, owed]

theorem owed_reports (log : List Tally) (count : UInt32) (result : Except StreamError Unit) :
    owed (log ++ [reports count result]) = 0 := by
  rw [owed, List.rtakeWhile_concat_neg _ _ _ Bool.false_ne_true, List.length_nil]

end Tally

/-- A log leads to this count, every count that it reports is right, and no limit is passed. -/
structure Tallied (limit : UInt32) (log : List Tally) (count : UInt32) : Prop where
  count : count.toNat = Tally.owed log % 2 ^ 32
  reported :
    ∀ before reported result,
      before ++ [.reports reported result] <+: log →
        reported.toNat = Tally.owed before % 2 ^ 32
  bounded : 0 < limit → ∀ before, before <+: log → Tally.owed before ≤ limit.toNat

namespace Tallied

variable {limit count : UInt32} {log : List Tally}

theorem nil (limit : UInt32) : Tallied limit [] 0 where
  count := rfl
  reported before _ _ inside := by
    have short := inside.length_le
    rw [List.length_append] at short
    exact absurd short (Nat.not_succ_le_zero _)
  bounded _ before inside := by
    rw [List.prefix_nil.mp inside]
    exact Nat.zero_le _

/-- Under a limit the counter does not overflow. -/
theorem count_of_limit (tallied : Tallied limit log count) (limited : 0 < limit) :
    count.toNat = Tally.owed log := by
  have bound := tallied.bounded limited log (List.prefix_refl log)
  rw [tallied.count, Nat.mod_eq_of_lt (Nat.lt_of_le_of_lt bound limit.toNat_lt)]

theorem takes
    (tallied : Tallied limit log count)
    (below : 0 < limit → count < limit)
    (record : Record)
    (returned : Bool) :
    Tallied limit (log ++ [.takes record returned]) (count + 1) where
  count := by
    rw [Tally.owed_takes, UInt32.toNat_add, tallied.count]
    exact Nat.mod_add_mod _ _ _
  reported before reported result inside := by
    rcases List.prefix_concat_iff.mp inside with whole | earlier
    · exact nomatch (List.append_inj' whole rfl).2
    · exact tallied.reported before reported result earlier
  bounded limited before inside := by
    rcases List.prefix_concat_iff.mp inside with rfl | earlier
    · rw [Tally.owed_takes, ← tallied.count_of_limit limited]
      exact UInt32.lt_iff_toNat_lt.mp (below limited)
    · exact tallied.bounded limited before earlier

theorem reports (tallied : Tallied limit log count) (result : Except StreamError Unit) :
    Tallied limit (log ++ [.reports count result]) 0 where
  count := by
    rw [Tally.owed_reports]
    rfl
  reported before reported outcome inside := by
    rcases List.prefix_concat_iff.mp inside with whole | earlier
    · obtain ⟨rfl, last⟩ := List.append_inj' whole rfl
      cases last
      exact tallied.count
    · exact tallied.reported before reported outcome earlier
  bounded limited before inside := by
    rcases List.prefix_concat_iff.mp inside with rfl | earlier
    · rw [Tally.owed_reports]
      exact Nat.zero_le _
    · exact tallied.bounded limited before earlier

end Tallied

/-- The user's records that an answer hands over. -/
def Answer.records : Answer → List Record
  | handed outcome => outcome.records
  | _ => []

/-- Whether a connection can be written to after this if it could be before. -/
def Incident.keepsWritable : Incident → Bool
  | call .close => false
  | peerDrops => false
  | _ => true

namespace Stream

/-- At an incident, this happens to the count. -/
inductive Tallies (stream : Stream) : Incident → List Tally → Prop where
  /-- A read takes in an event, and it is too early to acknowledge. -/
  | takes
      {parcels : List Frame.Parcel}
      {record : Record}
      {received : Stream}
      (awaited :
        Awaited (judgeEvent stream.codec) .closed .forEvent stream parcels
          (.done (.record record)) received)
      (early :
        ¬ (0 < stream.config.ackLimit ∧ stream.config.ackLimit ≤ stream.unacknowledged + 1)) :
      Tallies stream (.call .read) [.takes record true]
  /-- A read takes in the event that makes it time to acknowledge. -/
  | takesLast
      {parcels : List Frame.Parcel}
      {record : Record}
      {received next : Stream}
      {result : Except StreamError Unit}
      (awaited :
        Awaited (judgeEvent stream.codec) .closed .forEvent stream parcels
          (.done (.record record)) received)
      (due : 0 < stream.config.ackLimit ∧ stream.config.ackLimit ≤ stream.unacknowledged + 1)
      (dispatched :
        ((dispatch (.record (Acknowledgement.mk (stream.unacknowledged + 1)).toRecord)).on
          { received with unacknowledged := 0 }).value = (result, next)) :
      Tallies stream (.call .read)
        [.takes record result.isOk, .reports (stream.unacknowledged + 1) result]
  | takesNothing
      {parcels : List Frame.Parcel}
      {outcome : Outcome Event}
      {received : Stream}
      (awaited :
        Awaited (judgeEvent stream.codec) .closed .forEvent stream parcels outcome received)
      (nothing : ∀ event, outcome ≠ .done event) :
      Tallies stream (.call .read) []
  | reports
      {next : Stream}
      {result : Except StreamError Unit}
      (owing : stream.unacknowledged ≠ 0)
      (dispatched :
        ((dispatch (.record (Acknowledgement.mk stream.unacknowledged).toRecord)).on
          { stream with unacknowledged := 0 }).value = (result, next)) :
      Tallies stream (.call .acknowledge) [.reports stream.unacknowledged result]
  | owesNothing
      (nothing : stream.unacknowledged = 0) :
      Tallies stream (.call .acknowledge) []
  | other
      {incident : Incident}
      (noRead : incident ≠ .call .read)
      (noReport : incident ≠ .call .acknowledge) :
      Tallies stream incident []

/-- At incidents one after the other, this happens to the count. -/
inductive TalliesAll : Stream → List Incident → List Tally → Prop where
  | nil (stream : Stream) : TalliesAll stream [] []
  | cons
      {stream : Stream}
      {incident : Incident}
      {later : List Incident}
      {entries log : List Tally}
      (first : Tallies stream incident entries)
      (rest : TalliesAll (stream.handle incident).2 later log) :
      TalliesAll stream (incident :: later) (entries ++ log)

theorem exists_tallies (stream : Stream) (incident : Incident) :
    ∃ entries, Tallies stream incident entries := by
  by_cases isRead : incident = .call .read
  · subst isRead
    obtain ⟨parcels, outcome, received, awaited⟩ :=
      exists_awaited (judgeEvent stream.codec) .closed .forEvent stream
    cases outcome with
    | done event =>
        obtain ⟨record, rfl⟩ := awaited.records_eq.2 event rfl
        by_cases due :
            0 < stream.config.ackLimit ∧ stream.config.ackLimit ≤ stream.unacknowledged + 1
        · exact ⟨_, .takesLast awaited due rfl⟩
        · exact ⟨_, .takes awaited due⟩
    | failed _ => exact ⟨_, .takesNothing awaited nofun⟩
    | blocked _ => exact ⟨_, .takesNothing awaited nofun⟩
  · by_cases isReport : incident = .call .acknowledge
    · subst isReport
      by_cases nothing : stream.unacknowledged = 0
      · exact ⟨_, .owesNothing nothing⟩
      · exact ⟨_, .reports nothing rfl⟩
    · exact ⟨_, .other isRead isReport⟩

theorem exists_talliesAll (stream : Stream) (incidents : List Incident) :
    ∃ log, TalliesAll stream incidents log := by
  induction incidents generalizing stream with
  | nil => exact ⟨[], .nil stream⟩
  | cons incident later inductionHypothesis =>
      obtain ⟨entries, first⟩ := exists_tallies stream incident
      obtain ⟨log, rest⟩ := inductionHypothesis (stream.handle incident).2
      exact ⟨entries ++ log, .cons first rest⟩

/-- Only what is received, what is sent and what the peer has acknowledged has changed. -/
def Abides (stream next : Stream) : Prop :=
  ∃ filter acknowledged, next = { stream with filter := filter, acknowledged := acknowledged }

/-- The connection can be written to if it could be. -/
def StaysWritable (stream next : Stream) : Prop :=
  stream.filter.connection.Writable → next.filter.connection.Writable

theorem abides_post (octets : Bytes) (stream : Stream) :
    let next := ((post octets).on stream).value.2
    stream.Abides next ∧ stream.StaysWritable next := by
  obtain ⟨gathered, outbox, counters, spoken⟩ := stream.filter.exists_speaking_of_send octets
  intro next
  have posted : next = _ := congrArg Prod.snd (value_post octets stream)
  rw [posted]
  rcases sent : (stream.filter.send octets).value with ⟨_ | _, filter⟩ <;>
    obtain rfl : filter = _ := (congrArg Prod.snd sent).symm.trans spoken <;>
    exact ⟨⟨_, _, rfl⟩, Filter.writable_speaking.mpr⟩

theorem abides_flush (stream : Stream) :
    let next := (flush.on stream).value.2
    stream.Abides next ∧ stream.StaysWritable next := by
  obtain ⟨gathered, outbox, counters, spoken⟩ := stream.filter.exists_speaking_of_flush
  dsimp only
  rw [flush, Action.value_on_bind, pushOut, Action.value_on_onFilter]
  rcases sent : stream.filter.flush.value with ⟨_ | _, filter⟩ <;>
    obtain rfl : filter = _ := (congrArg Prod.snd sent).symm.trans spoken <;>
    exact ⟨⟨_, _, rfl⟩, Filter.writable_speaking.mpr⟩

section Handling

variable {stream : Stream} {incident : Incident} {entries : List Tally} (framed : stream.Framed)
include framed

/-- But for reads and acknowledgements nothing is counted, and no event is returned. -/
theorem Framed.abides_handle
    (noRead : incident ≠ .call .read)
    (noReport : incident ≠ .call .acknowledge) :
    let handled := stream.handle incident
    handled.1.records = [] ∧
      stream.Abides handled.2 ∧
      (incident.keepsWritable = true → stream.StaysWritable handled.2) := by
  obtain ⟨_, settled⟩ := Option.isSome_iff_exists.mp framed.negotiated
  intro handled
  cases incident with
  | call operation =>
      cases operation with
      | negotiate =>
          have same : handled.2 = stream :=
            congrArg Prod.snd (value_negotiate_of_negotiated settled .responder)
          rw [same]
          exact ⟨rfl, ⟨_, _, rfl⟩, fun _ writable => writable⟩
      | read => exact absurd rfl noRead
      | write event =>
          refine ⟨rfl, ?_⟩
          rcases write_cases framed.negotiated event with ⟨error, rejected⟩ | ⟨octets, posted⟩
          · have same : handled.2 = stream := congrArg Prod.snd rejected
            rw [same]
            exact ⟨⟨_, _, rfl⟩, fun _ writable => writable⟩
          · have same : handled.2 = ((post octets).on stream).value.2 := congrArg Prod.snd posted
            rw [same]
            exact ⟨(abides_post octets stream).1, fun _ => (abides_post octets stream).2⟩
      | flush => exact ⟨rfl, (abides_flush stream).1, fun _ => (abides_flush stream).2⟩
      | acknowledge => exact absurd rfl noReport
      | close => exact ⟨rfl, ⟨_, _, rfl⟩, nofun⟩
  | arrival octets => exact ⟨rfl, ⟨_, _, rfl⟩, fun _ writable => ⟨writable.1, writable.2⟩⟩
  | peerCloses => exact ⟨rfl, ⟨_, _, rfl⟩, fun _ writable => ⟨writable.1, writable.2⟩⟩
  | peerDrops => exact ⟨rfl, ⟨_, _, rfl⟩, nofun⟩
  | carry => exact ⟨rfl, ⟨_, _, rfl⟩, fun _ writable => ⟨writable.1, writable.2⟩⟩

/-- Whatever happens, events are read as before. -/
theorem Framed.handle (incident : Incident) :
    let next := (stream.handle incident).2
    next.Framed ∧
      next.config = stream.config ∧
      (incident.keepsWritable = true → stream.StaysWritable next) := by
  by_cases isRead : incident = .call .read
  · subst isRead
    obtain ⟨_, _, _, _, _, _, _, _, _, _, left⟩ := framed.exists_read
    have left : (stream.handle (.call .read)).2 = _ := left
    rw [left]
    exact ⟨⟨framed.negotiated, framed.framed, framed.standard⟩, rfl,
      fun _ writable => ⟨writable.1, writable.2⟩⟩
  · by_cases isReport : incident = .call .acknowledge
    · subst isReport
      obtain ⟨_, _, _, _, left⟩ := speaks_acknowledge stream
      have left : (stream.handle (.call .acknowledge)).2 = _ := left
      rw [left]
      exact ⟨⟨framed.negotiated, framed.framed, framed.standard⟩, rfl,
        fun _ writable => ⟨writable.1, writable.2⟩⟩
    · obtain ⟨-, ⟨_, _, left⟩, stays⟩ := framed.abides_handle isRead isReport
      refine ⟨?_, ?_, stays⟩ <;> rw [left]
      exact ⟨framed.negotiated, framed.framed, framed.standard⟩

end Handling

section Counting

variable
  {stream received next : Stream} {incident : Incident} {entries log : List Tally}
  {parcels : List Frame.Parcel} {record : Record} {result : Except StreamError Unit}

/-- Waiting neither counts nor sends anything. -/
theorem Awaited.uncounted
    {outcome : Outcome Event}
    (awaited :
      Awaited (judgeEvent stream.codec) .closed .forEvent stream parcels outcome received) :
    received.config = stream.config ∧
      received.coarse = stream.coarse ∧
      received.codec = stream.codec ∧
      received.unacknowledged = stream.unacknowledged ∧
      stream.StaysWritable received := by
  obtain ⟨_, _, _, _, _, _, rfl⟩ := awaited.exists_hearing
  exact ⟨rfl, rfl, rfl, rfl, fun writable => ⟨writable.unfinished, writable.attended⟩⟩

section Dispatching

variable
  {event : Event}
  (dispatched : ((dispatch event).on stream).value = (result, next))
include dispatched

/-- Sending an event does not count any. -/
theorem unacknowledged_of_dispatched : next.unacknowledged = stream.unacknowledged := by
  have sent : ((dispatch event).on stream).value.2.unacknowledged = stream.unacknowledged := by
    rw [dispatch, Action.value_on_bind]
    rcases appended : (stream.codec.append event []).value with ⟨_ | _, frames⟩
    · rw [value_sendEvent_of_error appended]
    · rw [value_sendEvent_of_ok appended]
      rcases (stream.filter.send frames).value with ⟨_ | _, _⟩ <;> rfl
  rw [dispatched] at sent
  exact sent

/-- An event whose frames exist is sent on a connection that can be written to. -/
theorem ok_of_dispatched
    {count : Nat}
    {frames : Bytes}
    (appended : (stream.codec.append event []).value = (.ok count, frames))
    (some : frames ≠ [])
    (writable : stream.filter.connection.Writable) :
    result = .ok () := by
  rw [value_dispatch_of_writable appended some writable] at dispatched
  exact (congrArg Prod.fst dispatched).symm

end Dispatching

/-- An event that is read too early to be acknowledged is counted and returned. -/
theorem Framed.value_read_of_early
    (framed : stream.Framed)
    (awaited :
      Awaited (judgeEvent stream.codec) .closed .forEvent stream parcels
        (.done (.record record)) received)
    (early :
      ¬ (0 < stream.config.ackLimit ∧ stream.config.ackLimit ≤ stream.unacknowledged + 1)) :
    stream.read.value =
      (.done (.record record), { received with unacknowledged := stream.unacknowledged + 1 }) := by
  obtain ⟨sameConfig, -, -, sameCount, -⟩ := awaited.uncounted
  rw [← sameConfig, ← sameCount] at early
  rw [framed.value_read, value_readFramed awaited, conclude, value_countRead_of_early early,
    sameCount]

/-- An event that it is time to acknowledge is returned if that succeeds. -/
theorem Framed.value_read_of_due
    (framed : stream.Framed)
    (awaited :
      Awaited (judgeEvent stream.codec) .closed .forEvent stream parcels
        (.done (.record record)) received)
    (due : 0 < stream.config.ackLimit ∧ stream.config.ackLimit ≤ stream.unacknowledged + 1)
    (dispatched :
      ((dispatch (.record (Acknowledgement.mk (stream.unacknowledged + 1)).toRecord)).on
        { received with unacknowledged := 0 }).value = (result, next)) :
    stream.read.value =
      (match result with
        | .ok _ => .done (.record record)
        | .error error => .failed error, next) := by
  obtain ⟨sameConfig, sameCoarse, -, sameCount, -⟩ := awaited.uncounted
  rw [← sameConfig, ← sameCount] at due
  rw [← sameCount] at dispatched
  have owes : ¬ (received.coarse = true ∨ received.unacknowledged + 1 = 0) := by
    rw [sameCoarse, framed.framed]
    rintro (coarse | none)
    · exact nomatch coarse
    · rw [none] at due
      exact absurd (UInt32.lt_of_lt_of_le due.1 due.2) (UInt32.lt_irrefl 0)
  rw [framed.value_read, value_readFramed awaited, conclude, value_countRead_of_due due,
    @value_acknowledge_of_some { received with unacknowledged := received.unacknowledged + 1 } owes,
    dispatched]
  cases result <;> rfl

/-- Waiting in vain returns nothing and counts nothing. -/
theorem Framed.value_read_of_nothing
    {outcome : Outcome Event}
    (framed : stream.Framed)
    (awaited :
      Awaited (judgeEvent stream.codec) .closed .forEvent stream parcels outcome received)
    (nothing : ∀ event, outcome ≠ .done event) :
    stream.read.value = (outcome, received) := by
  rw [framed.value_read, value_readFramed awaited]
  cases outcome with
  | done event => exact absurd rfl (nothing event)
  | failed _ => rfl
  | blocked _ => rfl

/-- The events that are returned are those that the log says are. -/
theorem Tallies.records_eq
    (tallies : Tallies stream incident entries)
    (framed : stream.Framed) :
    (stream.handle incident).1.records = entries.filterMap Tally.returned? := by
  have reading : (stream.handle (.call .read)).1.records = stream.read.value.1.records := rfl
  cases tallies with
  | takes awaited early =>
      rw [reading, framed.value_read_of_early awaited early]
      rfl
  | @takesLast _ _ _ _ result awaited due dispatched =>
      rw [reading, framed.value_read_of_due awaited due dispatched]
      cases result <;> rfl
  | @takesNothing _ outcome _ awaited nothing =>
      rw [reading, framed.value_read_of_nothing awaited nothing]
      cases outcome with
      | done event => exact absurd rfl (nothing event)
      | failed _ => rfl
      | blocked _ => rfl
  | reports _ _ => rfl
  | owesNothing _ => rfl
  | other noRead noReport => exact (framed.abides_handle noRead noReport).1

/-- The log goes on as the counter does. -/
theorem Tallies.tallied
    (tallies : Tallies stream incident entries)
    (framed : stream.Framed)
    (tallied : Tallied stream.config.ackLimit log stream.unacknowledged)
    (prompt : stream.Prompt) :
    let next := (stream.handle incident).2
    Tallied stream.config.ackLimit (log ++ entries) next.unacknowledged ∧ next.Prompt := by
  intro next
  cases tallies with
  | takes awaited early =>
      have left : next = stream.read.value.2 := rfl
      rw [framed.value_read_of_early awaited early] at left
      rw [Prompt, left, awaited.uncounted.1]
      exact ⟨tallied.takes prompt _ _,
        fun limited => UInt32.not_le.mp fun reached => early ⟨limited, reached⟩⟩
  | @takesLast _ record _ last result awaited due dispatched =>
      have left : next = last :=
        congrArg Prod.snd (framed.value_read_of_due awaited due dispatched)
      have none : next.unacknowledged = 0 := by
        rw [left]
        exact unacknowledged_of_dispatched dispatched
      have extended := (tallied.takes prompt record result.isOk).reports result
      rw [List.append_assoc] at extended
      rw [Prompt, none]
      exact ⟨extended, fun limited => limited⟩
  | takesNothing awaited nothing =>
      have left : next = stream.read.value.2 := rfl
      rw [framed.value_read_of_nothing awaited nothing] at left
      obtain ⟨sameConfig, -, -, sameCount, -⟩ := awaited.uncounted
      rw [Prompt, left, sameConfig, sameCount, List.append_nil]
      exact ⟨tallied, prompt⟩
  | @reports last result owing dispatched =>
      have owes : ¬ (stream.coarse = true ∨ stream.unacknowledged = 0) := by
        rw [framed.framed]
        exact fun none => none.elim nofun owing
      have left : next = last :=
        congrArg Prod.snd ((value_acknowledge_of_some owes).trans dispatched)
      have none : next.unacknowledged = 0 := by
        rw [left]
        exact unacknowledged_of_dispatched dispatched
      rw [Prompt, none]
      exact ⟨tallied.reports result, fun limited => limited⟩
  | owesNothing nothing =>
      have left : next = stream :=
        congrArg Prod.snd (value_acknowledge_of_nothing (.inr nothing))
      rw [left, List.append_nil]
      exact ⟨tallied, prompt⟩
  | other noRead noReport =>
      obtain ⟨-, ⟨_, _, left⟩, -⟩ := framed.abides_handle noRead noReport
      have left : next = _ := left
      rw [left, List.append_nil]
      exact ⟨tallied, prompt⟩

/-- On a connection that can be written to no acknowledgement fails. -/
theorem Tallies.succeeds
    (tallies : Tallies stream incident entries)
    (framed : stream.Framed)
    (writable : stream.filter.connection.Writable) :
    ∀ entry ∈ entries, entry.Succeeds := by
  have appends (count : UInt32) :=
    Codec.value_append_acknowledgement framed.standard ⟨count⟩ []
  cases tallies with
  | takes _ _ => exact List.forall_mem_singleton.mpr rfl
  | takesLast awaited _ dispatched =>
      obtain ⟨-, -, sameCodec, -, stays⟩ := awaited.uncounted
      rw [← sameCodec] at appends
      obtain ⟨_, appended⟩ := appends (stream.unacknowledged + 1)
      obtain rfl :=
        ok_of_dispatched dispatched appended (Frame.Parcel.wire_ne_nil _) (stays writable)
      exact List.forall_mem_cons.mpr ⟨rfl, List.forall_mem_singleton.mpr rfl⟩
  | takesNothing _ _ => exact nofun
  | reports _ dispatched =>
      obtain ⟨_, appended⟩ := appends stream.unacknowledged
      exact List.forall_mem_singleton.mpr
        (ok_of_dispatched dispatched appended (Frame.Parcel.wire_ne_nil _) writable)
  | owesNothing _ => exact nofun
  | other _ _ => exact nofun

variable {incidents : List Incident}

theorem TalliesAll.records_eq
    (tallies : TalliesAll stream incidents log)
    (framed : stream.Framed) :
    (stream.handleAll incidents).1.flatMap (fun entry => entry.2.records) =
      log.filterMap Tally.returned? := by
  induction tallies with
  | nil _ => rfl
  | cons first _ inductionHypothesis =>
      rw [handleAll, List.flatMap_cons, List.filterMap_append, first.records_eq framed,
        inductionHypothesis (framed.handle _).1]

theorem TalliesAll.tallied
    {limit : UInt32}
    {before : List Tally}
    (tallies : TalliesAll stream incidents log)
    (framed : stream.Framed)
    (tallied : Tallied limit before stream.unacknowledged)
    (prompt : stream.Prompt)
    (same : stream.config.ackLimit = limit) :
    Tallied limit (before ++ log) (stream.handleAll incidents).2.unacknowledged := by
  induction tallies generalizing before with
  | nil _ =>
      rw [List.append_nil]
      exact tallied
  | cons first _ inductionHypothesis =>
      subst same
      obtain ⟨framedNext, sameConfig, -⟩ := framed.handle _
      obtain ⟨talliedNext, promptNext⟩ := first.tallied framed tallied prompt
      rw [handleAll, ← List.append_assoc]
      exact inductionHypothesis framedNext talliedNext promptNext
        (congrArg StreamConfig.ackLimit sameConfig)

theorem TalliesAll.succeeds
    (tallies : TalliesAll stream incidents log)
    (framed : stream.Framed)
    (writable : stream.filter.connection.Writable)
    (keep : ∀ incident ∈ incidents, incident.keepsWritable = true) :
    ∀ entry ∈ log, entry.Succeeds := by
  induction tallies with
  | nil _ => exact nofun
  | cons first _ inductionHypothesis =>
      obtain ⟨keeps, keepLater⟩ := List.forall_mem_cons.mp keep
      obtain ⟨framedNext, -, stays⟩ := framed.handle _
      rw [List.forall_mem_append]
      exact ⟨first.succeeds framed writable,
        inductionHypothesis framedNext (stays keeps writable) keepLater⟩

/--
However a stream is used and whatever arrives, the counter holds how many events
have been read since a count was last sent or that failed, and so does every
count that is sent, up to the width of the counter.  With a limit there are
never more of them than the limit, so that nothing overflows.  As long as the
connection can be written to every event that is counted is returned and every
count is sent.
-/
theorem acknowledgements_counted
    (framed : stream.Framed)
    (fresh : stream.unacknowledged = 0)
    (incidents : List Incident) :
    (∃ log, TalliesAll stream incidents log) ∧
      ∀ log, TalliesAll stream incidents log →
        let handled := stream.handleAll incidents
        handled.1.flatMap (fun entry => entry.2.records) = log.filterMap Tally.returned? ∧
          handled.2.unacknowledged.toNat = Tally.owed log % 2 ^ 32 ∧
          (∀ before count result,
            before ++ [.reports count result] <+: log →
              count.toNat = Tally.owed before % 2 ^ 32) ∧
          (0 < stream.config.ackLimit →
            ∀ before, before <+: log → Tally.owed before ≤ stream.config.ackLimit.toNat) ∧
          (stream.filter.connection.Writable →
            (∀ incident ∈ incidents, incident.keepsWritable = true) →
              ∀ entry ∈ log, entry.Succeeds) := by
  refine ⟨exists_talliesAll stream incidents, fun log tallies => ?_⟩
  have prompt : stream.Prompt := by
    rw [Prompt, fresh]
    exact fun limited => limited
  have start : Tallied stream.config.ackLimit [] stream.unacknowledged := by
    rw [fresh]
    exact .nil _
  have tallied := tallies.tallied framed start prompt rfl
  exact ⟨tallies.records_eq framed, tallied.count, tallied.reported, tallied.bounded,
    tallies.succeeds framed⟩

end Counting

section Samples

/-- A record arrives and is read. -/
def tick : List Incident :=
  [.arrival tickParcel.wire, .call .read]

/-- A stream that acknowledges every event owes one at most, and sends what it owes. -/
theorem acknowledgements_counted_eager :
    let incidents := tick ++ tick
    (eager.Framed ∧ eager.unacknowledged = 0) ∧
      ∃ log,
        TalliesAll eager incidents log ∧
          (∀ before, before <+: log → Tally.owed before ≤ 1) ∧
          ∀ entry ∈ log, entry.Succeeds := by
  intro incidents
  obtain ⟨⟨log, tallies⟩, counted⟩ := acknowledgements_counted framed_eager rfl incidents
  obtain ⟨-, -, -, bounded, succeed⟩ := counted log tallies
  exact ⟨⟨framed_eager, rfl⟩, log, tallies, bounded (by decide), succeed ⟨rfl, rfl⟩ (by decide)⟩

/-- A stream that acknowledges only when it is told to. -/
def reticent : Stream :=
  (onConnection (.fresh ⟨1⟩) Codec.sampleWriter
    { StreamConfig.default with negotiate := false, ackLimit := 0 }).value

/-- Such a stream, with no event left to be read. -/
structure CaughtUp (stream : Stream) : Prop where
  framed : stream.Framed
  same : stream.codec = reticent.codec
  unlimited : stream.config.ackLimit = 0
  holds : stream.decoder.Holds []
  running : stream.ended = false
  disabled : stream.filter.enabled = false
  nothing : stream.filter.connection.inbox = []
  writable : stream.filter.connection.Writable

theorem caughtUp_reticent : reticent.CaughtUp where
  framed := ⟨rfl, rfl, rfl⟩
  same := rfl
  unlimited := rfl
  holds := .fresh _ _
  running := rfl
  disabled := rfl
  nothing := rfl
  writable := ⟨rfl, rfl⟩

variable {stream : Stream}

/-- The record is returned and counted, and nothing is sent. -/
theorem CaughtUp.tick (caughtUp : stream.CaughtUp) :
    let handled := stream.handleAll tick
    handled.1.map Prod.snd = [.nothing, .handed (.done (.record Codec.tickSchema.blank))] ∧
      handled.2.CaughtUp ∧
      handled.2.unacknowledged = stream.unacknowledged + 1 ∧
      handled.2.filter.connection.outbox = stream.filter.connection.outbox := by
  let arrived := (stream.handle (.arrival tickParcel.wire)).2
  have framed : arrived.Framed := (caughtUp.framed.handle _).1
  obtain ⟨idle, decoded, waiting, -⟩ := caughtUp.holds.decode_nil stream.ended
  obtain ⟨used, returned, empty, -⟩ :=
    (@Frame.Decoder.Holds.push _ _ waiting [tickParcel]
      (List.forall_mem_singleton.mpr (Nat.zero_le _))).decode_cons stream.ended
  rw [List.flatMap_cons, List.flatMap_nil, List.append_nil] at returned
  have inbox : arrived.filter.connection.inbox = [tickParcel.wire] :=
    congrArg (· ++ [tickParcel.wire]) caughtUp.nothing
  have received := @Filter.value_receive_of_disabled arrived.filter caughtUp.disabled
  rw [inbox] at received
  have known : arrived.codec.userRecord? tickParcel = some Codec.tickSchema.blank :=
    (congrArg (·.userRecord? tickParcel) caughtUp.same).trans rfl
  have awaited :=
    @Awaited.arrived _ _ .closed .forEvent arrived _ _ _ _ _ _ decoded caughtUp.running received
      (.settled returned (judgeEvent_of_some known))
  have early :
      ¬ (0 < arrived.config.ackLimit ∧ arrived.config.ackLimit ≤ arrived.unacknowledged + 1) := by
    rw [show arrived.config.ackLimit = 0 from caughtUp.unlimited]
    exact fun due => absurd due.1 (UInt32.lt_irrefl 0)
  have read := framed.value_read_of_early awaited early
  have handled :
      stream.handleAll Stream.tick =
        ([(.arrival tickParcel.wire, .nothing), (.call .read, .handed arrived.read.value.1)],
          arrived.read.value.2) :=
    rfl
  rw [handled, read]
  refine ⟨rfl, ?_, rfl, rfl⟩
  exact ⟨⟨framed.negotiated, framed.framed, framed.standard⟩, caughtUp.same, caughtUp.unlimited,
    empty, caughtUp.running, caughtUp.disabled, rfl,
    ⟨caughtUp.writable.unfinished, caughtUp.writable.attended⟩⟩

theorem handleAll_append (stream : Stream) (front back : List Incident) :
    stream.handleAll (front ++ back) =
      ((stream.handleAll front).1 ++ ((stream.handleAll front).2.handleAll back).1,
        ((stream.handleAll front).2.handleAll back).2) := by
  induction front generalizing stream with
  | nil => rfl
  | cons incident later inductionHypothesis =>
      rw [List.cons_append, handleAll, inductionHypothesis]
      rfl

/-- However many records are read, none is acknowledged. -/
theorem CaughtUp.ticks (caughtUp : stream.CaughtUp) (count : Nat) :
    let handled := stream.handleAll (List.replicate count Stream.tick).flatten
    handled.1.flatMap (fun entry => entry.2.records) =
        .replicate count Codec.tickSchema.blank ∧
      handled.2.unacknowledged = stream.unacknowledged + UInt32.ofNat count ∧
      handled.2.filter.connection.outbox = stream.filter.connection.outbox := by
  induction count generalizing stream with
  | zero => exact ⟨rfl, (UInt32.add_zero _).symm, rfl⟩
  | succ count inductionHypothesis =>
      obtain ⟨answers, caughtUpNext, counted, silent⟩ := caughtUp.tick
      obtain ⟨returned, countedLater, silentLater⟩ := inductionHypothesis caughtUpNext
      have first :
          (stream.handleAll Stream.tick).1.flatMap (fun entry => entry.2.records) =
            [Codec.tickSchema.blank] := by
        rw [← List.flatMap_map, answers]
        rfl
      rw [List.replicate_succ, List.flatten_cons, handleAll_append]
      refine ⟨?_, ?_, silentLater.trans silent⟩
      · rw [List.flatMap_append, first, returned]
        rfl
      · rw [countedLater, counted, UInt32.ofNat_add, UInt32.add_assoc, UInt32.add_comm 1]
        rfl

/-- Once an acknowledgement has failed, the next one has nothing to send. -/
theorem CaughtUp.forgets
    (caughtUp : stream.CaughtUp)
    (owing : stream.unacknowledged ≠ 0) :
    let handled := stream.handleAll [.peerDrops, .call .acknowledge, .call .acknowledge]
    handled.1.map Prod.snd =
        [.nothing, .performed (.error (.transport .peerDropped)), .performed (.ok ())] ∧
      handled.2.unacknowledged = 0 ∧
      handled.2.filter.connection.outbox = stream.filter.connection.outbox := by
  let dropped := (stream.handle .peerDrops).2
  have owes : ¬ (dropped.coarse = true ∨ dropped.unacknowledged = 0) := by
    rw [show dropped.coarse = false from caughtUp.framed.framed]
    exact fun none => none.elim nofun owing
  have refused :=
    @value_acknowledge_of_dropped dropped caughtUp.framed.standard owes
      (Bool.eq_false_iff.mp caughtUp.disabled) caughtUp.writable.unfinished rfl
  have nothing := @value_acknowledge_of_nothing { dropped with unacknowledged := 0 } (.inr rfl)
  have handled :
      stream.handleAll [.peerDrops, .call .acknowledge, .call .acknowledge] =
        ([(.peerDrops, .nothing),
            (.call .acknowledge, .performed (acknowledge.on dropped).value.1),
            (.call .acknowledge,
              .performed (acknowledge.on (acknowledge.on dropped).value.2).value.1)],
          (acknowledge.on (acknowledge.on dropped).value.2).value.2) :=
    rfl
  rw [handled, refused, nothing]
  exact ⟨rfl, rfl, rfl⟩

/--
An event has been returned and no acknowledgement has been sent, but the one
that failed is not tried again: nothing is owed.  And when as many events have
been returned as the counter has values, it is as if there had been none.
-/
theorem acknowledgements_miscounted :
    let stranded :=
      reticent.handleAll (tick ++ [.peerDrops, .call .acknowledge, .call .acknowledge])
    let overrun := reticent.handleAll (List.replicate (2 ^ 32) tick).flatten
    (stranded.1.map Prod.snd =
        [.nothing, .handed (.done (.record Codec.tickSchema.blank)), .nothing,
          .performed (.error (.transport .peerDropped)), .performed (.ok ())] ∧
      stranded.2.unacknowledged = 0 ∧
      stranded.2.filter.connection.outbox = []) ∧
      overrun.1.flatMap (fun entry => entry.2.records) =
          .replicate (2 ^ 32) Codec.tickSchema.blank ∧
        overrun.2.unacknowledged = 0 ∧
        overrun.2.filter.connection.outbox = [] := by
  constructor
  · obtain ⟨answers, caughtUp, counted, silent⟩ := caughtUp_reticent.tick
    have one : (reticent.handleAll tick).2.unacknowledged = 1 := counted
    obtain ⟨refused, forgotten, still⟩ := caughtUp.forgets (by rw [one]; decide)
    rw [handleAll_append, List.map_append, answers, refused]
    exact ⟨rfl, forgotten, still.trans silent⟩
  · obtain ⟨returned, counted, silent⟩ := caughtUp_reticent.ticks (2 ^ 32)
    exact ⟨returned, counted.trans (by decide), silent⟩

end Samples

end Stream

end EventWire
