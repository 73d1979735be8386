import EventWire.Proofs.Stream.Uncompressed

namespace EventWire

/-!
# Delivery from end to end

What is written at one end of a connection is returned at the other, in order
and nothing twice, whatever is done at both ends and however what is sent is
cut; and once it has all been sent and received nothing is missing.  This is
said of the events that a user can expect to get back: not of those which the
protocol itself sends, and not of records other than those that the registry
makes for their type.
-/

open EventWire.Frame VersionRecord

/--
What one end has returned is, in order, the first of the users' events that the
other has accepted; it is all of them when a read finds the stream closed, or
finds nothing although all has been flushed and carried.
-/
structure Delivered (registry : Registry) (writer reader : Peer) : Prop where
  inOrder :
    List.Forall₂ registry.Delivers
      ((writer.written.filterMap Event.userRecord?).take reader.returned.length) reader.returned
  whole :
    reader.stream.negotiated.isSome = true →
      reader.stream.read.value.1 = .failed .closed ∨
          reader.stream.read.value.1 = .blocked .forEvent ∧
            writer.flushed = true ∧ writer.stream.filter.connection.outbox = [] →
        List.Forall₂ registry.Delivers (writer.written.filterMap Event.userRecord?)
          reader.returned

namespace Flows

variable
  {registry : Registry} {limit : Nat} {agreed : Extensions} {compressing : Bool}
  {lead : List Bytes} {writer reader : Peer}

theorem inOrder (flows : Flows registry limit compressing lead writer reader) :
    List.Forall₂ registry.Delivers
      ((writer.written.filterMap Event.userRecord?).take reader.returned.length)
      reader.returned := by
  obtain ⟨_, _, _, -, -, delivered⟩ := flows.accounted
  have first := List.forall₂_take reader.returned.length delivered
  rwa [List.take_left] at first

theorem delivered_of_converses
    (flows : Flows registry limit agreed.compression [] writer reader)
    (converses : reader.Converses agreed) :
    Delivered registry writer reader where
  inOrder := flows.inOrder
  whole _ := flows.returned_of_read converses.talks.inForce.compressing converses.talks.isFramed

theorem delivered_of_waits
    {role : Role}
    {own offered : Extensions}
    (flows : Flows registry limit compressing lead writer reader)
    (waits : reader.Waits role own offered) :
    Delivered registry writer reader where
  inOrder := flows.inOrder
  whole negotiated := by
    rw [waits.undecided.undecided] at negotiated
    exact nomatch negotiated

end Flows

/--
However two ends converse, what is written at either is returned at the other,
in order and nothing twice, and all of it once nothing is on its way.
-/
theorem Setting.delivered
    {setting : Setting}
    {conversation : Conversation}
    (sound : setting.Sound)
    (reached :
      Relation.ReflTransGen (setting.Step setting.registry.Welcomes) setting.opening
        conversation) :
    Delivered setting.registry conversation.left conversation.right ∧
      Delivered setting.registry conversation.right conversation.left := by
  cases stage_of_reachable sound reached with
  | uncalled _ left right thither hither _ _ =>
      exact ⟨thither.delivered_of_waits right, hither.delivered_of_waits left⟩
  | called _ left right thither hither _ =>
      exact ⟨thither.delivered_of_waits right, hither.delivered_of_waits left⟩
  | answered _ left right =>
      exact ⟨right.hither.delivered_of_converses right.converses,
        right.thither.delivered_of_waits left⟩
  | settled left right =>
      exact ⟨left.thither.delivered_of_converses right,
        left.hither.delivered_of_converses left.converses⟩

namespace Setting

/-- Two ends that use the same registry, and everything else as it is by default. -/
def standard (registry : Registry) : Setting where
  registry := registry
  left := ⟨StreamConfig.default, ⟨id, some⟩⟩
  right := ⟨StreamConfig.default, ⟨id, some⟩⟩

theorem roomy_default : 14 ≤ StreamConfig.default.maxEventSize := by
  decide

theorem sound_standard (registry : Registry) : (standard registry).Sound where
  left := ⟨rfl, rfl, rfl, roomy_default⟩
  right := ⟨rfl, rfl, rfl, roomy_default⟩
  framed := rfl
  thither _ := rfl
  hither _ := rfl

theorem numeric_sample (number : Binary64) (member : .double number ∈ Codec.sample.values) :
    number.isNaN = false := by
  obtain rfl : number = ⟨0⟩ := by simpa [Codec.sample] using member
  rfl

/-- A record is written and sent, and the read that follows does not miss it. -/
theorem delivered_sample :
    let setting := standard Codec.sampleWriter
    setting.Sound ∧
      ∃ conversation,
        Relation.ReflTransGen (setting.Step setting.registry.Welcomes) setting.opening
            conversation ∧
          conversation.left.written = [.record Codec.sample] ∧
          conversation.right.returned = [] ∧
          conversation.right.stream.read.value.1 ≠ .blocked .forEvent ∧
          Delivered setting.registry conversation.left conversation.right ∧
          Delivered setting.registry conversation.right conversation.left := by
  intro setting
  have sound := sound_standard Codec.sampleWriter
  have encoded :
      List.Forall₂ setting.registry.Encodes [.record Codec.sample]
        [⟨⟨⟨7, 1⟩, ⟨3, 4⟩⟩, [0, 0, 0, 5, 117, 112, 0, 48, 0]⟩] := by
    refine .cons ?_ .nil
    intro codec shared _
    refine ⟨rfl, ?_⟩
    rw [Codec.registryFor_of_ordinary (by decide), shared]
    exact Codec.serialize_sample
  have welcome : ∀ event ∈ [.record Codec.sample], setting.registry.Welcomes event := by
    rw [List.forall_mem_singleton]
    rintro _ ⟨rfl⟩
    constructor
    · rintro _ ⟨rfl⟩
      exact ⟨rfl, rfl⟩
    · exact numeric_sample
  obtain ⟨conversation, reached, ready, written, flushed, outbox, returned⟩ :=
    exists_sent sound rfl encoded welcome (by decide)
  have delivered := delivered sound reached
  refine ⟨sound, conversation, reached, written, returned, ?_, delivered⟩
  intro blocked
  have all :=
    delivered.1.whole ready.right.talks.isFramed.negotiated (.inr ⟨blocked, flushed, outbox⟩)
  rw [written, returned] at all
  exact nomatch all

/-- A registry that starts records of a type from those of another schema. -/
def mistaken : Registry where
  entries :=
    [{ eventType := ⟨7, 9⟩
       name := "Sample"
       blank := Codec.tickSchema.blank
       table := Codec.sampleSchema.table }]
  nodup := by decide

/-- Events that are written without an error, but not returned. -/
def unwelcome : List Event :=
  [.record (Acknowledgement.mk 3).toRecord, .record { Codec.sample with eventType := ⟨7, 9⟩ }]

def unwelcomeParcels : List Parcel :=
  [(Acknowledgement.mk 3).parcel, ⟨⟨⟨7, 9⟩, ⟨3, 4⟩⟩, [0, 0, 0, 5, 117, 112, 0, 48, 0]⟩]

theorem encodes_unwelcome : List.Forall₂ mistaken.Encodes unwelcome unwelcomeParcels := by
  refine .cons ?_ (.cons ?_ .nil)
  · intro codec _ standard
    have registryIsControl :
        codec.registryFor (Event.record (Acknowledgement.mk 3).toRecord).eventType =
          Registry.control.value :=
      standard
    refine ⟨rfl, ?_⟩
    rw [registryIsControl]
    exact Acknowledgement.serialize_toRecord _
  · intro codec shared _
    refine ⟨rfl, ?_⟩
    rw [Codec.registryFor_of_ordinary (by decide), shared]
    rfl

theorem judgeEvent_unwelcome
    {codec : Codec}
    (known : codec.registry = mistaken)
    (standard : codec.control = Registry.control.value) :
    ∀ parcel ∈ unwelcomeParcels, ∀ result,
      (Stream.judgeEvent codec parcel).value ≠ .settled result := by
  intro parcel member result judged
  rcases List.mem_pair.mp member with rfl | rfl
  · cases (Stream.judgeEvent_acknowledgement standard _).symm.trans judged
  · -- A record of the other schema has no place for the first field.
    have unopened :
        (codec.open? ⟨⟨⟨7, 9⟩, ⟨3, 4⟩⟩, [0, 0, 0, 5, 117, 112, 0, 48, 0]⟩).value = none := by
      rw [Codec.open?, Noted.value_bind, Codec.registryFor_of_ordinary (by decide), known]
      rfl
    cases (Stream.judgeEvent_of_unopened unopened).symm.trans judged

/--
Neither an acknowledgement nor a record of a type that is registered for others
is returned, although both are written, sent and received.
-/
theorem not_returned_of_unwelcome :
    let setting := standard mistaken
    let numeric : Event → Prop := fun event =>
      ∀ record number,
        event = .record record → .double number ∈ record.values → number.isNaN = false
    setting.Sound ∧
      ∃ conversation,
        Relation.ReflTransGen (setting.Step numeric) setting.opening conversation ∧
          conversation.left.written = unwelcome ∧
          conversation.left.flushed = true ∧
          conversation.left.stream.filter.connection.outbox = [] ∧
          conversation.right.stream.negotiated = some setting.agreed ∧
          conversation.right.stream.read.value.1 = .blocked .forEvent ∧
          conversation.right.returned = [] := by
  intro setting numeric
  have sound := sound_standard mistaken
  have admitted : ∀ event ∈ unwelcome, numeric event := by
    refine List.forall_mem_cons.mpr ⟨?_, List.forall_mem_singleton.mpr ?_⟩
    · rintro _ number ⟨rfl⟩ member
      exact nomatch List.mem_singleton.mp member
    · rintro _ number ⟨rfl⟩ member
      exact numeric_sample number member
  obtain ⟨conversation, reached, ready, written, flushed, outbox, returned⟩ :=
    exists_sent sound rfl encodes_unwelcome admitted (by decide)
  refine ⟨sound, conversation, reached, written, flushed, outbox,
    ready.right.talks.inForce.negotiated, ?_, returned⟩
  obtain ⟨outcome, last, read, rfl | ⟨parcel, member, result, judged⟩⟩ := ready.read_cases
  · rw [read]
    rfl
  · exact absurd judged
      (judgeEvent_unwelcome ready.known ready.right.talks.standard parcel member result)

end Setting

end EventWire
