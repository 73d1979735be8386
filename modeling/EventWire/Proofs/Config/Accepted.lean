import EventWire.Config.Reading
import EventWire.Proofs.Compression.Lossless
import EventWire.Proofs.Stream.Agreement
import EventWire.Proofs.Stream.Listening
import EventWire.Proofs.Stream.Narrow

namespace EventWire

/-!
# Settings that are accepted

A document that is accepted leaves some time for a handshake and states a level
that compresses without loss.  Two ends that are set up as it says and accept
each other's record therefore agree on what they offer, in whatever order things
happen between them, and each recognises what the other acknowledges from then
on.  Nothing keeps a document from stating that events must be shorter than the
record; the ends then wait for each other in vain.
-/

theorem Extensions.inter_self (extensions : Extensions) :
    extensions.inter extensions = extensions := by
  rw [inter, Bool.and_self, Bool.and_self]

namespace StreamConfig

theorem isZero_handshakeTimeout_allowHandshake (config : StreamConfig) :
    config.allowHandshake.value.handshakeTimeout.isZero = false := by
  rw [allowHandshake]
  split
  · rfl
  · next some => exact Bool.eq_false_iff.mpr some

/-- Settings leave some time for a handshake once they are corrected. -/
theorem isZero_handshakeTimeout_validated (config : StreamConfig) :
    config.validated.value.handshakeTimeout.isZero = false := by
  rw [validated, Noted.value_bind, Noted.value_bind, Noted.value_bind]
  exact isZero_handshakeTimeout_allowHandshake _

end StreamConfig

namespace BrokerConfig

/-- However a document is read, the settings of a stream in it are corrected if it is accepted. -/
theorem exists_validated_of_accepted
    {read? : String → Option BrokerConfig}
    {document : String}
    {config : BrokerConfig}
    (accepted : (ofTextBy read? document).value = .ok config) :
    ∃ stated : StreamConfig, config.stream = stated.validated.value := by
  rw [ofTextBy] at accepted
  split at accepted
  · exact nomatch accepted
  · next stated _ =>
      cases accepted
      exact ⟨stated.stream, rfl⟩

end BrokerConfig

namespace Ledger

/-- An end has not returned too many events to count, and can acknowledge them in a block. -/
structure Accountable (own : Ledger) : Prop where
  counted : own.returned.length < 2 ^ 32
  compact : (own.toPeer.perform .acknowledge).Compact

end Ledger

namespace Correspondence

/-- What either end acknowledges is recognised at the other. -/
structure Heeds (both : Correspondence) : Prop where
  thither : both.left.Accountable → both.left.Recognised both.right
  hither : both.right.Accountable → both.right.Recognised both.left

theorem Opens.heeds
    {agreed : Extensions}
    {both last : Correspondence}
    (opens : both.Opens agreed)
    (reached : Relation.ReflTransGen (Step Codec.Spares) both last) :
    last.Heeds := by
  have agrees : last.left.Agrees last.right := by
    induction reached with
    | refl => exact opens.agrees
    | tail _ step inductionHypothesis => exact step.agrees inductionHypothesis
  exact ⟨fun able => agrees.recognised able.compact able.counted,
    fun able => agrees.symm.recognised able.compact able.counted⟩

end Correspondence

namespace Equipment

open EventWire.Stream

variable
  {equipment : Equipment}
  {clock : Clock}
  {now : Role → clock.Instant}
  (leftRegistry rightRegistry : Registry)

/-- A stream that takes in nothing as long as its peer's record is too narrow. -/
theorem narrow_stream
    (negotiates : equipment.config.negotiate = true)
    (framed : equipment.config.coarse = false)
    (narrow : equipment.config.maxEventSize < 14)
    (registry : Registry)
    (id : ConnectionId) :
    (equipment.stream registry (.fresh id)).Narrow [] [] where
  undecided := equipment.undecided_stream negotiates framed ⟨rfl, rfl⟩ registry
  narrow := narrow
  decoder := rfl
  running := rfl
  attended := rfl
  inbox := rfl
  outbox := rfl

/-- Two new ends with the same settings, the left of which speaks first. -/
def parley (equipment : Equipment) (leftRegistry rightRegistry : Registry) : Parley :=
  Parley.start leftRegistry rightRegistry equipment equipment .initiator .responder

/-- Such ends negotiate at the same time, each from an instant of its own on. -/
def negotiateTogetherAt
    (equipment : Equipment)
    (clock : Clock)
    (now : Role → clock.Instant)
    (leftRegistry rightRegistry : Registry) :
    Option ((Outcome Extensions × Stream) × (Outcome Extensions × Stream)) :=
  (negotiateBothAt clock (now .initiator) (now .responder) .initiator .responder
    (equipment.stream leftRegistry Connection.pair.1)
    (equipment.stream rightRegistry Connection.pair.2)).map Noted.value

theorem negotiateTogetherAt_of_timely
    (timely : ∀ role, (clock.later? (now role) equipment.config.handshakeTimeout).isSome) :
    equipment.negotiateTogetherAt clock now leftRegistry rightRegistry =
      some
        (negotiateBoth .initiator .responder (equipment.stream leftRegistry Connection.pair.1)
          (equipment.stream rightRegistry Connection.pair.2)).value := by
  rw [negotiateTogetherAt, negotiateBothAt_of_timely (timely .initiator) (timely .responder)]
  rfl

/--
Two new ends with the same settings succeed.  In whatever order things happen
between them their calls converge on what they offer, and this does not go on
for ever.  When they call at the same time both calls return that, and unless
opaque octets are carried from then on, each end recognises what the other
acknowledges, however they are used.
-/
structure Succeeds
    (equipment : Equipment)
    (clock : Clock)
    (now : Role → clock.Instant)
    (leftRegistry rightRegistry : Registry) : Prop where
  converges :
    ∀ parley,
      Relation.ReflTransGen (Parley.Step clock (now .initiator) (now .responder))
          (equipment.parley leftRegistry rightRegistry) parley →
        parley.Converges clock (now .initiator) (now .responder) equipment.config.advertised
  ends :
    ∀ run : Nat → Parley,
      run 0 = equipment.parley leftRegistry rightRegistry →
        ¬ ∀ n, Parley.Step clock (now .initiator) (now .responder) (run n) (run (n + 1))
  agrees :
    ∃ leftEnd rightEnd,
      equipment.negotiateTogetherAt clock now leftRegistry rightRegistry =
          some
            ((.done equipment.config.advertised, leftEnd),
              (.done equipment.config.advertised, rightEnd)) ∧
        (equipment.config.advertiseCoarse = false →
          ∀ last,
            Relation.ReflTransGen (Correspondence.Step Codec.Spares)
                (Correspondence.between leftEnd rightEnd) last →
              last.Heeds)

/-- Two new ends wait for each other in vain: nothing is under way, and going on is no use. -/
def Stalls
    (equipment : Equipment)
    (clock : Clock)
    (now : Role → clock.Instant)
    (leftRegistry rightRegistry : Registry) : Prop :=
  ∃ leftEnd rightEnd,
    equipment.negotiateTogetherAt clock now leftRegistry rightRegistry =
        some ((.blocked .forRecord, leftEnd), (.blocked .forRecord, rightEnd)) ∧
      exchange leftEnd rightEnd = (leftEnd, rightEnd) ∧
      ∀ stream ∈ [leftEnd, rightEnd],
        ∀ role,
          (stream.resumeHandshake role (.blocked .forRecord)).value = (.blocked .forRecord, stream)

section Outcome

variable
  (negotiates : equipment.config.negotiate = true)
  (framed : equipment.config.coarse = false)
  (timely : ∀ role, (clock.later? (now role) equipment.config.handshakeTimeout).isSome)
include negotiates framed timely

theorem succeeds_of_accepts
    (accepts : 14 ≤ equipment.config.maxEventSize)
    (lossless : equipment.compressor.Lossless) :
    equipment.Succeeds clock now leftRegistry rightRegistry := by
  have conserved :=
    Parley.conserved_start leftRegistry rightRegistry .initiator .responder negotiates negotiates
      framed framed accepts accepts
  refine ⟨fun parley reached => ?_, fun run begins => conserved.terminates run begins, ?_⟩
  · rw [← equipment.config.advertised.inter_self]
    exact
      (conserved.of_reachable reached).converges (.inl rfl) (timely .initiator) (timely .responder)
  obtain ⟨leftEnd, rightEnd, negotiated, -⟩ :=
    Stream.unused_of_negotiateBoth
      (equipment.undecided_stream negotiates framed ⟨rfl, rfl⟩ leftRegistry)
      (equipment.undecided_stream negotiates framed ⟨rfl, rfl⟩ rightRegistry)
      (equipment.rests_stream accepts leftRegistry ⟨1⟩)
      (equipment.rests_stream accepts rightRegistry ⟨2⟩)
  refine ⟨leftEnd, rightEnd, ?_, fun events last reached => ?_⟩
  · rw [equipment.negotiateTogetherAt_of_timely leftRegistry rightRegistry timely,
      ← equipment.config.advertised.inter_self]
    exact congrArg some negotiated
  · have carries :
        (equipment.config.advertised.inter equipment.config.advertised).coarse = false := by
      rw [Extensions.inter_self]
      exact events
    obtain ⟨_, _, negotiatedAlike, opens⟩ :=
      Correspondence.exists_opens_of_negotiateBoth ⟨framed, framed⟩ ⟨accepts, accepts⟩ lossless
        lossless leftRegistry rightRegistry ⟨negotiates, negotiates⟩ carries
    cases negotiated.symm.trans negotiatedAlike
    exact opens.heeds reached

theorem stalls_of_narrow
    (narrow : equipment.config.maxEventSize < 14) :
    equipment.Stalls clock now leftRegistry rightRegistry := by
  obtain ⟨leftEnd, rightEnd, blocked, narrowLeft, narrowRight⟩ :=
    blocked_of_negotiateBoth
      (equipment.narrow_stream negotiates framed narrow leftRegistry ⟨1⟩)
      (equipment.narrow_stream negotiates framed narrow rightRegistry ⟨2⟩)
  refine ⟨leftEnd, rightEnd, ?_, narrowLeft.exchange_eq narrowRight, ?_⟩
  · rw [equipment.negotiateTogetherAt_of_timely leftRegistry rightRegistry timely]
    exact congrArg some blocked
  · exact List.forall_mem_cons.mpr
      ⟨narrowLeft.stays, List.forall_mem_singleton.mpr narrowRight.stays⟩

end Outcome

end Equipment

namespace BrokerConfig

section Accepted

variable {document : String} {config : BrokerConfig}

/--
Settings that are accepted, by whatever reader, and call for a handshake leave
some time for it.  Two ends that are set up as they say succeed if they take in
events as long as the record; otherwise they wait for each other in vain.
-/
theorem handshake_of_accepted
    {read? : String → Option BrokerConfig}
    (accepted : (ofTextBy read? document).value = .ok config)
    (negotiates : config.stream.negotiate = true)
    (framed : config.stream.coarse = false)
    {zlib : Nat → Compressor}
    (lossless : ∀ level ≤ StreamConfig.maxCompressionLevel, (zlib level).Lossless)
    {clock : Clock}
    {now : Role → clock.Instant}
    (timely : ∀ role, (clock.later? (now role) config.stream.handshakeTimeout).isSome)
    (leftRegistry rightRegistry : Registry) :
    let equipment : Equipment := ⟨config.stream, zlib config.stream.compressionLevel⟩
    config.stream.handshakeTimeout.isZero = false ∧
      (14 ≤ config.stream.maxEventSize →
        equipment.Succeeds clock now leftRegistry rightRegistry) ∧
      (config.stream.maxEventSize < 14 →
        equipment.Stalls clock now leftRegistry rightRegistry) := by
  intro equipment
  obtain ⟨stated, corrected⟩ := exists_validated_of_accepted accepted
  have level : config.stream.compressionLevel ≤ StreamConfig.maxCompressionLevel := by
    rw [corrected]
    exact stated.compressionLevel_validated
  refine ⟨?_, fun accepts => ?_, fun narrow => ?_⟩
  · rw [corrected]
    exact stated.isZero_handshakeTimeout_validated
  · exact equipment.succeeds_of_accepts leftRegistry rightRegistry negotiates framed timely accepts
      (lossless _ level)
  · exact equipment.stalls_of_narrow leftRegistry rightRegistry negotiates framed timely narrow

end Accepted

section Samples

/-- Two ends that offer compression, with too high a level and the least limit that will do. -/
theorem handshake_of_accepted_compressing :
    let document :=
      "\x7b\"stream\":\x7b\"compression\":true,\"compression_level\":12," ++
        "\"max_event_size\":14\x7d\x7d"
    let config :=
      { BrokerConfig.default with
        stream :=
          { StreamConfig.default with
            compression := true, compressionLevel := 9, maxEventSize := 14 } }
    let now : Role → Clock.monotonic.Instant := fun _ => Clock.origin
    let equipment : Equipment := ⟨config.stream, Compression.Zlib.compressor 9⟩
    (ofText document).value = .ok config ∧
      config.stream.negotiate = true ∧
      config.stream.coarse = false ∧
      (∀ level ≤ StreamConfig.maxCompressionLevel,
        (Compression.Zlib.compressor level).Lossless) ∧
      (∀ role, (Clock.monotonic.later? (now role) config.stream.handshakeTimeout).isSome) ∧
      equipment.Succeeds Clock.monotonic now .empty .empty := by
  intro document config now equipment
  have accepted : (ofText document).value = .ok config := by decide +kernel
  have lossless (level : Nat) (_ : level ≤ StreamConfig.maxCompressionLevel) :=
    Compression.Zlib.lossless_compressor level
  have timely (role : Role) :
      (Clock.monotonic.later? (now role) config.stream.handshakeTimeout).isSome := by
    cases role <;> decide +kernel
  obtain ⟨-, succeeds, -⟩ :=
    handshake_of_accepted accepted rfl rfl lossless timely .empty .empty
  exact ⟨accepted, rfl, rfl, lossless, timely, succeeds (by decide)⟩

/-- Settings under which no event is as long as the record. -/
def narrowSample : BrokerConfig :=
  { BrokerConfig.default with stream := { StreamConfig.default with maxEventSize := 13 } }

/-- Settings under which nothing but octets is carried after the handshake. -/
def coarseSample : BrokerConfig :=
  { BrokerConfig.default with stream := { StreamConfig.default with advertiseCoarse := true } }

/-- The two ends of a new connection negotiate, set up as the settings say. -/
def negotiated
    (config : BrokerConfig) :
    (Outcome Extensions × Stream) × Outcome Extensions × Stream :=
  (Stream.negotiateBoth .initiator .responder
    (Stream.onConnection Connection.pair.1 .empty config.stream).value
    (Stream.onConnection Connection.pair.2 .empty config.stream).value).value

/--
Settings are accepted with which a handshake runs out of time, because neither
end takes in the record, and settings with which it leads to ends that never
acknowledge anything.
-/
theorem accepted_without_handshake :
    ((ofText "\x7b\"stream\":\x7b\"max_event_size\":13\x7d\x7d").value = .ok narrowSample ∧
        narrowSample.stream.negotiate = true ∧
        narrowSample.stream.coarse = false ∧
        let ((left, leftEnd), (right, rightEnd)) := negotiated narrowSample
        left.expire = .error (.protocol .handshakeTimeout) ∧
          right.expire = .error (.protocol .handshakeTimeout) ∧
          Stream.exchange leftEnd rightEnd = (leftEnd, rightEnd)) ∧
      ((ofText "\x7b\"stream\":\x7b\"advertise_coarse\":true\x7d\x7d").value = .ok coarseSample ∧
        coarseSample.stream.negotiate = true ∧
        coarseSample.stream.coarse = false ∧
        let ((left, leftEnd), (right, rightEnd)) := negotiated coarseSample
        left = .done coarseSample.stream.advertised ∧
          right = .done coarseSample.stream.advertised ∧
          (Stream.acknowledge.on leftEnd).value = (.ok (), leftEnd) ∧
          (Stream.acknowledge.on rightEnd).value = (.ok (), rightEnd)) := by
  refine ⟨⟨by decide +kernel, rfl, rfl, ?_⟩, by decide +kernel, rfl, rfl, ?_⟩
  · let equipment : Equipment := ⟨narrowSample.stream, Compression.Zlib.compressor 6⟩
    obtain ⟨leftEnd, rightEnd, blocked, narrowLeft, narrowRight⟩ :=
      Stream.blocked_of_negotiateBoth
        (equipment.narrow_stream rfl rfl (by decide) .empty ⟨1⟩)
        (equipment.narrow_stream rfl rfl (by decide) .empty ⟨2⟩)
    rw [show negotiated narrowSample = _ from blocked]
    exact ⟨rfl, rfl, narrowLeft.exchange_eq narrowRight⟩
  · let equipment : Equipment := ⟨coarseSample.stream, Compression.Zlib.compressor 6⟩
    obtain ⟨leftEnd, rightEnd, agreed, unusedLeft, unusedRight, -⟩ :=
      Stream.unused_of_negotiateBoth
        (equipment.undecided_stream rfl rfl ⟨rfl, rfl⟩ .empty)
        (equipment.undecided_stream rfl rfl ⟨rfl, rfl⟩ .empty)
        (equipment.rests_stream (by decide) .empty ⟨1⟩)
        (equipment.rests_stream (by decide) .empty ⟨2⟩)
    rw [show negotiated coarseSample = _ from agreed]
    exact ⟨rfl, rfl, Stream.value_acknowledge_of_nothing (.inl unusedLeft.inForce.unframed),
      Stream.value_acknowledge_of_nothing (.inl unusedRight.inForce.unframed)⟩

end Samples

end BrokerConfig

end EventWire
