import EventWire.Proofs.Frame.Calls
import EventWire.Proofs.Frame.Holding
import EventWire.Proofs.Protocol.Control
import Mathlib.Algebra.GroupWithZero.Nat

namespace EventWire

/-!
# Reports among other frames

An acknowledgement is an event of one frame, and it can stand between the frames
of other events.  When octets are whole frames, the reports in them can be added
up.  A decoder that is given such octets returns every report as an event of its
own, and nothing else that could be taken for one, even when it gives up events
that outgrow its limit or lose their end.
-/

namespace Frame

/-- The whole frames that stand one behind the other at the front of octets. -/
def sequence (octets : Bytes) : List Sealed :=
  match _stands : Sealed.front? octets with
  | none => []
  | some frame => frame :: sequence (octets.drop frame.length)
termination_by octets.length
decreasing_by
  have inside := add_length_le_of_frameAt? (show frameAt? octets 0 = some frame from _stands)
  have positive := frame.length_pos
  rw [List.length_drop]
  omega

theorem sequence_nil : sequence [] = [] := by
  rw [sequence]
  rfl

theorem sequence_cons
    (frame : Sealed)
    (rest : Bytes) :
    sequence (frame.bytes ++ rest) = frame :: sequence rest := by
  rw [sequence]
  split
  · next missing =>
      rw [Sealed.front?_bytes_append] at missing
      exact nomatch missing
  · next other stands =>
      rw [Sealed.front?_bytes_append] at stands
      cases stands
      rw [← Sealed.length_bytes, List.drop_left]

/-- How many events a parcel acknowledges. -/
def Parcel.reported (parcel : Parcel) : Nat :=
  if parcel.identity.eventType = EventType.acknowledgement then
    match parcel.body with
    | first :: second :: third :: fourth :: _ =>
      (BigEndian.decode32 first second third fourth).toNat
    | _ => 0
  else 0

/-- How many events the acknowledgements among whole frames acknowledge. -/
def reportedIn (octets : Bytes) : Nat :=
  ((sequence octets).map fun frame => Parcel.reported ⟨frame.identity, frame.payload⟩).sum

theorem Parcel.reported_eq_zero
    {parcel : Parcel}
    (other : parcel.identity.eventType ≠ EventType.acknowledgement) :
    parcel.reported = 0 :=
  if_neg other

@[simp] theorem Parcel.reported_acknowledgement (acknowledgement : Acknowledgement) :
    acknowledgement.parcel.reported = acknowledgement.count.toNat := by
  change (BigEndian.decode32 _ _ _ _).toNat = _
  rw [BigEndian.decode32_encode32]

@[simp] theorem reportedIn_nil : reportedIn [] = 0 := by
  rw [reportedIn, sequence_nil]
  rfl

theorem reportedIn_cons
    (frame : Sealed)
    (rest : Bytes) :
    reportedIn (frame.bytes ++ rest) =
      Parcel.reported ⟨frame.identity, frame.payload⟩ + reportedIn rest := by
  rw [reportedIn, sequence_cons, List.map_cons, List.sum_cons]
  rfl

theorem reportedIn_eq_zero
    {frames : List Sealed}
    (others : ∀ frame ∈ frames, frame.identity.eventType ≠ EventType.acknowledgement) :
    reportedIn (frames.flatMap Sealed.bytes) = 0 := by
  induction frames with
  | nil => exact reportedIn_nil
  | cons frame rest inductionHypothesis =>
      rw [List.forall_mem_cons] at others
      rw [List.flatMap_cons, reportedIn_cons, inductionHypothesis others.2,
        Parcel.reported_eq_zero others.1]

/-- The frame that carries an acknowledgement. -/
def reportFrame (acknowledgement : Acknowledgement) : Sealed :=
  .last acknowledgement.parcel.identity acknowledgement.parcel.body
    (by exact (by decide : 4 < maxChunk))

theorem bytes_reportFrame (acknowledgement : Acknowledgement) :
    (reportFrame acknowledgement).bytes = acknowledgement.parcel.wire :=
  (Parcel.wire_of_lt _).symm

section Regular

-- The types of events that are not taken for reports.
variable {plain : EventType → Prop}

/-- A frame of an event that is not taken for a report, or the frame of a report. -/
def Sealed.Regular (plain : EventType → Prop) (frame : Sealed) : Prop :=
  plain frame.identity.eventType ∨ ∃ acknowledgement, frame = reportFrame acknowledgement

/-- Octets that are regular frames one behind the other. -/
def Whole (plain : EventType → Prop) (octets : Bytes) : Prop :=
  ∃ frames : List Sealed,
    octets = frames.flatMap Sealed.bytes ∧ ∀ frame ∈ frames, frame.Regular plain

namespace Whole

theorem nil : Whole plain [] :=
  ⟨[], rfl, nofun⟩

theorem append
    {front back : Bytes}
    (first : Whole plain front)
    (second : Whole plain back) :
    Whole plain (front ++ back) := by
  obtain ⟨frames, rfl, regular⟩ := first
  obtain ⟨others, rfl, regularToo⟩ := second
  refine ⟨frames ++ others, List.flatMap_append.symm, fun frame member => ?_⟩
  exact (List.mem_append.mp member).elim (regular frame) (regularToo frame)

theorem report (acknowledgement : Acknowledgement) :
    Whole plain acknowledgement.parcel.wire := by
  refine ⟨[reportFrame acknowledgement], ?_, List.forall_mem_singleton.mpr (.inr ⟨_, rfl⟩)⟩
  rw [List.flatMap_singleton, bytes_reportFrame]

theorem reportedIn_append
    {front : Bytes}
    (whole : Whole plain front)
    (back : Bytes) :
    reportedIn (front ++ back) = reportedIn front + reportedIn back := by
  obtain ⟨frames, rfl, -⟩ := whole
  induction frames with
  | nil => rw [List.flatMap_nil, List.nil_append, reportedIn_nil, Nat.zero_add]
  | cons frame others inductionHypothesis =>
      rw [List.flatMap_cons, List.append_assoc, reportedIn_cons, reportedIn_cons,
        inductionHypothesis, Nat.add_assoc]

end Whole

theorem reportedIn_report (acknowledgement : Acknowledgement) :
    reportedIn acknowledgement.parcel.wire = acknowledgement.count.toNat := by
  rw [← bytes_reportFrame, ← List.append_nil (reportFrame _).bytes, reportedIn_cons,
    reportedIn_nil, Nat.add_zero]
  exact Parcel.reported_acknowledgement acknowledgement

theorem flatten_frames_ne_nil
    (identity : Identity)
    (termination : Termination)
    (body : Bytes) :
    (frames identity termination body).flatten ≠ [] := by
  rw [← map_bytes_carriersOf, carriersOf]
  split <;> exact List.append_ne_nil_of_left_ne_nil (Sealed.bytes_ne_nil _) _

/-- The frames of an event that is not taken for a report are regular and report nothing. -/
theorem whole_frames
    {identity : Identity}
    (ordinary : plain identity.eventType)
    (excluded : ¬ plain EventType.acknowledgement)
    (termination : Termination)
    (body : Bytes) :
    Whole plain (frames identity termination body).flatten ∧
      reportedIn (frames identity termination body).flatten = 0 := by
  have alike : ∀ frame ∈ carriersOf termination identity body, frame.identity = identity :=
    identity_of_mem_carriersOf termination identity body
  have other : identity.eventType ≠ EventType.acknowledgement := fun same =>
    excluded (same ▸ ordinary)
  rw [← map_bytes_carriersOf, ← List.flatMap_def]
  refine ⟨⟨_, rfl, fun frame member => .inl ?_⟩, ?_⟩
  · rw [alike frame member]
    exact ordinary
  · refine reportedIn_eq_zero fun frame member => ?_
    rw [alike frame member]
    exact other

theorem Reassembly.absorb_reportFrame
    {limit : Nat}
    (roomy : 4 ≤ limit)
    (acknowledgement : Acknowledgement) :
    absorb limit none (reportFrame acknowledgement) = ([acknowledgement.parcel], none) := by
  have grown :
      Partial.grow limit ⟨acknowledgement.parcel.identity, [], false⟩
          (reportFrame acknowledgement).payload =
        ⟨acknowledgement.parcel.identity, acknowledgement.parcel.body, false⟩ :=
    Reassembly.grow_of_le (by rw [List.length_nil, Nat.zero_add]; exact roomy)
  have ends : (reportFrame acknowledgement).continues = false := Sealed.continues_last _
  simp only [absorb, ends, Bool.false_eq_true, ↓reduceIte, Option.getD_none]
  rw [show (Partial.fresh (reportFrame acknowledgement).identity) =
    ⟨acknowledgement.parcel.identity, [], false⟩ from rfl, grown]
  rfl

namespace Decoder

/-- A decoder that is only given whole regular frames. -/
structure Orderly (plain : EventType → Prop) (decoder : Decoder) : Prop where
  whole : Whole plain decoder.buffer
  unsearched : decoder.verified = 0
  held : ∀ event ∈ decoder.held, plain event.identity.eventType
  roomy : 4 ≤ decoder.maxEventSize

namespace Orderly

variable {decoder next : Decoder} {skipped : Nat} {frame : Sealed} {deeds : List Deed}
  {result : Option Parcel}

theorem push
    {octets : Bytes}
    (orderly : decoder.Orderly plain)
    (whole : Whole plain octets) :
    (decoder.push octets).Orderly plain where
  whole := orderly.whole.append whole
  unsearched := orderly.unsearched
  held := orderly.held
  roomy := orderly.roomy

/-- The frame that a search finds is the one at the front. -/
theorem front
    {atEnd : Bool}
    (orderly : decoder.Orderly plain)
    (searched : rescan decoder.buffer atEnd decoder.verified = .found skipped frame.header)
    (stands : frameAt? decoder.buffer skipped = some frame) :
    skipped = 0 ∧
      frame.Regular plain ∧
      Whole plain (decoder.buffer.drop frame.length) ∧
      reportedIn decoder.buffer =
        Parcel.reported ⟨frame.identity, frame.payload⟩ +
          reportedIn (decoder.buffer.drop frame.length) := by
  obtain ⟨frames, shape, regular⟩ := orderly.whole
  cases frames with
  | nil =>
      have inside := add_length_le_of_frameAt? stands
      have positive := frame.length_pos
      rw [shape, List.flatMap_nil, List.length_nil] at inside
      omega
  | cons first others =>
      rw [List.flatMap_cons] at shape
      have atFront : Sealed.front? decoder.buffer = some first := by
        rw [shape]
        exact Sealed.front?_bytes_append first _
      have unsearched : decoder.verified < first.length := by
        rw [orderly.unsearched]
        exact first.length_pos
      have found := searched.symm.trans (rescan_of_front? atFront unsearched)
      obtain ⟨rfl, -⟩ := Scan.found.inj found
      obtain rfl : frame = first := Option.some.inj (stands.symm.trans atFront)
      rw [List.forall_mem_cons] at regular
      have behindFrame : decoder.buffer.drop frame.length = others.flatMap Sealed.bytes := by
        rw [shape, ← Sealed.length_bytes, List.drop_left]
      refine ⟨rfl, regular.1, ?_, ?_⟩
      · rw [behindFrame]
        exact ⟨others, rfl, regular.2⟩
      · rw [behindFrame, shape, reportedIn_cons]

/-- Where no frame is found there are no octets. -/
theorem eq_nil
    {atEnd : Bool}
    (orderly : decoder.Orderly plain)
    (unfound :
      ∀ header, rescan decoder.buffer atEnd decoder.verified ≠ .found 0 header) :
    decoder.buffer = [] := by
  obtain ⟨frames, shape, -⟩ := orderly.whole
  cases frames with
  | nil => exact shape
  | cons first others =>
      have atFront : Sealed.front? decoder.buffer = some first := by
        rw [shape, List.flatMap_cons]
        exact Sealed.front?_bytes_append first _
      have unsearched : decoder.verified < first.length := by
        rw [orderly.unsearched]
        exact first.length_pos
      exact absurd (rescan_of_front? atFront unsearched) (unfound _)

/-- A frame is taken for an event that is taken for no report, or is a report. -/
theorem take
    {atEnd : Bool}
    {kept held : Option Partial}
    {parcels : List Parcel}
    {phase : Phase}
    (excluded : ¬ plain EventType.acknowledgement)
    (orderly : decoder.Orderly plain)
    (searched : rescan decoder.buffer atEnd decoder.verified = .found skipped frame.header)
    (stands : frameAt? decoder.buffer skipped = some frame)
    (continued :
      Reassembly.interrupt decoder.termination frame.identity decoder.held = ([], kept))
    (absorbed : Reassembly.absorb decoder.maxEventSize kept frame = (parcels, held)) :
    Orderly plain { decoder.behind skipped frame held with phase := phase } ∧
      (∀ parcel ∈ parcels,
        plain parcel.identity.eventType ∨
          ∃ acknowledgement : Acknowledgement, parcel = acknowledgement.parcel) ∧
      reportedIn decoder.buffer =
        reportedIn (decoder.behind skipped frame held).buffer +
          (parcels.head?.map Parcel.reported).getD 0 := by
  obtain ⟨rfl, regular, behindFrame, reported⟩ := orderly.front searched stands
  have left : (decoder.behind 0 frame held).buffer = decoder.buffer.drop frame.length := by
    rw [behind, Nat.zero_add]
  have wholeBehind : Whole plain (decoder.behind 0 frame held).buffer := by
    rw [left]
    exact behindFrame
  rw [reported, left, Nat.add_comm]
  rcases regular with ordinary | ⟨acknowledgement, rfl⟩
  · have unreported {parcel : Parcel} (same : parcel.identity = frame.identity) :
        parcel.reported = 0 := by
      refine Parcel.reported_eq_zero fun report => excluded ?_
      rw [← report, same]
      exact ordinary
    obtain ⟨delivered, heldAlike⟩ :=
      Reassembly.identity_of_absorb
        (fun _ member => (Reassembly.mem_of_interrupt continued member).2) absorbed
    refine ⟨⟨wholeBehind, rfl, fun event member => ?_, orderly.roomy⟩, fun parcel member => ?_, ?_⟩
    · rw [heldAlike event member]
      exact ordinary
    · rw [delivered parcel member]
      exact .inl ordinary
    · rw [unreported rfl]
      cases parcels with
      | nil => rfl
      | cons parcel others =>
          rw [List.head?_cons, Option.map_some, Option.getD_some,
            unreported (delivered parcel (List.mem_cons_self ..))]
  · -- A report continues no held event, since none of its type is ever held.
    have nothingKept : kept = none := by
      cases kept with
      | none => rfl
      | some event =>
          obtain ⟨held, same⟩ := Reassembly.mem_of_interrupt continued rfl
          have ordinary := orderly.held event held
          rw [same] at ordinary
          exact absurd ordinary excluded
    subst nothingKept
    rw [Reassembly.absorb_reportFrame orderly.roomy] at absorbed
    cases absorbed
    refine ⟨⟨wholeBehind, rfl, fun event held => ?_, orderly.roomy⟩, ?_, rfl⟩
    · cases held
    · exact List.forall_mem_singleton.mpr (.inr ⟨acknowledgement, rfl⟩)

/--
A call for an event takes frames off the front.  It returns a report as an event
of its own, or an event that is taken for none; without one to return it has
taken all frames, and no report was among them.
-/
theorem decodes
    (excluded : ¬ plain EventType.acknowledgement)
    (orderly : decoder.Orderly plain)
    (decodes : Decodes false decoder deeds result next) :
    next.Orderly plain ∧
      (result = none → next.buffer = []) ∧
      (∀ parcel ∈ result,
        plain parcel.identity.eventType ∨
          ∃ acknowledgement : Acknowledgement, parcel = acknowledgement.parcel) ∧
      reportedIn decoder.buffer =
        reportedIn next.buffer + (result.map Parcel.reported).getD 0 := by
  induction decodes with
  | @waits decoder skipped needed searched =>
      have empty : decoder.buffer = [] :=
        orderly.eq_nil fun header found => nomatch searched.symm.trans found
      have left : (decoder.await skipped).value.buffer = [] := by
        change decoder.buffer.drop skipped = []
        rw [empty, List.drop_nil]
      refine ⟨⟨?_, ?_, orderly.held, orderly.roomy⟩, fun _ => left, nofun, ?_⟩
      · rw [left]
        exact .nil
      · change (decoder.await skipped).value.buffer.length = 0
        rw [left]
        rfl
      · rw [left, empty]
        rfl
  | ends searched closed => exact nomatch atEnd_of_rescan_exhausted searched
  | @releases decoder skipped frame parcel phase searched stands ended =>
      obtain ⟨rfl, -, -, -⟩ := orderly.front searched stands
      obtain ⟨event, held, same⟩ := Reassembly.exists_mem_of_interrupt ended
      have ordinary : plain parcel.identity.eventType := by
        rw [same]
        exact orderly.held event held
      have unreported : parcel.reported = 0 :=
        Parcel.reported_eq_zero fun report => excluded (report ▸ ordinary)
      refine ⟨⟨orderly.whole, rfl, nofun, orderly.roomy⟩, nofun, ?_, ?_⟩
      · intro other member
        cases member
        exact .inl ordinary
      · rw [Option.map_some, Option.getD_some, unreported]
        rfl
  | completes searched stands continued absorbed =>
      obtain ⟨next, returned, reported⟩ :=
        orderly.take excluded searched stands continued absorbed
      refine ⟨next, nofun, fun parcel member => ?_, reported⟩
      cases member
      exact returned _ (List.mem_singleton_self _)
  | absorbs searched stands continued absorbed later inductionHypothesis =>
      obtain ⟨next, -, reported⟩ := orderly.take excluded searched stands continued absorbed
      obtain ⟨last, exhausted, returned, reportedLater⟩ := inductionHypothesis next
      exact ⟨last, exhausted, returned, reported.trans reportedLater⟩

end Orderly

end Decoder

end Regular

end Frame

end EventWire
