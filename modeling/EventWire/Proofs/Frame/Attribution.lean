import EventWire.Proofs.Frame.Backlog
import EventWire.Proofs.Frame.Provenance

namespace EventWire

/-!
# Where octets go and events come from

The log of the calls to a decoder accounts for every octet and for every frame.
Octets leave the buffer in the order in which they came, each once: in a frame
that is taken, passed over, or handed over.  The frames that are taken go, in
order and each once, into the event that is returned or given up next.
-/

namespace Frame

/-- Frames without a gap between them that make up an event within the limit. -/
structure Makes
    (termination : Termination)
    (limit : Nat)
    (frames : List Sealed)
    (parcel : Parcel) : Prop where
  nonempty : frames ≠ []
  identity : ∀ frame ∈ frames, frame.identity = parcel.identity
  goOn : ∀ frame ∈ frames.dropLast, frame.continues = true
  ends : termination = .emptyFrame → ∀ frame ∈ frames.getLast?, frame.continues = false
  body : frames.flatMap Sealed.payload = parcel.body
  fits : parcel.body.length ≤ limit

/-- The frames that were taken for an event; one that was given up has no parcel. -/
structure Origin where
  parcel : Option Parcel
  frames : List Sealed
  deriving DecidableEq

/-- The events that deeds bring to their end, and the frames of the one still open. -/
def ascribe : List Sealed → List Deed → List Origin × List Sealed
  | opened, [] => ([], opened)
  | opened, .passes _ :: deeds => ascribe opened deeds
  | opened, .hands _ :: deeds => ascribe opened deeds
  | opened, .accepts frame :: deeds => ascribe (opened ++ [frame]) deeds
  | opened, .returns parcel :: deeds =>
    let later := ascribe [] deeds
    (⟨some parcel, opened⟩ :: later.1, later.2)
  | opened, .abandons :: deeds =>
    let later := ascribe [] deeds
    (⟨none, opened⟩ :: later.1, later.2)

theorem ascribe_append
    (opened : List Sealed)
    (front back : List Deed) :
    ascribe opened (front ++ back) =
      ((ascribe opened front).1 ++ (ascribe (ascribe opened front).2 back).1,
        (ascribe (ascribe opened front).2 back).2) := by
  induction front generalizing opened with
  | nil => rfl
  | cons deed rest inductionHypothesis =>
      cases deed <;> simp only [List.cons_append, ascribe, inductionHypothesis]

/-- Every frame that is taken goes into one event, in the order of taking. -/
theorem frames_ascribe
    (opened : List Sealed)
    (deeds : List Deed) :
    (ascribe opened deeds).1.flatMap Origin.frames ++ (ascribe opened deeds).2 =
      opened ++ deeds.filterMap Deed.accepted? := by
  induction deeds generalizing opened with
  | nil => exact (List.append_nil opened).symm
  | cons deed rest inductionHypothesis =>
      cases deed with
      | passes octets => exact inductionHypothesis opened
      | hands octets => exact inductionHypothesis opened
      | accepts frame =>
          rw [ascribe, inductionHypothesis, List.append_assoc]
          rfl
      | returns parcel =>
          simp only [ascribe, List.flatMap_cons, List.append_assoc, inductionHypothesis]
          rfl
      | abandons =>
          simp only [ascribe, List.flatMap_cons, List.append_assoc, inductionHypothesis]
          rfl

/-- Every octet that leaves the buffer is one of a frame, is passed over, or is handed over. -/
theorem length_flatMap_octets (deeds : List Deed) :
    (deeds.flatMap Deed.octets).length =
      totalLength (deeds.filterMap Deed.accepted?) + (deeds.flatMap Deed.passed).length +
        (deeds.filterMap Deed.handed?).flatten.length := by
  induction deeds with
  | nil => rfl
  | cons deed rest inductionHypothesis =>
      rw [List.flatMap_cons, List.length_append, inductionHypothesis]
      cases deed <;>
        simp only [Deed.octets, Deed.passed, List.filterMap_cons, Deed.accepted?, Deed.handed?,
          List.flatMap_cons, List.length_append, List.flatten_cons, totalLength_cons,
          Sealed.length_bytes, List.length_nil]
      all_goals omega

/-- Frames each of which says that its event goes on, and whose event is held. -/
structure Opens (frames : List Sealed) (event : Partial) : Prop where
  nonempty : frames ≠ []
  goOn : ∀ frame ∈ frames, frame.continues = true
  identity : ∀ frame ∈ frames, frame.identity = event.identity
  body : event.oversized = false → frames.flatMap Sealed.payload = event.body

/-- The frames of the event that is held; without one there are none. -/
def Matches (frames : List Sealed) : Option Partial → Prop
  | none => frames = []
  | some event => Opens frames event

/-- Deeds bring events to their end, the returned ones made of frames, and leave frames open. -/
structure Ascribes
    (termination : Termination)
    (limit : Nat)
    (opened : List Sealed)
    (deeds : List Deed)
    (parcels : List Parcel)
    (left : List Sealed) : Prop where
  left : (ascribe opened deeds).2 = left
  returned : (ascribe opened deeds).1.filterMap Origin.parcel = parcels
  made :
    ∀ origin ∈ (ascribe opened deeds).1, ∀ parcel ∈ origin.parcel,
      Makes termination limit origin.frames parcel

section Deeds

variable {termination : Termination} {limit : Nat} {opened left : List Sealed}
  {deeds : List Deed} {parcels : List Parcel}

namespace Ascribes

theorem nil : Ascribes termination limit opened [] [] opened where
  left := rfl
  returned := rfl
  made _ member := nomatch member

theorem append
    {between : List Sealed}
    {others : List Deed}
    {rest : List Parcel}
    (first : Ascribes termination limit opened deeds parcels between)
    (second : Ascribes termination limit between others rest left) :
    Ascribes termination limit opened (deeds ++ others) (parcels ++ rest) left where
  left := by
    rw [ascribe_append, first.left]
    exact second.left
  returned := by
    rw [ascribe_append, first.left, List.filterMap_append, first.returned, second.returned]
  made origin member := by
    rw [ascribe_append, first.left] at member
    rcases List.mem_append.mp member with earlier | later
    · exact first.made origin earlier
    · exact second.made origin later

theorem passes
    (octets : Bytes)
    (later : Ascribes termination limit opened deeds parcels left) :
    Ascribes termination limit opened (.passes octets :: deeds) parcels left :=
  ⟨later.left, later.returned, later.made⟩

theorem hands
    (octets : Bytes)
    (later : Ascribes termination limit opened deeds parcels left) :
    Ascribes termination limit opened (.hands octets :: deeds) parcels left :=
  ⟨later.left, later.returned, later.made⟩

theorem accepts
    {frame : Sealed}
    (later : Ascribes termination limit (opened ++ [frame]) deeds parcels left) :
    Ascribes termination limit opened (.accepts frame :: deeds) parcels left :=
  ⟨later.left, later.returned, later.made⟩

theorem abandons : Ascribes termination limit opened [.abandons] [] [] where
  left := rfl
  returned := rfl
  made origin member parcel same := by
    rw [List.mem_singleton.mp member] at same
    exact nomatch same

theorem returns
    {parcel : Parcel}
    (makes : Makes termination limit opened parcel) :
    Ascribes termination limit opened [.returns parcel] [parcel] [] where
  left := rfl
  returned := rfl
  made origin member other same := by
    rw [List.mem_singleton.mp member] at same ⊢
    cases same
    exact makes

end Ascribes

section Rules

variable {held kept : Option Partial} {frame : Sealed}

/-- Under the implicit policy an event can end behind any of its frames. -/
theorem Opens.makes
    {event : Partial}
    {parcel : Parcel}
    (opens : Opens opened event)
    (fits : event.body.length ≤ limit)
    (ended : Reassembly.ending termination event = [parcel]) :
    Makes termination limit opened parcel := by
  cases termination with
  | emptyFrame => cases ended
  | implicit =>
      rw [Reassembly.ending, Partial.delivered] at ended
      split at ended
      · cases ended
      · next small =>
          cases ended
          exact
            { nonempty := opens.nonempty
              identity := opens.identity
              goOn := fun frame member => opens.goOn frame (List.dropLast_subset _ member)
              ends := fun other => by cases other
              body := opens.body (Bool.eq_false_iff.mpr small)
              fits := fits }

/-- A frame that ends the held event leaves none of its frames open. -/
theorem Matches.interrupt
    {identity : Identity}
    (same : Matches opened held)
    (continued : Reassembly.interrupt termination identity held = ([], kept)) :
    ∃ left,
      Ascribes termination limit opened (Deed.lapse held kept) [] left ∧
        Matches left kept ∧
        ∀ event ∈ kept, event.identity = identity := by
  cases held with
  | none =>
      cases continued
      exact ⟨opened, .nil, same, fun event member => nomatch member⟩
  | some event =>
      by_cases alike : event.identity = identity
      · rw [Reassembly.interrupt, if_pos alike] at continued
        cases continued
        refine ⟨opened, .nil, same, fun other member => ?_⟩
        cases member
        exact alike
      · rw [Reassembly.interrupt, if_neg alike] at continued
        obtain ⟨-, rfl⟩ := Prod.mk.inj continued
        exact ⟨[], .abandons, rfl, fun event member => nomatch member⟩

/-- An event with one more frame, which goes on or does not. -/
theorem Matches.grow
    (same : Matches opened kept)
    (limit : Nat)
    (alike : ∀ event ∈ kept, event.identity = frame.identity) :
    let event := (kept.getD (.fresh frame.identity)).grow limit frame.payload
    (∀ other ∈ opened, other.continues = true) ∧
      (∀ other ∈ opened ++ [frame], other.identity = event.identity) ∧
      (event.oversized = false → (opened ++ [frame]).flatMap Sealed.payload = event.body) := by
  intro event
  have opens :
      (∀ other ∈ opened, other.continues = true) ∧
        (∀ other ∈ opened, other.identity = frame.identity) ∧
        (kept.getD (.fresh frame.identity)).identity = frame.identity ∧
        ((kept.getD (.fresh frame.identity)).oversized = false →
          opened.flatMap Sealed.payload = (kept.getD (.fresh frame.identity)).body) := by
    cases kept with
    | none =>
        cases same
        exact ⟨by simp, by simp, rfl, fun _ => rfl⟩
    | some held =>
        refine ⟨same.goOn, fun other member => ?_, alike held rfl, same.body⟩
        rw [same.identity other member]
        exact alike held rfl
  obtain ⟨goOn, identities, identity, body⟩ := opens
  refine ⟨goOn, fun other member => ?_, fun small => ?_⟩
  · rw [Partial.identity_grow, identity]
    rcases List.mem_append.mp member with earlier | latest
    · exact identities other earlier
    · rw [List.mem_singleton.mp latest]
  · obtain ⟨smallBefore, grown⟩ := Reassembly.body_grow small
    rw [grown, List.flatMap_append, body smallBefore, List.flatMap_singleton]

/-- A frame that completes no event leaves its event open, or it was given up. -/
theorem Matches.absorb
    (same : Matches opened kept)
    (alike : ∀ event ∈ kept, event.identity = frame.identity)
    (absorbed : Reassembly.absorb limit kept frame = ([], held)) :
    ∃ left,
      Ascribes termination limit opened (.accepts frame :: Deed.expiry held) [] left ∧
        Matches left held := by
  obtain ⟨goOn, identities, body⟩ := same.grow limit alike
  unfold Reassembly.absorb at absorbed
  dsimp only at absorbed
  split at absorbed
  · next continues =>
      cases absorbed
      refine ⟨opened ++ [frame], .accepts .nil, ?_⟩
      refine ⟨List.append_ne_nil_of_right_ne_nil _ (List.cons_ne_nil _ _), ?_, identities, body⟩
      intro other member
      rcases List.mem_append.mp member with earlier | latest
      · exact goOn other earlier
      · rw [List.mem_singleton.mp latest]
        exact continues
  · obtain ⟨-, rfl⟩ := Prod.mk.inj absorbed
    exact ⟨[], .accepts .abandons, rfl⟩

/-- A frame that completes an event makes it up together with those that were open. -/
theorem Matches.makes
    {parcel : Parcel}
    (same : Matches opened kept)
    (alike : ∀ event ∈ kept, event.identity = frame.identity)
    (within : Reassembly.Within limit kept)
    (absorbed : Reassembly.absorb limit kept frame = ([parcel], held)) :
    Makes termination limit (opened ++ [frame]) parcel := by
  obtain ⟨goOn, identities, body⟩ := same.grow limit alike
  have fits := Partial.length_body_grow (within.getD frame.identity) frame.payload
  unfold Reassembly.absorb Partial.delivered at absorbed
  dsimp only at absorbed
  split at absorbed
  · exact nomatch (Prod.mk.inj absorbed).1
  · next ends =>
      split at absorbed
      · exact nomatch (Prod.mk.inj absorbed).1
      · next small =>
          cases absorbed
          exact
            { nonempty := List.append_ne_nil_of_right_ne_nil _ (List.cons_ne_nil _ _)
              identity := identities
              goOn := by
                rw [List.dropLast_concat]
                exact goOn
              ends := fun _ other member => by
                rw [List.getLast?_concat] at member
                cases member
                exact Bool.eq_false_iff.mpr ends
              body := body (Bool.eq_false_iff.mpr small)
              fits := fits }

end Rules

end Deeds

namespace Deed

/-- Whether a deed leaves the octets where they are. -/
def rests : Deed → Bool
  | returns _ => true
  | abandons => true
  | _ => false

theorem rests_lapse (before after : Option Partial) :
    ∀ deed ∈ lapse before after, deed.rests = true := by
  unfold lapse
  split
  · exact List.forall_mem_singleton.mpr rfl
  · simp

theorem rests_expiry (held : Option Partial) :
    ∀ deed ∈ expiry held, deed.rests = true := by
  unfold expiry
  split
  · exact List.forall_mem_singleton.mpr rfl
  · simp

theorem rests_ending
    (before after : Option Partial)
    (result : Option Parcel) :
    ∀ deed ∈ ending before after result, deed.rests = true := by
  cases result with
  | none => exact rests_lapse before after
  | some parcel => exact List.forall_mem_singleton.mpr rfl

end Deed

namespace Decoder

/-- Octets that arrive leave the buffer in the order in which they came, or stay in it. -/
structure Accounts
    (decoder : Decoder)
    (arriving : Bytes)
    (deeds : List Deed)
    (handed : List Bytes)
    (next : Decoder) : Prop where
  octets : decoder.buffer ++ arriving = deeds.flatMap Deed.octets ++ next.buffer
  skipped : next.skipped = decoder.skipped + (deeds.flatMap Deed.passed).length
  handed : deeds.filterMap Deed.handed? = handed

namespace Accounts

variable {decoder next last : Decoder} {arriving later : Bytes} {deeds others : List Deed}
  {handed rest : List Bytes} {skipped : Nat}

theorem trans
    (first : decoder.Accounts arriving deeds handed next)
    (second : next.Accounts later others rest last) :
    decoder.Accounts (arriving ++ later) (deeds ++ others) (handed ++ rest) last where
  octets := by
    rw [← List.append_assoc, first.octets, List.append_assoc, second.octets,
      List.flatMap_append, List.append_assoc]
  skipped := by
    rw [second.skipped, first.skipped, List.flatMap_append, List.length_append, Nat.add_assoc]
  handed := by
    rw [List.filterMap_append, first.handed, second.handed]

theorem rests
    (idle : ∀ deed ∈ deeds, deed.rests = true)
    (sameBuffer : next.buffer = decoder.buffer)
    (sameSkipped : next.skipped = decoder.skipped) :
    decoder.Accounts [] deeds [] next := by
  have nothing :
      deeds.flatMap Deed.octets = [] ∧ deeds.flatMap Deed.passed = [] ∧
        deeds.filterMap Deed.handed? = [] := by
    induction deeds with
    | nil => exact ⟨rfl, rfl, rfl⟩
    | cons deed rest inductionHypothesis =>
        rw [List.forall_mem_cons] at idle
        cases deed with
        | returns parcel => exact inductionHypothesis idle.2
        | abandons => exact inductionHypothesis idle.2
        | passes octets => exact nomatch idle.1
        | accepts frame => exact nomatch idle.1
        | hands octets => exact nomatch idle.1
  obtain ⟨octets, passed, handed⟩ := nothing
  exact
    { octets := by rw [octets, sameBuffer, List.append_nil, List.nil_append]
      skipped := by rw [passed, sameSkipped, List.length_nil, Nat.add_zero]
      handed := handed }

/-- The front of the buffer is passed over. -/
theorem passes
    (inside : skipped ≤ decoder.buffer.length)
    (sameBuffer : next.buffer = decoder.buffer.drop skipped)
    (sameSkipped : next.skipped = decoder.skipped + skipped) :
    decoder.Accounts [] [.passes (decoder.buffer.take skipped)] [] next where
  octets := by
    rw [sameBuffer, List.flatMap_singleton, Deed.octets, List.take_append_drop, List.append_nil]
  skipped := by
    rw [sameSkipped, List.flatMap_singleton, Deed.passed, List.length_take,
      Nat.min_eq_left inside]
  handed := rfl

/-- A frame leaves the buffer behind what is passed over. -/
theorem accepts
    {frame : Sealed}
    {kept : Option Partial}
    (stands : frameAt? decoder.buffer skipped = some frame)
    (sameBuffer : next.buffer = decoder.buffer.drop (skipped + frame.length))
    (sameSkipped : next.skipped = decoder.skipped + skipped) :
    decoder.Accounts []
      (.passes (decoder.buffer.take skipped) :: (Deed.lapse decoder.held kept ++ [.accepts frame]))
      [] next := by
  have inside := add_length_le_of_frameAt? stands
  have taken : (decoder.aligned skipped).Accounts [] [.accepts frame] [] next :=
    { octets := by
        obtain ⟨rest, shape⟩ := Sealed.front?_eq_some_iff.mp stands
        rw [sameBuffer, ← List.drop_drop, List.flatMap_singleton, Deed.octets, aligned, shape,
          ← Sealed.length_bytes, List.drop_left, List.append_nil]
      skipped := sameSkipped
      handed := rfl }
  have passed : decoder.Accounts [] _ [] (decoder.aligned skipped) :=
    passes (by omega) rfl rfl
  exact passed.trans ((rests (Deed.rests_lapse decoder.held kept) rfl rfl).trans taken)

theorem decodes
    {atEnd : Bool}
    {result : Option Parcel}
    (decodes : Decodes atEnd decoder deeds result next) :
    decoder.Accounts [] deeds [] next := by
  induction decodes with
  | waits searched =>
      obtain ⟨-, inside, -, -⟩ := lacking_of_rescan searched
      exact passes inside rfl rfl
  | @ends decoder result phase searched closed =>
      have whole :
          decoder.Accounts [] [.passes decoder.buffer] []
            { decoder with
              buffer := []
              held := none
              phase := phase
              skipped := decoder.skipped + decoder.buffer.length
              verified := 0 } :=
        { octets := by rw [List.flatMap_singleton, Deed.octets]
          skipped := by rw [List.flatMap_singleton, Deed.passed]
          handed := rfl }
      exact whole.trans (rests (Deed.rests_ending decoder.held none result) rfl rfl)
  | @releases decoder skipped frame parcel phase searched stands ended =>
      have inside := add_length_le_of_frameAt? stands
      have passed : decoder.Accounts [] _ [] (decoder.aligned skipped) :=
        passes (by omega) rfl rfl
      exact passed.trans (rests (List.forall_mem_singleton.mpr rfl) rfl rfl)
  | @completes decoder skipped frame kept parcel phase searched stands continued absorbed =>
      have taken :
          decoder.Accounts []
            (.passes (decoder.buffer.take skipped) ::
              (Deed.lapse decoder.held kept ++ [.accepts frame]))
            [] { decoder.behind skipped frame none with phase := phase } :=
        accepts stands rfl rfl
      have returned : ∀ deed ∈ [Deed.returns parcel], deed.rests = true :=
        List.forall_mem_singleton.mpr rfl
      have whole := taken.trans (rests returned rfl rfl)
      rwa [List.cons_append, List.append_assoc] at whole
  | @absorbs decoder last skipped frame kept held phase deeds result searched stands continued
      absorbed later inductionHypothesis =>
      have taken :
          decoder.Accounts []
            (.passes (decoder.buffer.take skipped) ::
              (Deed.lapse decoder.held kept ++ [.accepts frame]))
            [] { decoder.behind skipped frame held with phase := phase } :=
        accepts stands rfl rfl
      have whole :=
        taken.trans ((rests (Deed.rests_expiry held) rfl rfl).trans inductionHypothesis)
      rwa [List.cons_append, List.append_assoc] at whole

theorem logs
    {calls : List Call}
    {log : List Deed}
    (logs : Logs decoder calls log) :
    decoder.Accounts (calls.flatMap Call.octets) log
      ((decoder.performAll calls).1.filterMap Reply.octets?) (decoder.performAll calls).2 := by
  induction logs with
  | nil decoder => exact rests (by simp) rfl rfl
  | @push decoder octets calls log later inductionHypothesis =>
      have pushed : decoder.Accounts octets [] [] (decoder.push octets) := ⟨rfl, rfl, rfl⟩
      exact pushed.trans inductionHypothesis
  | decode taken later inductionHypothesis =>
      exact (Accounts.decodes taken).trans inductionHypothesis
  | @takeRemaining decoder calls log later inductionHypothesis =>
      have taken :
          decoder.Accounts [] [.hands decoder.buffer] [decoder.buffer] decoder.takeRemaining.2 :=
        { octets := by rw [List.flatMap_singleton, Deed.octets]; rfl
          skipped := rfl
          handed := rfl }
      exact taken.trans inductionHypothesis

end Accounts

theorem Reply.filterMap_parcel?_decoded
    (result : Option Parcel)
    (replies : List Reply) :
    (Reply.decoded result :: replies).filterMap Reply.parcel? =
      result.toList ++ replies.filterMap Reply.parcel? := by
  cases result <;> rfl

/-- The events that a call returns are those that its deeds bring to their end. -/
theorem Decodes.ascribes
    {termination : Termination}
    {limit : Nat}
    {opened : List Sealed}
    {decoder next : Decoder}
    {atEnd : Bool}
    {deeds : List Deed}
    {result : Option Parcel}
    (decodes : Decodes atEnd decoder deeds result next)
    (steady : decoder.Steady termination limit)
    (same : Matches opened decoder.held) :
    ∃ left,
      Ascribes termination limit opened deeds result.toList left ∧ Matches left next.held := by
  induction decodes generalizing opened with
  | waits searched => exact ⟨opened, .passes _ .nil, same⟩
  | @ends decoder result phase searched closed =>
      rw [steady.termination] at closed
      cases held : decoder.held with
      | none =>
          rw [held] at closed same
          cases result with
          | some parcel => exact nomatch closed
          | none => exact ⟨opened, .passes _ .nil, same⟩
      | some event =>
          rw [held] at closed same
          cases result with
          | some parcel =>
              have makes := Opens.makes same (steady.within event held) closed
              exact ⟨[], .passes _ (.returns makes), rfl⟩
          | none => exact ⟨[], .passes _ .abandons, rfl⟩
  | @releases decoder skipped frame parcel phase searched stands ended =>
      rw [steady.termination] at ended
      cases held : decoder.held with
      | none =>
          rw [held] at ended
          exact nomatch ended
      | some event =>
          rw [held] at ended same
          have makes :=
            Opens.makes same (steady.within event held) (Reassembly.ending_of_interrupt ended)
          exact ⟨[], .passes _ (.returns makes), rfl⟩
  | completes searched stands continued absorbed =>
      rw [steady.maxEventSize] at absorbed
      have within := steady.within.interrupt continued
      rw [steady.termination] at continued
      obtain ⟨between, lapsed, sameKept, alike⟩ := same.interrupt continued
      refine ⟨[], .passes _ (lapsed.append (.accepts (.returns ?_))), rfl⟩
      exact sameKept.makes alike within absorbed
  | @absorbs decoder last skipped frame kept held phase deeds result searched stands continued
      absorbed later inductionHypothesis =>
      have steadyBehind :
          Steady termination limit { decoder.behind skipped frame held with phase := phase } :=
        steady.absorb continued absorbed
      rw [steady.maxEventSize] at absorbed
      rw [steady.termination] at continued
      obtain ⟨between, lapsed, sameKept, alike⟩ := same.interrupt continued
      obtain ⟨after, taken, sameHeld⟩ := sameKept.absorb alike absorbed
      obtain ⟨left, rest, sameLast⟩ := inductionHypothesis steadyBehind sameHeld
      exact ⟨left, .passes _ (lapsed.append (taken.append rest)), sameLast⟩

theorem Logs.ascribes
    {termination : Termination}
    {limit : Nat}
    {opened : List Sealed}
    {decoder : Decoder}
    {calls : List Call}
    {log : List Deed}
    (logs : Logs decoder calls log)
    (steady : decoder.Steady termination limit)
    (same : Matches opened decoder.held) :
    ∃ left,
      Ascribes termination limit opened log
          ((decoder.performAll calls).1.filterMap Reply.parcel?) left ∧
        Matches left (decoder.performAll calls).2.held := by
  induction logs generalizing opened with
  | nil decoder => exact ⟨opened, .nil, same⟩
  | push later inductionHypothesis => exact inductionHypothesis (steady.push _) same
  | @decode decoder atEnd calls deeds log decodes later inductionHypothesis =>
      obtain ⟨between, first, sameBetween⟩ := decodes.ascribes steady same
      obtain ⟨left, rest, sameLast⟩ := inductionHypothesis (steady.decode atEnd) sameBetween
      have whole := first.append rest
      rw [← Reply.filterMap_parcel?_decoded] at whole
      exact ⟨left, whole, sameLast⟩
  | takeRemaining later inductionHypothesis =>
      obtain ⟨left, rest, sameLast⟩ := inductionHypothesis steady.takeRemaining same
      exact ⟨left, rest.hands _, sameLast⟩

end Decoder

/--
Every octet given to a decoder leaves it once and in order, in a frame, passed
over or handed over, or is still there.  Every frame it takes goes into one
event, and the frames of an event that it returns make it up.
-/
theorem exists_log_of_performAll
    (termination : Termination)
    (limit : Nat)
    (calls : List Decoder.Call) :
    let performed := (Decoder.fresh termination limit).performAll calls
    ∃ log,
      Decoder.Logs (.fresh termination limit) calls log ∧
        let accepted := log.filterMap Deed.accepted?
        let handed := log.filterMap Deed.handed?
        let ascribed := ascribe [] log
        calls.flatMap Decoder.Call.octets = log.flatMap Deed.octets ++ performed.2.buffer ∧
          (log.flatMap Deed.passed).length = performed.2.skipped ∧
          handed = performed.1.filterMap Decoder.Reply.octets? ∧
          (calls.flatMap Decoder.Call.octets).length =
            totalLength accepted + performed.2.skipped + handed.flatten.length +
              performed.2.buffer.length ∧
          ascribed.1.flatMap Origin.frames ++ ascribed.2 = accepted ∧
          ascribed.1.filterMap Origin.parcel = performed.1.filterMap Decoder.Reply.parcel? ∧
          ∀ origin ∈ ascribed.1, ∀ parcel ∈ origin.parcel,
            Makes termination limit origin.frames parcel := by
  intro performed
  obtain ⟨log, logs⟩ := Decoder.exists_logs (.fresh termination limit) calls
  have accounts := Decoder.Accounts.logs logs
  have skipped : performed.2.skipped = (log.flatMap Deed.passed).length := by
    rw [accounts.skipped]
    exact Nat.zero_add _
  have octets : calls.flatMap Decoder.Call.octets = log.flatMap Deed.octets ++ performed.2.buffer :=
    accounts.octets
  obtain ⟨left, ascribes, -⟩ := logs.ascribes (.fresh termination limit) rfl
  refine ⟨log, logs, octets, skipped.symm, accounts.handed, ?_, frames_ascribe [] log,
    ascribes.returned, ascribes.made⟩
  rw [octets, List.length_append, length_flatMap_octets, skipped]

end Frame

end EventWire
