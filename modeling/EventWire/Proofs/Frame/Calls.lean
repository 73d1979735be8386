import EventWire.Proofs.Frame.Draining

namespace EventWire

/-!
# Calls to a decoder

A decoder is given octets, asked for events and made to hand over what it has
not used up, in any order.  A log of such calls says what became of the octets,
which frames were taken, and when the event put together from them was returned
or given up.  The log follows the steps of the decoder's loop; a single
induction along the loop shows that every call has one.
-/

namespace Frame

/-- What a decoder does with octets and with the event that it puts together. -/
inductive Deed where
  /-- Octets are passed over. -/
  | passes (octets : Bytes)
  /-- A frame is taken for the event being put together, or for a new one. -/
  | accepts (frame : Sealed)
  /-- The event that was put together is returned. -/
  | returns (parcel : Parcel)
  /-- The event that was being put together is given up. -/
  | abandons
  /-- Octets are handed over unused. -/
  | hands (octets : Bytes)
  deriving DecidableEq

namespace Deed

/-- The octets that leave the buffer. -/
def octets : Deed → Bytes
  | passes octets => octets
  | accepts frame => frame.bytes
  | hands octets => octets
  | _ => []

/-- The octets that are passed over. -/
def passed : Deed → Bytes
  | passes octets => octets
  | _ => []

/-- The octets that are handed over. -/
def handed? : Deed → Option Bytes
  | hands octets => some octets
  | _ => none

/-- The frame that is taken. -/
def accepted? : Deed → Option Sealed
  | accepts frame => some frame
  | _ => none

/-- The event is given up if it was being put together before and is not any more. -/
def lapse (before after : Option Partial) : List Deed :=
  if before.isSome ∧ after.isNone then [abandons] else []

/-- Nothing is left of the event behind its last frame: it is given up. -/
def expiry (held : Option Partial) : List Deed :=
  if held.isNone then [abandons] else []

/-- The event ends: it is returned, or given up. -/
def ending (before after : Option Partial) : Option Parcel → List Deed
  | some parcel => [returns parcel]
  | none => lapse before after

end Deed

namespace Decoder

section Rules

variable {decoder ready : Decoder} {skipped : Nat} {frame : Sealed}

/-- An event that is released for a frame is one that the frame interrupts. -/
theorem interrupt_of_released
    {parcel : Parcel}
    (released :
      ((decoder.aligned skipped).releaseFor frame.identity).value = (some parcel, ready)) :
    Reassembly.interrupt decoder.termination frame.identity decoder.held = ([parcel], none) ∧
      ∃ phase, ready = { decoder.aligned skipped with held := none, phase := phase } := by
  obtain ⟨phase, rules⟩ := releaseFor_eq (decoder.aligned skipped) frame.identity
  obtain ⟨first, rest⟩ := Prod.mk.inj (released.symm.trans rules)
  rcases Reassembly.interrupt_cases decoder.termination frame.identity decoder.held with
    ⟨kept, continued⟩ | ⟨other, ended⟩
  · rw [show (decoder.aligned skipped).termination = decoder.termination from rfl,
      show (decoder.aligned skipped).held = decoder.held from rfl, continued] at first
    exact nomatch first
  · rw [show (decoder.aligned skipped).termination = decoder.termination from rfl,
      show (decoder.aligned skipped).held = decoder.held from rfl, ended] at first rest
    cases first
    exact ⟨ended, phase, rest⟩

/-- A frame that releases nothing interrupts nothing that is returned. -/
theorem interrupt_of_kept
    (kept : ((decoder.aligned skipped).releaseFor frame.identity).value = (none, ready)) :
    ∃ held phase,
      Reassembly.interrupt decoder.termination frame.identity decoder.held = ([], held) ∧
        ready = { decoder.aligned skipped with held := held, phase := phase } := by
  obtain ⟨phase, rules⟩ := releaseFor_eq (decoder.aligned skipped) frame.identity
  obtain ⟨first, rest⟩ := Prod.mk.inj (kept.symm.trans rules)
  rcases Reassembly.interrupt_cases decoder.termination frame.identity decoder.held with
    ⟨held, continued⟩ | ⟨other, ended⟩
  · rw [show (decoder.aligned skipped).termination = decoder.termination from rfl,
      show (decoder.aligned skipped).held = decoder.held from rfl, continued] at rest
    exact ⟨held, phase, continued, rest⟩
  · rw [show (decoder.aligned skipped).termination = decoder.termination from rfl,
      show (decoder.aligned skipped).held = decoder.held from rfl, ended] at first
    exact nomatch first

/-- A frame that is accepted is absorbed by the rules, and the decoder goes on behind it. -/
theorem absorb_of_accepted
    {next : Decoder}
    {result : Option Parcel}
    {held : Option Partial}
    {phase : Phase}
    (stands : frameAt? decoder.buffer skipped = some frame)
    (same : ready = { decoder.aligned skipped with held := held, phase := phase })
    (accepted : (ready.accept frame.header).value = (result, next)) :
    ∃ later after,
      Reassembly.absorb decoder.maxEventSize held frame = (result.toList, later) ∧
        next = { decoder.behind skipped frame later with phase := after } := by
  subst same
  obtain ⟨after, rules⟩ :=
    @accept_eq { decoder.aligned skipped with held := held, phase := phase } frame stands
  obtain ⟨first, rest⟩ := Prod.mk.inj (accepted.symm.trans rules)
  refine ⟨(Reassembly.absorb decoder.maxEventSize held frame).2, after, ?_, ?_⟩
  · rw [first, show (decoder.aligned skipped).maxEventSize = decoder.maxEventSize from rfl,
      Reassembly.toList_head?_absorb]
  · rw [rest]
    simp only [aligned, behind, List.drop_drop]

end Rules

/-- A call for an event does these deeds, returns this, and leaves this decoder. -/
inductive Decodes (atEnd : Bool) : Decoder → List Deed → Option Parcel → Decoder → Prop where
  | waits
      {decoder : Decoder}
      {skipped needed : Nat}
      (searched :
        rescan decoder.buffer atEnd decoder.verified = .incomplete skipped needed) :
      Decodes atEnd decoder [.passes (decoder.buffer.take skipped)] none
        (decoder.await skipped).value
  | ends
      {decoder : Decoder}
      {result : Option Parcel}
      {phase : Phase}
      (searched : rescan decoder.buffer atEnd decoder.verified = .exhausted)
      (closed : Reassembly.close decoder.termination decoder.held = result.toList) :
      Decodes atEnd decoder (.passes decoder.buffer :: Deed.ending decoder.held none result) result
        { decoder with
          buffer := []
          held := none
          phase := phase
          skipped := decoder.skipped + decoder.buffer.length
          verified := 0 }
  | releases
      {decoder : Decoder}
      {skipped : Nat}
      {frame : Sealed}
      {parcel : Parcel}
      {phase : Phase}
      (searched :
        rescan decoder.buffer atEnd decoder.verified = .found skipped frame.header)
      (stands : frameAt? decoder.buffer skipped = some frame)
      (ended :
        Reassembly.interrupt decoder.termination frame.identity decoder.held =
          ([parcel], none)) :
      Decodes atEnd decoder [.passes (decoder.buffer.take skipped), .returns parcel] (some parcel)
        { decoder.aligned skipped with held := none, phase := phase }
  | completes
      {decoder : Decoder}
      {skipped : Nat}
      {frame : Sealed}
      {kept : Option Partial}
      {parcel : Parcel}
      {phase : Phase}
      (searched :
        rescan decoder.buffer atEnd decoder.verified = .found skipped frame.header)
      (stands : frameAt? decoder.buffer skipped = some frame)
      (continued :
        Reassembly.interrupt decoder.termination frame.identity decoder.held = ([], kept))
      (absorbed : Reassembly.absorb decoder.maxEventSize kept frame = ([parcel], none)) :
      Decodes atEnd decoder
        (.passes (decoder.buffer.take skipped) ::
          (Deed.lapse decoder.held kept ++ [.accepts frame, .returns parcel]))
        (some parcel) { decoder.behind skipped frame none with phase := phase }
  | absorbs
      {decoder last : Decoder}
      {skipped : Nat}
      {frame : Sealed}
      {kept held : Option Partial}
      {phase : Phase}
      {deeds : List Deed}
      {result : Option Parcel}
      (searched :
        rescan decoder.buffer atEnd decoder.verified = .found skipped frame.header)
      (stands : frameAt? decoder.buffer skipped = some frame)
      (continued :
        Reassembly.interrupt decoder.termination frame.identity decoder.held = ([], kept))
      (absorbed : Reassembly.absorb decoder.maxEventSize kept frame = ([], held))
      (later :
        Decodes atEnd { decoder.behind skipped frame held with phase := phase } deeds result last) :
      Decodes atEnd decoder
        (.passes (decoder.buffer.take skipped) ::
          (Deed.lapse decoder.held kept ++ .accepts frame :: (Deed.expiry held ++ deeds)))
        result last

/-- Every call for an event goes in one of the ways there are. -/
theorem exists_decodes (atEnd : Bool) (decoder : Decoder) :
    ∃ deeds,
      Decodes atEnd decoder deeds (decoder.decode atEnd).value.1
        (decoder.decode atEnd).value.2 := by
  match searched : rescan decoder.buffer atEnd decoder.verified with
  | .incomplete skipped needed =>
      rw [decode_of_incomplete searched]
      exact ⟨_, .waits searched⟩
  | .exhausted =>
      obtain ⟨phase, finished⟩ := finish_eq decoder
      rw [decode_of_exhausted searched, finished]
      refine ⟨_, .ends searched ?_⟩
      rcases Reassembly.close_cases decoder.termination decoder.held with silent | ⟨parcel, ended⟩
      · rw [silent]
        rfl
      · rw [ended]
        rfl
  | .found skipped header =>
      obtain ⟨frame, rfl, stands, -⟩ := exists_frameAt?_of_rescan searched
      have used := weight_takeFrame_lt (Scan.le_of_rescan_eq_found searched)
      have decoded := decode_of_found searched
      cases released : ((decoder.aligned skipped).releaseFor frame.identity).value with
      | mk freed ready =>
          cases freed with
          | some parcel =>
              obtain ⟨ended, phase, rfl⟩ := interrupt_of_released released
              rw [takeFrame_of_released released] at decoded
              simp only [Option.isSome_some, ↓reduceIte] at decoded
              rw [decoded]
              exact ⟨_, .releases searched stands ended⟩
          | none =>
              obtain ⟨kept, _, continued, same⟩ := interrupt_of_kept released
              rw [takeFrame_of_kept released] at decoded used
              cases accepted : (ready.accept frame.header).value with
              | mk result next =>
                  obtain ⟨held, phase, absorbed, rfl⟩ := absorb_of_accepted stands same accepted
                  rw [accepted] at decoded used
                  cases result with
                  | some parcel =>
                      have nothing := Reassembly.held_of_delivered absorbed
                      subst nothing
                      simp only [Option.isSome_some, ↓reduceIte] at decoded
                      rw [decoded]
                      exact ⟨_, .completes searched stands continued absorbed⟩
                  | none =>
                      simp only [Option.isSome_none, Bool.false_eq_true, ↓reduceIte] at decoded
                      obtain ⟨deeds, later⟩ :=
                        exists_decodes atEnd
                          { decoder.behind skipped frame held with phase := phase }
                      rw [decoded]
                      exact ⟨_, .absorbs searched stands continued absorbed later⟩
termination_by decoder.weight

/-- What is done with a decoder. -/
inductive Call where
  | push (octets : Bytes)
  | decode (atEnd : Bool)
  | takeRemaining
  deriving DecidableEq

/-- The octets that a call gives to a decoder. -/
def Call.octets : Call → Bytes
  | push octets => octets
  | _ => []

/-- What a call returns. -/
inductive Reply where
  | pushed
  | decoded (parcel : Option Parcel)
  | handed (octets : Bytes)
  deriving DecidableEq

namespace Reply

/-- The event that a reply brings. -/
def parcel? : Reply → Option Parcel
  | decoded parcel => parcel
  | _ => none

/-- The octets that a reply hands over. -/
def octets? : Reply → Option Bytes
  | handed octets => some octets
  | _ => none

end Reply

/-- Make a call. -/
def perform (decoder : Decoder) : Call → Reply × Decoder
  | .push octets => (.pushed, decoder.push octets)
  | .decode atEnd =>
    let decoded := (decoder.decode atEnd).value
    (.decoded decoded.1, decoded.2)
  | .takeRemaining =>
    let taken := decoder.takeRemaining
    (.handed taken.1, taken.2)

/-- Make calls one after the other. -/
def performAll (decoder : Decoder) : List Call → List Reply × Decoder
  | [] => ([], decoder)
  | call :: later =>
    let performed := decoder.perform call
    let others := performed.2.performAll later
    (performed.1 :: others.1, others.2)

/-- A log of calls to a decoder. -/
inductive Logs : Decoder → List Call → List Deed → Prop where
  | nil (decoder : Decoder) : Logs decoder [] []
  | push
      {decoder : Decoder}
      {octets : Bytes}
      {calls : List Call}
      {log : List Deed}
      (later : Logs (decoder.push octets) calls log) :
      Logs decoder (.push octets :: calls) log
  | decode
      {decoder : Decoder}
      {atEnd : Bool}
      {calls : List Call}
      {deeds log : List Deed}
      (decodes :
        Decodes atEnd decoder deeds (decoder.decode atEnd).value.1 (decoder.decode atEnd).value.2)
      (later : Logs (decoder.decode atEnd).value.2 calls log) :
      Logs decoder (.decode atEnd :: calls) (deeds ++ log)
  | takeRemaining
      {decoder : Decoder}
      {calls : List Call}
      {log : List Deed}
      (later : Logs decoder.takeRemaining.2 calls log) :
      Logs decoder (.takeRemaining :: calls) (.hands decoder.takeRemaining.1 :: log)

theorem exists_logs (decoder : Decoder) (calls : List Call) :
    ∃ log, Logs decoder calls log := by
  induction calls generalizing decoder with
  | nil => exact ⟨[], .nil decoder⟩
  | cons call later inductionHypothesis =>
      cases call with
      | push octets =>
          obtain ⟨log, logs⟩ := inductionHypothesis (decoder.push octets)
          exact ⟨log, .push logs⟩
      | decode atEnd =>
          obtain ⟨deeds, decodes⟩ := exists_decodes atEnd decoder
          obtain ⟨log, logs⟩ := inductionHypothesis (decoder.decode atEnd).value.2
          exact ⟨deeds ++ log, .decode decodes logs⟩
      | takeRemaining =>
          obtain ⟨log, logs⟩ := inductionHypothesis decoder.takeRemaining.2
          exact ⟨_, .takeRemaining logs⟩

end Decoder

end Frame

end EventWire
