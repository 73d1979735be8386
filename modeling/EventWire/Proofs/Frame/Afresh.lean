import EventWire.Proofs.Frame.Backlog

namespace EventWire

/-!
# Searching from scratch

A decoder remembers how much of the buffer its last search has judged, and the
next search checks no candidate that ends there.  The memory outlives octets that
arrive behind it and octets that are dropped in front of it, and it has to be given
up wherever the front of the buffer changes.  What it says is true after any calls,
so a decoder that remembers nothing answers every call alike.
-/

namespace Frame

/-- Every candidate that ends within the first `verified` octets fails its checksum. -/
def Judged (buffer : Bytes) (verified : Nat) : Prop :=
  ∀ (offset : Nat) (header : Header) (behind : Bytes),
    Header.parse? (buffer.drop offset) = some (header, behind) →
    offset + header.length ≤ verified →
    header.verifies (behind.take header.payloadLength) = false

namespace Scan

/-- What is known to fail need not be checked. -/
theorem searchFrom_of_judged
    {buffer octets : Bytes}
    {atEnd : Bool}
    {verified position remaining : Nat}
    {waiting : Option (Nat × Nat)}
    (judged : Judged buffer verified)
    (shape : buffer.drop position = octets) :
    searchFrom atEnd verified octets position remaining waiting =
      searchFrom atEnd 0 octets position remaining waiting := by
  induction octets generalizing position remaining waiting with
  | nil => rfl
  | cons octet rest inductionHypothesis =>
      have restShape := drop_succ_of_drop shape
      rw [searchFrom, searchFrom]
      cases parsed : Header.parse? (octet :: rest) with
      | none => rfl
      | some read =>
          obtain ⟨header, behind⟩ := read
          have positive : 0 < position + header.length :=
            Nat.lt_of_lt_of_le header.length_pos (Nat.le_add_left _ _)
          simp only [inductionHypothesis restShape, positive, true_and]
          by_cases known : position + header.length ≤ verified
          · have fails := judged position header behind (shape ▸ parsed) known
            simp only [Nat.not_lt_of_le known, fails, false_and, Bool.false_eq_true]
          · simp only [Nat.lt_of_not_le known, true_and]

end Scan

/-- A search that leaves out what is known to fail finds the same. -/
theorem rescan_of_judged
    {buffer : Bytes}
    {verified : Nat}
    (judged : Judged buffer verified)
    (atEnd : Bool) :
    rescan buffer atEnd verified = scan buffer atEnd :=
  Scan.searchFrom_of_judged judged rfl

namespace Decoder

/-- What a decoder knows of its buffer is true of every candidate. -/
theorem Sound.judged
    {decoder : Decoder}
    (sound : decoder.Sound) :
    Judged decoder.buffer decoder.verified := by
  intro offset header behind parsed ends
  refine Bool.eq_false_iff.mpr fun verified => ?_
  have covered := sound.covered
  have lengths := congrArg List.length (Header.eq_append_of_parse? parsed)
  simp only [List.length_drop, List.length_append, Header.length_bytes] at lengths
  simp only [Header.length] at ends
  obtain ⟨frame, stands, rfl⟩ := Sealed.exists_front?_of_parse? parsed (by omega) verified
  have unsearched := sound.unsearched offset frame stands
  rw [Sealed.length, Header.length] at unsearched
  omega

/-- A frame that completes no event leaves fewer octets. -/
theorem length_buffer_lt_of_takeFrame
    {decoder next : Decoder}
    {skipped : Nat}
    {header : Header}
    (inside : skipped + header.length ≤ decoder.buffer.length)
    (taken : (decoder.takeFrame skipped header).value = (none, next)) :
    next.buffer.length < decoder.buffer.length := by
  have positive := header.length_pos
  have left := buffer_takeFrame (by rw [taken])
  rw [taken] at left
  rw [left, List.length_drop]
  omega

/-- Behind a frame, and in front of one that is left in place, nothing has been searched. -/
theorem verified_takeFrame
    (decoder : Decoder)
    (skipped : Nat)
    (header : Header) :
    (decoder.takeFrame skipped header).value.2.verified = 0 := by
  obtain ⟨phase, rules⟩ := releaseFor_eq (decoder.aligned skipped) header.identity
  cases released : ((decoder.aligned skipped).releaseFor header.identity).value with
  | mk freed ready =>
      have unverified : ready.verified = 0 := by
        rw [released] at rules
        rw [(Prod.mk.inj rules).2]
        rfl
      cases freed with
      | some parcel =>
          rw [takeFrame_of_released released]
          exact unverified
      | none =>
          rw [takeFrame_of_kept released]
          simp only [accept, Noted.value_bind]
          split
          · exact unverified
          · simp only [Noted.value_pure, complete]
            split <;> exact unverified

/--
The next event that the buffered octets complete, when every search starts from
nothing and no search is told what an earlier one has judged.
-/
def decodeAfresh (atEnd : Bool) (decoder : Decoder) : Noted (Option Parcel × Decoder) :=
  match _found : scan decoder.buffer atEnd with
  | .incomplete skipped _ => do
    let waiting ← decoder.await skipped
    return (none, waiting)
  | .exhausted => decoder.finish
  | .found skipped header =>
    let taken := decoder.takeFrame skipped header
    match _incomplete : taken.value with
    | (some event, next) => ⟨(some event, next), taken.notices⟩
    | (none, next) => (decodeAfresh atEnd next).after taken.notices
termination_by decoder.buffer.length
decreasing_by
  exact length_buffer_lt_of_takeFrame (Scan.le_of_rescan_eq_found _found) _incomplete

/-- What a decoder does about the outcome of a search, and how it goes on behind a frame. -/
def respond
    (again : Decoder → Noted (Option Parcel × Decoder))
    (decoder : Decoder) :
    Scan → Noted (Option Parcel × Decoder)
  | .incomplete skipped _ => do
    let waiting ← decoder.await skipped
    return (none, waiting)
  | .exhausted => decoder.finish
  | .found skipped header =>
    let taken := decoder.takeFrame skipped header
    match taken.value with
    | (some event, next) => ⟨(some event, next), taken.notices⟩
    | (none, next) => (again next).after taken.notices

theorem decode_eq_respond (atEnd : Bool) (decoder : Decoder) :
    decoder.decode atEnd =
      decoder.respond (decode atEnd) (rescan decoder.buffer atEnd decoder.verified) := by
  rw [decode]
  split
  · next searched => rw [searched]; rfl
  · next searched => rw [searched]; rfl
  · next searched =>
      rw [searched, respond]
      dsimp only
      split <;> simp_all

theorem decodeAfresh_eq_respond (atEnd : Bool) (decoder : Decoder) :
    decoder.decodeAfresh atEnd =
      decoder.respond (decodeAfresh atEnd) (scan decoder.buffer atEnd) := by
  rw [decodeAfresh]
  split
  · next searched => rw [searched]; rfl
  · next searched => rw [searched]; rfl
  · next searched =>
      rw [searched, respond]
      dsimp only
      split <;> simp_all

/-- A decoder that knows nothing false decodes like one that knows nothing. -/
theorem Sound.decode_eq_decodeAfresh
    {decoder : Decoder}
    (sound : decoder.Sound)
    (atEnd : Bool) :
    decoder.decode atEnd = decoder.decodeAfresh atEnd := by
  rw [decode_eq_respond, decodeAfresh_eq_respond, rescan_of_judged sound.judged]
  cases searched : scan decoder.buffer atEnd with
  | incomplete skipped needed => rfl
  | exhausted => rfl
  | found skipped header =>
      cases taken : (decoder.takeFrame skipped header).value with
      | mk result next =>
          simp only [respond, taken]
          cases result with
          | some parcel => rfl
          | none =>
              have shorter :=
                length_buffer_lt_of_takeFrame (Scan.le_of_rescan_eq_found searched) taken
              have unverified := verified_takeFrame decoder skipped header
              rw [taken] at unverified
              dsimp only
              rw [(Sound.of_verified_eq_zero unverified).decode_eq_decodeAfresh atEnd]
termination_by decoder.buffer.length

/-- Make a call to a decoder that searches from scratch. -/
def performAfresh (decoder : Decoder) : Call → Reply × Decoder
  | .decode atEnd =>
    let decoded := (decoder.decodeAfresh atEnd).value
    (.decoded decoded.1, decoded.2)
  | call => decoder.perform call

/-- Make calls to a decoder that searches from scratch. -/
def performAllAfresh (decoder : Decoder) : List Call → List Reply × Decoder
  | [] => ([], decoder)
  | call :: later =>
    let performed := decoder.performAfresh call
    let others := performed.2.performAllAfresh later
    (performed.1 :: others.1, others.2)

theorem Sound.performAfresh_eq_perform
    {decoder : Decoder}
    (sound : decoder.Sound)
    (call : Call) :
    decoder.performAfresh call = decoder.perform call := by
  cases call with
  | push octets => rfl
  | decode atEnd =>
      rw [performAfresh, perform, sound.decode_eq_decodeAfresh]
  | takeRemaining => rfl

theorem Steady.performAllAfresh_eq_performAll
    {termination : Termination}
    {limit : Nat}
    {decoder : Decoder}
    (steady : decoder.Steady termination limit)
    (calls : List Call) :
    decoder.performAllAfresh calls = decoder.performAll calls := by
  induction calls generalizing decoder with
  | nil => rfl
  | cons call later inductionHypothesis =>
      rw [performAllAfresh, Decoder.performAll, steady.sound.performAfresh_eq_perform,
        inductionHypothesis (steady.perform call)]

end Decoder

/--
After any calls every candidate that the next search would leave out fails its
checksum, so the search and the call for an event come out as they would from
scratch.  All the calls then return what they return, and leave what they leave, in a
decoder that searches from scratch every time.
-/
theorem performAll_eq_afresh
    (termination : Termination)
    (limit : Nat)
    (calls : List Decoder.Call) :
    let decoder := ((Decoder.fresh termination limit).performAll calls).2
    (decoder.verified ≤ decoder.buffer.length ∧ Judged decoder.buffer decoder.verified) ∧
      (∀ atEnd,
        rescan decoder.buffer atEnd decoder.verified = scan decoder.buffer atEnd ∧
          decoder.decode atEnd = decoder.decodeAfresh atEnd) ∧
      (Decoder.fresh termination limit).performAll calls =
        (Decoder.fresh termination limit).performAllAfresh calls := by
  intro decoder
  have start := Decoder.Steady.fresh termination limit
  have sound := (start.performAll calls).sound
  refine ⟨⟨sound.covered, sound.judged⟩, fun atEnd => ?_, ?_⟩
  · exact ⟨rescan_of_judged sound.judged atEnd, sound.decode_eq_decodeAfresh atEnd⟩
  · exact (start.performAllAfresh_eq_performAll calls).symm

end Frame

end EventWire
