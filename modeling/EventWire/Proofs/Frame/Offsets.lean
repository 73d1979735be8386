import EventWire.Proofs.Frame.Search

namespace EventWire

/-!
# A search by offsets

The same search can be written over offsets into one buffer, where a difference
could turn negative and a slice could reach beyond the end.  Neither ever happens,
whatever the buffer: the search by offsets always has an answer, and it is the one
that the search along the octets gives.  That answer is the first valid frame; if
there is none, the first candidate that has not fully arrived, before which no
frame will ever begin.
-/

namespace Frame

/-- The difference of two offsets, unless it is negative. -/
def subtract? (offset less : Nat) : Option Nat :=
  if less ≤ offset then some (offset - less) else none

/-- The octets from one offset up to another, unless some of them are not there. -/
def slice? (octets : Bytes) (start stop : Nat) : Option Bytes :=
  if start ≤ stop ∧ stop ≤ octets.length then some ((octets.drop start).take (stop - start))
  else none

theorem subtract?_of_le
    {offset less : Nat}
    (nonnegative : less ≤ offset) :
    subtract? offset less = some (offset - less) :=
  if_pos nonnegative

theorem slice?_of_le
    {octets : Bytes}
    {start stop : Nat}
    (ordered : start ≤ stop)
    (inside : stop ≤ octets.length) :
    slice? octets start stop = some ((octets.drop start).take (stop - start)) :=
  if_pos ⟨ordered, inside⟩

namespace Scan

/--
Search a buffer from an offset on.  The search fails where a difference of offsets
is negative or an offset lies outside the buffer.
-/
def searchAt?
    (buffer : Bytes)
    (atEnd : Bool)
    (verified position : Nat)
    (waiting : Option (Nat × Nat)) :
    Option Scan :=
  match _left : subtract? buffer.length position with
  | none => none
  | some remaining =>
    if _long : headerLength ≤ remaining then do
      let front ← slice? buffer position (position + headerLength)
      let (header, _) ← Header.parse? front
      let stop := position + header.length
      if buffer.length < stop then
        let needed ← subtract? stop buffer.length
        searchAt? buffer atEnd verified (position + 1)
          (if atEnd then waiting else waiting.or (some (position, needed)))
      else
        let payload ← slice? buffer (position + headerLength) stop
        if verified < stop ∧ header.verifies payload then return .found position header
        else searchAt? buffer atEnd verified (position + 1) waiting
    else do
      match waiting with
      | some (skipped, needed) => return .incomplete skipped needed
      | none =>
        if atEnd then return .exhausted
        else
          let needed ← subtract? headerLength remaining
          return .incomplete position needed
termination_by buffer.length - position
decreasing_by
  all_goals
    simp only [headerLength] at _long
    unfold subtract? at _left
    split at _left
    · cases _left
      omega
    · exact nomatch _left

/-- Sixteen octets in front are read as a header without the octets behind them. -/
theorem parse?_take
    {octets behind : Bytes}
    {header : Header}
    (parsed : Header.parse? octets = some (header, behind)) :
    Header.parse? (octets.take headerLength) = some (header, []) ∧
      octets.drop headerLength = behind := by
  have shape := Header.eq_append_of_parse? parsed
  rw [shape, ← header.length_bytes, List.take_left, List.drop_left]
  refine ⟨?_, rfl⟩
  have alone := Header.parse?_bytes_append header []
  rwa [List.append_nil] at alone

section SearchAt

variable {buffer : Bytes} {atEnd : Bool} {verified : Nat}

theorem searchAt?_of_short
    {position : Nat}
    {waiting : Option (Nat × Nat)}
    (inside : position ≤ buffer.length)
    (short : buffer.length - position < headerLength) :
    searchAt? buffer atEnd verified position waiting =
      some (conclude atEnd position (buffer.length - position) waiting) := by
  rw [searchAt?]
  split
  · next missing =>
      rw [subtract?_of_le inside] at missing
      exact nomatch missing
  · next remaining left =>
      rw [subtract?_of_le inside] at left
      cases left
      rw [dif_neg (Nat.not_le_of_lt short)]
      cases waiting with
      | some candidate => rfl
      | none =>
          cases atEnd with
          | true => rfl
          | false =>
              simp only [subtract?_of_le (Nat.le_of_lt short)]
              rfl

theorem searchAt?_of_header
    {position : Nat}
    {waiting : Option (Nat × Nat)}
    {behind : Bytes}
    {header : Header}
    (inside : position + headerLength ≤ buffer.length)
    (parsed : Header.parse? (buffer.drop position) = some (header, behind)) :
    searchAt? buffer atEnd verified position waiting =
      if buffer.length - position < header.length then
        searchAt? buffer atEnd verified (position + 1)
          (if atEnd then waiting
            else waiting.or (some (position, header.length - (buffer.length - position))))
      else if verified < position + header.length ∧
          header.verifies (behind.take header.payloadLength) then
        some (.found position header)
      else searchAt? buffer atEnd verified (position + 1) waiting := by
  obtain ⟨front, rest⟩ := parse?_take parsed
  rw [searchAt?]
  split
  · next missing =>
      rw [subtract?_of_le (by omega)] at missing
      exact nomatch missing
  · next remaining left =>
      rw [subtract?_of_le (by omega)] at left
      cases left
      rw [dif_pos (by omega), slice?_of_le (Nat.le_add_right _ _) inside,
        Nat.add_sub_cancel_left]
      simp only [Option.bind_eq_bind, Option.bind_some, front]
      by_cases lacking : buffer.length - position < header.length
      · rw [if_pos lacking, if_pos (by omega), subtract?_of_le (by omega), Option.bind_some,
          show position + header.length - buffer.length =
            header.length - (buffer.length - position) by omega]
      · have payload :
            (buffer.drop (position + headerLength)).take
                (position + header.length - (position + headerLength)) =
              behind.take header.payloadLength := by
          rw [← List.drop_drop, rest, Header.length, ← Nat.add_assoc, Nat.add_sub_cancel_left]
        rw [if_neg lacking, if_neg (by omega), slice?_of_le _ (by omega), Option.bind_some,
          payload]
        · rfl
        · exact Nat.add_le_add_left (Nat.le_add_right _ _) position

/-- Nothing fails on the way, and the answer is that of the search along the octets left. -/
theorem searchAt?_eq
    {octets : Bytes}
    {position : Nat}
    {waiting : Option (Nat × Nat)}
    (shape : buffer.drop position = octets)
    (inside : position ≤ buffer.length) :
    searchAt? buffer atEnd verified position waiting =
      some (searchFrom atEnd verified octets position octets.length waiting) := by
  have left : octets.length = buffer.length - position := by rw [← shape, List.length_drop]
  induction octets generalizing position waiting with
  | nil =>
      have short : buffer.length - position < headerLength := by
        rw [← left]
        decide
      rw [searchAt?_of_short inside short, searchFrom, left]
  | cons octet rest inductionHypothesis =>
      rw [List.length_cons] at left
      rw [searchFrom]
      cases parsed : Header.parse? (octet :: rest) with
      | none =>
          have short := Header.parse?_eq_none_iff.mp parsed
          rw [List.length_cons, left] at short
          rw [searchAt?_of_short inside short, List.length_cons, left]
      | some read =>
          obtain ⟨header, behind⟩ := read
          have enough : headerLength ≤ (octet :: rest).length := by
            rw [Header.eq_append_of_parse? parsed, List.length_append, Header.length_bytes]
            exact Nat.le_add_right _ _
          rw [List.length_cons, left] at enough
          have long : 0 < headerLength := by decide
          have restShape := drop_succ_of_drop shape
          rw [searchAt?_of_header (by omega) (shape ▸ parsed),
            inductionHypothesis restShape (by omega) (by omega),
            inductionHypothesis restShape (by omega) (by omega)]
          simp only [List.length_cons, Nat.add_sub_cancel, ← left]
          split
          · rfl
          · split <;> rfl

end SearchAt

end Scan

/-- The first candidate that has not fully arrived, and how many octets it lacks. -/
structure FirstLacking (buffer : Bytes) (offset needed : Nat) : Prop where
  inside : offset ≤ buffer.length
  needed_eq : needed = shortage (buffer.drop offset)
  lacking : 0 < needed
  arrived : ∀ earlier < offset, shortage (buffer.drop earlier) = 0

namespace FirstLacking

variable {buffer : Bytes} {offset needed other otherNeeded : Nat}

theorem not_lt
    (first : FirstLacking buffer offset needed)
    (second : FirstLacking buffer other otherNeeded) :
    ¬ offset < other := by
  intro before
  have lacking := first.lacking
  rw [first.needed_eq, second.arrived offset before] at lacking
  exact Nat.lt_irrefl 0 lacking

/-- There is only one first candidate. -/
theorem unique
    (first : FirstLacking buffer offset needed)
    (second : FirstLacking buffer other otherNeeded) :
    offset = other ∧ needed = otherNeeded := by
  have same : offset = other :=
    Nat.le_antisymm (Nat.le_of_not_lt (second.not_lt first))
      (Nat.le_of_not_lt (first.not_lt second))
  subst same
  exact ⟨rfl, first.needed_eq.trans second.needed_eq.symm⟩

/-- Before it no frame will ever begin if none is there now. -/
theorem frameAt?_append
    (first : FirstLacking buffer offset needed)
    (none : ∀ place, frameAt? buffer place = Option.none)
    (later : Bytes) :
    ∀ earlier < offset, frameAt? (buffer ++ later) earlier = Option.none := by
  intro earlier before
  have inside := first.inside
  rw [frameAt?, List.drop_append_of_le_length (by omega),
    front?_append_of_shortage_eq_zero (first.arrived earlier before)]
  exact none earlier

end FirstLacking

section Outcome

variable {buffer : Bytes} {atEnd : Bool} {skipped needed stop : Nat} {header : Header}

/-- No frame ends within no octets, so what a search over unknown octets passes over is none. -/
theorem AllSearched.frameAt?_eq_none
    (searched : AllSearched buffer 0 0 stop) :
    ∀ offset < stop, frameAt? buffer offset = none := by
  intro offset before
  refine searched.frameAt?_eq_none_of_unsearched (fun place frame _ => ?_) before
  exact Nat.lt_of_lt_of_le frame.length_pos (Nat.le_add_left _ _)

/-- Behind the last octet there is no frame. -/
theorem frameAt?_eq_none_of_all
    (none : ∀ offset < buffer.length, frameAt? buffer offset = Option.none)
    (offset : Nat) :
    frameAt? buffer offset = Option.none := by
  cases stands : frameAt? buffer offset with
  | none => rfl
  | some frame =>
      have inside := add_length_le_of_frameAt? stands
      have positive := frame.length_pos
      exact stands.symm.trans (none offset (by omega))

/-- A search finds a frame exactly if it is the first. -/
theorem scan_eq_found_iff :
    scan buffer atEnd = .found skipped header ↔
      (∃ frame, frameAt? buffer skipped = some frame ∧ frame.header = header) ∧
        ∀ offset < skipped, frameAt? buffer offset = none := by
  constructor
  · intro searched
    obtain ⟨frame, same, stands, first⟩ := exists_frameAt?_of_rescan searched
    exact ⟨⟨frame, stands, same⟩, first.frameAt?_eq_none⟩
  · rintro ⟨⟨frame, stands, rfl⟩, first⟩
    have nowhere (none : AllSearched buffer 0 0 buffer.length) : False :=
      nomatch stands.symm.trans (frameAt?_eq_none_of_all none.frameAt?_eq_none skipped)
    match searched : scan buffer atEnd with
    | .found offset other =>
        obtain ⟨found, rfl, standsThere, none⟩ := exists_frameAt?_of_rescan searched
        rcases Nat.lt_trichotomy offset skipped with before | rfl | behind
        · exact nomatch standsThere.symm.trans (first offset before)
        · cases stands.symm.trans standsThere
          rfl
        · exact nomatch stands.symm.trans (none.frameAt?_eq_none skipped behind)
    | .incomplete _ _ => exact (nowhere (lacking_of_rescan searched).1).elim
    | .exhausted => exact (nowhere (allSearched_of_rescan_exhausted searched)).elim

/-- A search ends without an answer exactly if nothing more arrives and no frame is there. -/
theorem scan_eq_exhausted_iff :
    scan buffer atEnd = .exhausted ↔
      atEnd = true ∧ ∀ offset, frameAt? buffer offset = none := by
  constructor
  · intro searched
    have none := allSearched_of_rescan_exhausted searched
    exact
      ⟨atEnd_of_rescan_exhausted searched, frameAt?_eq_none_of_all none.frameAt?_eq_none⟩
  · rintro ⟨ended, none⟩
    match searched : scan buffer atEnd with
    | .found offset other =>
        obtain ⟨found, -, stands, -⟩ := exists_frameAt?_of_rescan searched
        exact nomatch stands.symm.trans (none offset)
    | .incomplete _ _ => exact nomatch ended.symm.trans (atEnd_of_rescan_incomplete searched)
    | .exhausted => rfl

/-- A search that waits does so at the first candidate that has not arrived. -/
theorem firstLacking_of_scan (searched : scan buffer atEnd = .incomplete skipped needed) :
    FirstLacking buffer skipped needed := by
  have outcome := searched_rescan buffer atEnd 0
  rw [show rescan buffer atEnd 0 = _ from searched] at outcome
  cases outcome with
  | recalled _ _ remembered => exact nomatch remembered
  | incomplete _ _ _ _ _ inside lacking arrived =>
      exact ⟨inside, rfl, lacking, fun earlier before => arrived earlier (Nat.zero_le _) before⟩

/-- A search waits exactly if more may arrive and no frame is there. -/
theorem scan_eq_incomplete_iff :
    scan buffer atEnd = .incomplete skipped needed ↔
      (atEnd = false ∧ ∀ offset, frameAt? buffer offset = none) ∧
        FirstLacking buffer skipped needed := by
  constructor
  · intro searched
    have none := (lacking_of_rescan searched).1
    exact
      ⟨⟨atEnd_of_rescan_incomplete searched, frameAt?_eq_none_of_all none.frameAt?_eq_none⟩,
        firstLacking_of_scan searched⟩
  · rintro ⟨⟨goesOn, none⟩, first⟩
    match searched : scan buffer atEnd with
    | .found offset other =>
        obtain ⟨found, -, stands, -⟩ := exists_frameAt?_of_rescan searched
        exact nomatch stands.symm.trans (none offset)
    | .incomplete other otherNeeded =>
        obtain ⟨rfl, rfl⟩ := first.unique (firstLacking_of_scan searched)
        rfl
    | .exhausted => exact nomatch goesOn.symm.trans (atEnd_of_rescan_exhausted searched)

end Outcome

/--
A search over any octets, none included, never leaves them or counts below zero.
It finds the first frame that stands in them.  If none does, it ends without an
answer when nothing more arrives, and else waits at the first candidate that has not
fully arrived for the octets that this one lacks; no frame will ever begin before it.
-/
theorem scan_exact (buffer : Bytes) (atEnd : Bool) :
    Scan.searchAt? buffer atEnd 0 0 none = some (scan buffer atEnd) ∧
      (∀ skipped header,
        scan buffer atEnd = .found skipped header ↔
          (∃ frame, frameAt? buffer skipped = some frame ∧ frame.header = header) ∧
            ∀ offset < skipped, frameAt? buffer offset = none) ∧
      (scan buffer atEnd = .exhausted ↔
        atEnd = true ∧ ∀ offset, frameAt? buffer offset = none) ∧
      ∀ skipped needed,
        scan buffer atEnd = .incomplete skipped needed ↔
          (atEnd = false ∧ ∀ offset, frameAt? buffer offset = none) ∧
            FirstLacking buffer skipped needed ∧
            ∀ later, ∀ offset < skipped, frameAt? (buffer ++ later) offset = none := by
  refine ⟨Scan.searchAt?_eq rfl (Nat.zero_le _), fun _ _ => scan_eq_found_iff,
    scan_eq_exhausted_iff, fun skipped needed => ?_⟩
  rw [scan_eq_incomplete_iff]
  constructor
  · rintro ⟨nowhere, first⟩
    exact ⟨nowhere, first, first.frameAt?_append nowhere.2⟩
  · rintro ⟨nowhere, first, -⟩
    exact ⟨nowhere, first⟩

end Frame

end EventWire
