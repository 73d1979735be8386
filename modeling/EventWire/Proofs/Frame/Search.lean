import EventWire.Proofs.Frame.Sealed

namespace EventWire

/-!
# What a search says

A search from a position tries the offsets in order.  It finds the first frame
that ends beyond the octets searched before; failing that it names the earliest
candidate that has not fully arrived.  One relation states every outcome, and a
single induction along the search shows that it holds of the answer.
-/

namespace Frame

/-- How many octets the candidate that octets begin with still lacks. -/
def shortage (octets : Bytes) : Nat :=
  match Header.parse? octets with
  | none => headerLength - octets.length
  | some (header, _) => header.length - octets.length

theorem front?_eq_none_of_shortage_pos
    {octets : Bytes}
    (lacking : 0 < shortage octets) :
    Sealed.front? octets = none := by
  cases found : Sealed.front? octets with
  | none => rfl
  | some frame =>
      obtain ⟨rest, shape⟩ := Sealed.front?_eq_some_iff.mp found
      rw [shape, Sealed.bytes, List.append_assoc] at lacking
      simp only [shortage, Header.parse?_bytes_append, List.length_append,
        Header.length_bytes, Header.length, frame.length_payload] at lacking
      omega

/-- A candidate that has fully arrived is judged the same whatever arrives later. -/
theorem front?_append_of_shortage_eq_zero
    {octets : Bytes}
    (complete : shortage octets = 0)
    (behind : Bytes) :
    Sealed.front? (octets ++ behind) = Sealed.front? octets := by
  unfold shortage at complete
  split at complete
  · next missing =>
      have short := Header.parse?_eq_none_iff.mp missing
      omega
  · next header rest parsed =>
      have shape := Header.eq_append_of_parse? parsed
      have enough : header.payloadLength ≤ rest.length := by
        rw [shape, List.length_append, Header.length_bytes, Header.length] at complete
        omega
      have extended : Header.parse? (octets ++ behind) = some (header, rest ++ behind) := by
        rw [shape, List.append_assoc]
        exact Header.parse?_bytes_append header _
      simp only [Sealed.front?, parsed, extended, List.take_append_of_le_length enough,
        List.length_append, enough, true_and, Nat.le_add_right_of_le enough]

/-- The frames from one offset up to another all end within the octets searched before. -/
def AllSearched (buffer : Bytes) (verified start stop : Nat) : Prop :=
  ∀ (offset : Nat) (frame : Sealed),
    start ≤ offset →
    offset < stop →
    frameAt? buffer offset = some frame →
    offset + frame.length ≤ verified

/-- The candidates from one offset up to another have all arrived. -/
def AllArrived (buffer : Bytes) (start stop : Nat) : Prop :=
  ∀ offset, start ≤ offset → offset < stop → shortage (buffer.drop offset) = 0

/-- The outcomes of a search that has come to a position, remembering a candidate or none. -/
inductive Searched
    (buffer : Bytes)
    (atEnd : Bool)
    (verified position : Nat)
    (waiting : Option (Nat × Nat)) :
    Scan → Prop where
  | found
      (offset : Nat)
      (frame : Sealed)
      (reached : position ≤ offset)
      (stands : frameAt? buffer offset = some frame)
      (unsearched : verified < offset + frame.length)
      (first : AllSearched buffer verified position offset) :
      Searched buffer atEnd verified position waiting (.found offset frame.header)
  | recalled
      (skipped needed : Nat)
      (remembered : waiting = some (skipped, needed))
      (none : AllSearched buffer verified position buffer.length) :
      Searched buffer atEnd verified position waiting (.incomplete skipped needed)
  | incomplete
      (skipped : Nat)
      (forgotten : waiting = none)
      (goesOn : atEnd = false)
      (none : AllSearched buffer verified position buffer.length)
      (reached : position ≤ skipped)
      (inside : skipped ≤ buffer.length)
      (lacking : 0 < shortage (buffer.drop skipped))
      (arrived : AllArrived buffer position skipped) :
      Searched buffer atEnd verified position waiting
        (.incomplete skipped (shortage (buffer.drop skipped)))
  | exhausted
      (forgotten : waiting = none)
      (ended : atEnd = true)
      (none : AllSearched buffer verified position buffer.length) :
      Searched buffer atEnd verified position waiting .exhausted

/-- What is left one octet further on. -/
theorem drop_succ_of_drop
    {buffer rest : Bytes}
    {octet : UInt8}
    {position : Nat}
    (shape : buffer.drop position = octet :: rest) :
    buffer.drop (position + 1) = rest := by
  rw [← List.tail_drop, shape, List.tail_cons]

section Step

variable {buffer : Bytes} {atEnd : Bool} {verified position stop : Nat}
  {waiting : Option (Nat × Nat)} {outcome : Scan}

theorem AllSearched.of_succ
    (behind : AllSearched buffer verified (position + 1) stop)
    (known : ∀ frame, frameAt? buffer position = some frame →
      position + frame.length ≤ verified) :
    AllSearched buffer verified position stop := by
  intro offset frame reached before stands
  rcases Nat.eq_or_lt_of_le reached with rfl | later
  · exact known frame stands
  · exact behind offset frame later before stands

/-- Where all frames were searched before, but none ends there, there is none. -/
theorem AllSearched.frameAt?_eq_none_of_unsearched
    (searched : AllSearched buffer verified 0 stop)
    (unsearched : ∀ offset frame, frameAt? buffer offset = some frame →
      verified < offset + frame.length)
    {offset : Nat}
    (before : offset < stop) :
    frameAt? buffer offset = none := by
  cases stands : frameAt? buffer offset with
  | none => rfl
  | some frame =>
      have ends := searched offset frame (Nat.zero_le _) before stands
      exact absurd ends (Nat.not_le_of_lt (unsearched offset frame stands))

theorem AllArrived.of_succ
    (behind : AllArrived buffer (position + 1) stop)
    (arrived : shortage (buffer.drop position) = 0) :
    AllArrived buffer position stop := by
  intro offset reached before
  rcases Nat.eq_or_lt_of_le reached with rfl | later
  · exact arrived
  · exact behind offset later before

namespace Searched

/-- A candidate that has arrived and is no new frame is passed over. -/
theorem pass
    (searched : Searched buffer atEnd verified (position + 1) waiting outcome)
    (arrived : shortage (buffer.drop position) = 0)
    (known : ∀ frame, frameAt? buffer position = some frame →
      position + frame.length ≤ verified) :
    Searched buffer atEnd verified position waiting outcome := by
  cases searched with
  | found offset frame reached stands unsearched first =>
      exact .found offset frame (by omega) stands unsearched (first.of_succ known)
  | recalled skipped needed remembered none =>
      exact .recalled skipped needed remembered (none.of_succ known)
  | incomplete skipped forgotten goesOn none reached inside lacking others =>
      exact .incomplete skipped forgotten goesOn (none.of_succ known) (by omega) inside
        lacking (others.of_succ arrived)
  | exhausted forgotten ended none =>
      exact .exhausted forgotten ended (none.of_succ known)

/-- A candidate that has not arrived is remembered, unless one is or nothing more arrives. -/
theorem remember
    (inside : position ≤ buffer.length)
    (lacking : 0 < shortage (buffer.drop position))
    (searched :
      Searched buffer atEnd verified (position + 1)
        (if atEnd then waiting
          else waiting.or (some (position, shortage (buffer.drop position))))
        outcome) :
    Searched buffer atEnd verified position waiting outcome := by
  have known : ∀ frame, frameAt? buffer position = some frame →
      position + frame.length ≤ verified := by
    intro frame stands
    rw [frameAt?, front?_eq_none_of_shortage_pos lacking] at stands
    simp at stands
  cases searched with
  | found offset frame reached stands unsearched first =>
      exact .found offset frame (by omega) stands unsearched (first.of_succ known)
  | recalled skipped needed remembered none =>
      cases atEnd with
      | true => exact .recalled skipped needed remembered (none.of_succ known)
      | false =>
          cases waiting with
          | some candidate => exact .recalled skipped needed remembered (none.of_succ known)
          | none =>
              -- The candidate at the position is the earliest, so it is the one waited for.
              simp only [Bool.false_eq_true, ↓reduceIte, Option.none_or, Option.some.injEq,
                Prod.mk.injEq] at remembered
              obtain ⟨rfl, rfl⟩ := remembered
              refine .incomplete position rfl rfl (none.of_succ known) (Nat.le_refl _) inside
                lacking ?_
              intro offset reached before
              omega
  | incomplete skipped forgotten goesOn none reached within lacking arrived =>
      subst goesOn
      cases waiting <;> simp at forgotten
  | exhausted forgotten ended none =>
      subst ended
      exact .exhausted forgotten rfl (none.of_succ known)

/-- Too few octets for a header end the search. -/
theorem conclude
    (inside : position ≤ buffer.length)
    (short : (buffer.drop position).length < headerLength) :
    Searched buffer atEnd verified position waiting
      (Scan.conclude atEnd position (buffer.drop position).length waiting) := by
  have none : AllSearched buffer verified position buffer.length := by
    intro offset frame reached before stands
    have bound := add_length_le_of_frameAt? stands
    have long := frame.headerLength_le_length
    rw [List.length_drop] at short
    omega
  cases waiting with
  | some candidate => exact .recalled candidate.1 candidate.2 rfl none
  | none =>
      cases atEnd with
      | true => exact .exhausted rfl rfl none
      | false =>
          have lacking : shortage (buffer.drop position) =
              headerLength - (buffer.drop position).length := by
            rw [shortage, Header.parse?_eq_none_iff.mpr short]
          rw [Scan.conclude, if_neg Bool.false_ne_true, ← lacking]
          refine .incomplete position rfl rfl none (Nat.le_refl _) inside (by omega) ?_
          intro offset reached before
          omega

end Searched

end Step

/-- The answer of a search is one of its outcomes. -/
theorem searched_searchFrom
    {buffer octets : Bytes}
    {atEnd : Bool}
    {verified position : Nat}
    {waiting : Option (Nat × Nat)}
    (shape : buffer.drop position = octets)
    (inside : position ≤ buffer.length) :
    Searched buffer atEnd verified position waiting
      (Scan.searchFrom atEnd verified octets position octets.length waiting) := by
  induction octets generalizing position waiting with
  | nil =>
      rw [Scan.searchFrom, ← shape]
      apply Searched.conclude inside
      rw [shape]
      decide
  | cons octet rest inductionHypothesis =>
      have restShape := drop_succ_of_drop shape
      have restInside : position + 1 ≤ buffer.length := by
        have lengths := congrArg List.length shape
        rw [List.length_drop, List.length_cons] at lengths
        omega
      rw [Scan.searchFrom]
      simp only [List.length_cons, Nat.add_sub_cancel]
      split
      · next missing =>
          rw [← List.length_cons, ← shape]
          apply Searched.conclude inside
          rw [shape]
          exact Header.parse?_eq_none_iff.mp missing
      · next header behind parsed =>
          have lacks : shortage (buffer.drop position) = header.length - (rest.length + 1) := by
            rw [shape, shortage, parsed]
            rfl
          split
          · next short =>
              apply Searched.remember inside (by omega)
              rw [lacks]
              exact inductionHypothesis restShape restInside
          · next enough =>
              have arrived : header.payloadLength ≤ behind.length := by
                have lengths := congrArg List.length (Header.eq_append_of_parse? parsed)
                rw [List.length_cons, List.length_append, Header.length_bytes] at lengths
                rw [Header.length] at enough
                omega
              split
              · next valid =>
                  obtain ⟨frame, stands, rfl⟩ :=
                    Sealed.exists_front?_of_parse? parsed arrived valid.2
                  refine .found position frame (Nat.le_refl _) ?_ valid.1 ?_
                  · rw [frameAt?, shape]
                    exact stands
                  · intro offset other reached before
                    omega
              · next invalid =>
                  refine (inductionHypothesis restShape restInside).pass (by omega) ?_
                  intro frame stands
                  rw [frameAt?, shape] at stands
                  obtain ⟨rfl, verified⟩ := Sealed.header_of_front? parsed stands
                  exact Nat.le_of_not_lt fun unsearched => invalid ⟨unsearched, verified⟩

/-- The answer of a search over a buffer is one of its outcomes. -/
theorem searched_rescan
    (buffer : Bytes)
    (atEnd : Bool)
    (verified : Nat) :
    Searched buffer atEnd verified 0 none (rescan buffer atEnd verified) :=
  searched_searchFrom rfl (Nat.zero_le _)

section Rescan

variable {buffer : Bytes} {atEnd : Bool} {verified skipped needed : Nat} {header : Header}

/-- A search finds the first frame that was not searched before. -/
theorem exists_frameAt?_of_rescan
    (searched : rescan buffer atEnd verified = .found skipped header) :
    ∃ frame,
      frame.header = header ∧
        frameAt? buffer skipped = some frame ∧
        AllSearched buffer verified 0 skipped := by
  have outcome := searched_rescan buffer atEnd verified
  rw [searched] at outcome
  cases outcome with
  | found _ frame _ stands _ first =>
      exact ⟨frame, rfl, stands, first⟩

/-- A search waits at the first candidate that has not arrived. -/
theorem lacking_of_rescan
    (searched : rescan buffer atEnd verified = .incomplete skipped needed) :
    AllSearched buffer verified 0 buffer.length ∧
      skipped ≤ buffer.length ∧
      0 < shortage (buffer.drop skipped) ∧
      AllArrived buffer 0 skipped := by
  have outcome := searched_rescan buffer atEnd verified
  rw [searched] at outcome
  cases outcome with
  | recalled _ _ remembered => simp at remembered
  | incomplete _ _ _ none _ inside lacking arrived =>
      exact ⟨none, inside, lacking, arrived⟩

theorem allSearched_of_rescan_exhausted
    (searched : rescan buffer atEnd verified = .exhausted) :
    AllSearched buffer verified 0 buffer.length := by
  have outcome := searched_rescan buffer atEnd verified
  rw [searched] at outcome
  cases outcome with
  | exhausted _ _ none => exact none

theorem atEnd_of_rescan_incomplete
    (searched : rescan buffer atEnd verified = .incomplete skipped needed) :
    atEnd = false := by
  have outcome := searched_rescan buffer atEnd verified
  rw [searched] at outcome
  cases outcome with
  | recalled _ _ remembered => simp at remembered
  | incomplete _ _ goesOn => exact goesOn

theorem atEnd_of_rescan_exhausted
    (searched : rescan buffer atEnd verified = .exhausted) :
    atEnd = true := by
  have outcome := searched_rescan buffer atEnd verified
  rw [searched] at outcome
  cases outcome with
  | exhausted _ ended => exact ended

/-- A new frame at the front is found there. -/
theorem rescan_of_front?
    {frame : Sealed}
    (stands : Sealed.front? buffer = some frame)
    (unsearched : verified < frame.length) :
    rescan buffer atEnd verified = .found 0 frame.header := by
  have inside : 0 + frame.length ≤ buffer.length := add_length_le_of_frameAt? stands
  have positive := frame.length_pos
  match searched : rescan buffer atEnd verified with
  | .found offset header =>
      obtain ⟨found, rfl, standsThere, first⟩ := exists_frameAt?_of_rescan searched
      rcases Nat.eq_zero_or_pos offset with rfl | behind
      · rw [frameAt?_zero, stands] at standsThere
        cases standsThere
        rfl
      · have bound := first 0 frame (Nat.le_refl _) behind stands
        omega
  | .incomplete skipped needed =>
      have bound := (lacking_of_rescan searched).1 0 frame (Nat.le_refl _) (by omega) stands
      omega
  | .exhausted =>
      have bound :=
        allSearched_of_rescan_exhausted searched 0 frame (Nat.le_refl _) (by omega) stands
      omega

/-- A search over what the last one left goes no further: it waits for the same candidate. -/
theorem rescan_drop_of_incomplete
    (searched : rescan buffer false verified = .incomplete skipped needed) :
    ∃ further,
      rescan (buffer.drop skipped) false (buffer.drop skipped).length = .incomplete 0 further := by
  have lacking := (lacking_of_rescan searched).2.2.1
  have outcome := searched_rescan (buffer.drop skipped) false (buffer.drop skipped).length
  match again : rescan (buffer.drop skipped) false (buffer.drop skipped).length with
  | .found offset header =>
      rw [again] at outcome
      cases outcome with
      | found _ frame _ stands unsearched _ =>
          have bound := add_length_le_of_frameAt? stands
          omega
  | .exhausted => exact nomatch atEnd_of_rescan_exhausted again
  | .incomplete offset further =>
      have arrived := (lacking_of_rescan again).2.2.2
      rcases Nat.eq_zero_or_pos offset with rfl | behind
      · exact ⟨further, rfl⟩
      · have whole := arrived 0 (Nat.le_refl _) behind
        rw [List.drop_zero] at whole
        omega

end Rescan

end Frame

end EventWire
