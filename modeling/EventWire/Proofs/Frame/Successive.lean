import EventWire.Proofs.Frame.Isolation

namespace EventWire

/-!
# Frames found from left to right

A decoder that is handed all octets at once, whatever they are, takes the first
frame that stands in them, goes on behind it, and so takes frames that follow
one another.  Which ones it takes up to some point does not depend on what
stands behind the point, unless a frame reaches across it.
-/

namespace Frame

/-- The frames that are found when octets are read from left to right. -/
def successive : Bytes → List Sealed
  | [] => []
  | octet :: rest =>
    match Sealed.front? (octet :: rest) with
    | some frame => frame :: successive ((octet :: rest).drop frame.length)
    | none => successive rest
termination_by octets => octets.length
decreasing_by
  · have positive := frame.length_pos
    rw [List.length_drop, List.length_cons]
    omega
  · exact Nat.lt_succ_self _

section Successive

variable {octets : Bytes} {frame : Sealed}

theorem successive_of_front? (found : Sealed.front? octets = some frame) :
    successive octets = frame :: successive (octets.drop frame.length) := by
  cases octets with
  | nil => exact nomatch found
  | cons octet rest => rw [successive, found]

theorem successive_cons_of_none
    {octet : UInt8}
    {rest : Bytes}
    (missing : Sealed.front? (octet :: rest) = none) :
    successive (octet :: rest) = successive rest := by
  rw [successive, missing]

/-- Where no frame begins, none is passed over. -/
theorem successive_drop
    {count : Nat}
    (empty : ∀ offset < count, frameAt? octets offset = none) :
    successive (octets.drop count) = successive octets := by
  induction octets generalizing count with
  | nil => rw [List.drop_nil]
  | cons octet rest inductionHypothesis =>
      cases count with
      | zero => rfl
      | succ count =>
          rw [List.drop_succ_cons, successive_cons_of_none (empty 0 (Nat.succ_pos _))]
          exact inductionHypothesis fun offset before =>
            empty (offset + 1) (Nat.succ_lt_succ before)

/-- The first frame is found first. -/
theorem successive_of_first
    {skipped : Nat}
    (empty : ∀ offset < skipped, frameAt? octets offset = none)
    (stands : frameAt? octets skipped = some frame) :
    successive octets = frame :: successive (octets.drop (skipped + frame.length)) := by
  rw [← successive_drop empty, successive_of_front? stands, List.drop_drop]

theorem successive_eq_nil (empty : ∀ offset < octets.length, frameAt? octets offset = none) :
    successive octets = [] := by
  have nothing := successive_drop empty
  rw [List.drop_length, successive] at nothing
  exact nothing.symm

/-- Frames that are found in octets lie within them. -/
theorem length_le_of_mem_successive (member : frame ∈ successive octets) :
    frame.length ≤ octets.length := by
  fun_induction successive octets with
  | case1 => exact absurd member List.not_mem_nil
  | case2 octet rest first found inductionHypothesis =>
      have inside := @add_length_le_of_frameAt? (octet :: rest) 0 first found
      rcases List.mem_cons.mp member with rfl | later
      · omega
      · have within := inductionHypothesis later
        rw [List.length_drop] at within
        omega
  | case3 octet rest missing inductionHypothesis =>
      exact Nat.le_succ_of_le (inductionHypothesis member)

/-- No frame that begins in the front of octets reaches beyond it. -/
def Apart (front back : Bytes) : Prop :=
  ∀ offset < front.length, ∀ frame ∈ frameAt? (front ++ back) offset,
    offset + frame.length ≤ front.length

instance (front back : Bytes) : Decidable (Apart front back) :=
  inferInstanceAs (Decidable (∀ offset < front.length, ∀ frame ∈ _, _))

theorem Apart.drop
    {front back : Bytes}
    {count : Nat}
    (apart : Apart front back)
    (inside : count ≤ front.length) :
    Apart (front.drop count) back := by
  intro offset before frame stands
  rw [List.length_drop] at before ⊢
  rw [← List.drop_append_of_le_length inside, frameAt?_drop] at stands
  have within := apart (count + offset) (by omega) frame stands
  omega

/-- What is found in a front is found there whatever follows, unless a frame reaches beyond it. -/
theorem successive_append
    {front back : Bytes}
    (apart : Apart front back) :
    successive (front ++ back) = successive front ++ successive back := by
  fun_induction successive front with
  | case1 => rfl
  | case2 octet rest frame found inductionHypothesis =>
      have stands : frameAt? (octet :: rest) 0 = some frame := found
      have inside : 0 + frame.length ≤ (octet :: rest).length := add_length_le_of_frameAt? stands
      rw [Nat.zero_add] at inside
      have standsStill : Sealed.front? (octet :: rest ++ back) = some frame :=
        frameAt?_append stands back
      rw [successive_of_front? standsStill, List.drop_append_of_le_length inside,
        inductionHypothesis (apart.drop inside)]
      rfl
  | case3 octet rest missing inductionHypothesis =>
      have missingStill : Sealed.front? (octet :: rest ++ back) = none := by
        cases found : Sealed.front? (octet :: rest ++ back) with
        | none => rfl
        | some frame =>
            have within := apart 0 (Nat.succ_pos _) frame found
            have stands : Sealed.front? (octet :: rest) = some frame :=
              @frameAt?_of_append _ _ 0 _ found within
            exact nomatch missing.symm.trans stands
      rw [List.cons_append] at missingStill ⊢
      rw [successive_cons_of_none missingStill]
      exact inductionHypothesis (apart.drop (Nat.succ_le_succ (Nat.zero_le _)))

end Successive

namespace Decoder

/-- At the end of the stream a decoder takes the frames that are found from left to right. -/
theorem drain_atEnd_eq
    {decoder : Decoder}
    (unverified : decoder.verified = 0) :
    (decoder.drain true).value.1 =
      Reassembly.completed decoder.termination decoder.maxEventSize decoder.held
        (successive decoder.buffer) := by
  have sound := Sound.of_verified_eq_zero unverified
  match searched : rescan decoder.buffer true decoder.verified with
  | .incomplete skipped needed => exact nomatch atEnd_of_rescan_incomplete searched
  | .exhausted =>
      have allSearched := allSearched_of_rescan_exhausted searched
      obtain ⟨phase, finished⟩ := value_drain_of_exhausted searched
      rw [finished, successive_eq_nil fun _ inside => sound.frameAt?_eq_none allSearched inside]
      rfl
  | .found skipped header =>
      obtain ⟨frame, rfl, stands, first⟩ := exists_frameAt?_of_rescan searched
      have inside := add_length_le_of_frameAt? stands
      have positive := frame.length_pos
      rw [value_drain_of_found searched stands,
        successive_of_first (fun _ before => sound.frameAt?_eq_none first before) stands]
      dsimp only
      rw [drain_atEnd_eq rfl, Reassembly.completed, Reassembly.completed, Reassembly.run,
        List.append_assoc]
      rfl
termination_by decoder.buffer.length
decreasing_by
  simp only [behind, List.length_drop]
  omega

end Decoder

end Frame

end EventWire
