namespace EventWire

/-!
# Cutting text at octets

Positions in a text are counted in the octets of its UTF-8 form.  A text can be
cut only where a character ends, so a cut elsewhere has no result.
-/

namespace Text

/-- A text without the characters that take up its first octets. -/
def dropOctets? : Nat → List Char → Option (List Char)
  | 0, text => some text
  | _, [] => none
  | count, character :: rest =>
    if character.utf8Size ≤ count then dropOctets? (count - character.utf8Size) rest else none

/-- The characters that take up the first octets of a text. -/
def takeOctets? : Nat → List Char → Option (List Char)
  | 0, _ => some []
  | _, [] => none
  | count, character :: rest =>
    if character.utf8Size ≤ count then
      (takeOctets? (count - character.utf8Size) rest).map (character :: ·)
    else none

/-- The characters between two positions. -/
def cut? (start stop : Nat) (text : List Char) : Option (List Char) :=
  (dropOctets? start text).bind (takeOctets? (stop - start))

/-- A text falls apart into the characters of its first octets and those behind them. -/
theorem take_append_drop
    (text : List Char) :
    ∀ {count : Nat} {taken left : List Char},
      takeOctets? count text = some taken → dropOctets? count text = some left →
        taken ++ left = text := by
  induction text with
  | nil =>
    intro count taken left takenRead leftRead
    cases count with
    | zero => simp_all [takeOctets?, dropOctets?]
    | succ count => simp [takeOctets?] at takenRead
  | cons character rest inductionHypothesis =>
    intro count taken left takenRead leftRead
    cases count with
    | zero => simp_all [takeOctets?, dropOctets?]
    | succ count =>
      simp only [takeOctets?, dropOctets?] at takenRead leftRead
      split at takenRead
      · simp only [Option.map_eq_some_iff] at takenRead
        obtain ⟨behind, behindRead, rfl⟩ := takenRead
        simp_all only [ite_true, List.cons_append, List.cons.injEq, true_and]
        exact inductionHypothesis behindRead leftRead
      · simp at takenRead

end Text

end EventWire
