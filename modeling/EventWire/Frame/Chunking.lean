import EventWire.Frame.Header

namespace EventWire

/-!
# Cutting a body into frames

Every chunk of a body but the last is full and says that more follow.  A body
whose length is a multiple of the full chunk leaves nothing for the last one;
the termination policy says whether an empty frame closes it.

The frames of a body are appended to what has been written before by a loop that
stops in two places and narrows a length to sixteen bits.  It comes to the same
as cutting the body into chunks first.
-/

namespace Frame

/-- How the end of a body that fills its last chunk is marked. -/
inductive Termination where
  /-- An empty frame follows, so an event ends exactly with a frame that is not continued. -/
  | emptyFrame
  /-- Nothing follows: a frame of another event, or the end of the stream, ends it. -/
  | implicit
  deriving DecidableEq

/-- The octets of a sealed frame. -/
def write (identity : Identity) (chunkSize : UInt16) (payload : Bytes) : Bytes :=
  ((Header.unsealed identity chunkSize).sealFor payload).bytes ++ payload

/-- The chunks of a body, each with the chunk size its frame announces. -/
def chunks (termination : Termination) (body : Bytes) : List (UInt16 × Bytes) :=
  if body.length < maxChunk then [(UInt16.ofNat body.length, body)]
  else
    (moreFollow, body.take maxChunk) ::
      if body.length = maxChunk ∧ termination = .implicit then []
      else chunks termination (body.drop maxChunk)
termination_by body.length
decreasing_by
  rw [List.length_drop]
  simp only [maxChunk] at *
  omega

/-- The frames of a body in order. -/
def frames (identity : Identity) (termination : Termination) (body : Bytes) : List Bytes :=
  (chunks termination body).map fun chunk => write identity chunk.1 chunk.2

section Appending

variable (identity : Identity) (termination : Termination)

/--
Append the frames of a body to what has been written, and count them.

`rest` is what is left of the body, and `count` the number of frames so far.
-/
def appendFrames (written : Bytes) (count : Nat) (rest : Bytes) : Bytes × Nat :=
  if maxChunk ≤ rest.length then
    let extended := written ++ write identity moreFollow (rest.take maxChunk)
    let tail := rest.drop maxChunk
    if tail = [] ∧ termination = .implicit then (extended, count + 1)
    else appendFrames extended (count + 1) tail
  else (written ++ write identity (UInt16.ofNat rest.length) rest, count + 1)
termination_by rest.length
decreasing_by
  rw [List.length_drop]
  simp only [maxChunk] at *
  omega

/-- What has been written stays, and behind it come the frames of the body. -/
theorem appendFrames_eq
    (written : Bytes)
    (count : Nat)
    (rest : Bytes) :
    appendFrames identity termination written count rest =
      (written ++ (frames identity termination rest).flatten,
        count + (frames identity termination rest).length) := by
  fun_induction appendFrames identity termination written count rest with
  | case1 written count rest long extended tail final =>
      have whole : rest.length = maxChunk :=
        Nat.le_antisymm (List.drop_eq_nil_iff.mp final.1) long
      rw [frames, chunks, if_neg (Nat.not_lt_of_le long), if_pos ⟨whole, final.2⟩]
      simp only [List.map_cons, List.map_nil, List.flatten_cons, List.flatten_nil,
        List.append_nil, List.length_singleton, extended]
  | case2 written count rest long extended tail more inductionHypothesis =>
      have goesOn : ¬ (rest.length = maxChunk ∧ termination = .implicit) := fun final =>
        more ⟨List.drop_eq_nil_iff.mpr (Nat.le_of_eq final.1), final.2⟩
      have unfolded :
          frames identity termination rest =
            write identity moreFollow (rest.take maxChunk) :: frames identity termination tail := by
        rw [frames, chunks, if_neg (Nat.not_lt_of_le long), if_neg goesOn, List.map_cons]
        rfl
      rw [inductionHypothesis, unfolded, List.flatten_cons, List.length_cons,
        List.append_assoc, Nat.add_assoc, Nat.add_comm 1]
  | case3 written count rest short =>
      rw [frames, chunks, if_pos (Nat.lt_of_not_le short)]
      simp only [List.map_cons, List.map_nil, List.flatten_cons, List.flatten_nil,
        List.append_nil, List.length_singleton]

end Appending

end Frame

end EventWire
