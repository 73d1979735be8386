import EventWire.Proofs.Frame.Sending

namespace EventWire

/-!
# Where a delivered parcel comes from

When an empty frame closes every full body, a parcel is delivered only when a
frame that is not continued arrives.  Its octets are those of the frames of its
identity that stand before that one without a gap, and the frame before them
neither says that it goes on nor belongs to the same identity.
-/

namespace Frame

/-- Frames that make up a whole event: each but the last says that more follow. -/
structure Assembles (frames : List Sealed) (parcel : Parcel) : Prop where
  identity : ∀ frame ∈ frames, frame.identity = parcel.identity
  body : frames.flatMap Sealed.payload = parcel.body
  shape :
    ∃ front final,
      frames = front ++ [final] ∧
        (∀ frame ∈ front, frame.continues = true) ∧
        final.continues = false

namespace Assembles

/-- Of two whole events that one list of frames begins with, neither is longer. -/
private theorem frames_eq_of_shape
    {front other behind rest : List Sealed}
    {final last : Sealed}
    (same : front ++ final :: behind = other ++ last :: rest)
    (goOn : ∀ frame ∈ front, frame.continues = true)
    (ends : final.continues = false)
    (goOnToo : ∀ frame ∈ other, frame.continues = true)
    (endsToo : last.continues = false) :
    front ++ [final] = other ++ [last] := by
  induction front generalizing other with
  | nil =>
      cases other with
      | nil =>
          obtain ⟨rfl, _⟩ := List.cons.inj same
          rfl
      | cons frame others =>
          obtain ⟨rfl, _⟩ := List.cons.inj same
          rw [goOnToo final (List.mem_cons_self ..)] at ends
          exact Bool.noConfusion ends
  | cons frame front inductionHypothesis =>
      cases other with
      | nil =>
          obtain ⟨rfl, _⟩ := List.cons.inj same
          rw [goOn frame (List.mem_cons_self ..)] at endsToo
          exact Bool.noConfusion endsToo
      | cons other others =>
          obtain ⟨rfl, behindBoth⟩ := List.cons.inj same
          rw [List.forall_mem_cons] at goOn goOnToo
          rw [List.cons_append, List.cons_append,
            inductionHypothesis behindBoth goOn.2 goOnToo.2]

variable {frames others : List Sealed} {parcel other : Parcel}

theorem frames_eq
    {behind rest : List Sealed}
    (assembles : Assembles frames parcel)
    (assemblesToo : Assembles others other)
    (same : frames ++ behind = others ++ rest) :
    frames = others := by
  obtain ⟨front, final, rfl, goOn, ends⟩ := assembles.shape
  obtain ⟨front', final', rfl, goOn', ends'⟩ := assemblesToo.shape
  rw [List.append_assoc, List.append_assoc] at same
  exact frames_eq_of_shape same goOn ends goOn' ends'

theorem continues_of_mem
    {front behind : List Sealed}
    {frame earlier : Sealed}
    (assembles : Assembles (front ++ frame :: behind) parcel)
    (member : earlier ∈ front) :
    earlier.continues = true := by
  obtain ⟨init, final, shape, goOn, -⟩ := assembles.shape
  have inits := congrArg List.dropLast shape
  rw [List.dropLast_append_cons, List.dropLast_concat] at inits
  refine goOn earlier ?_
  rw [← inits]
  exact List.mem_append_left _ member

theorem exists_mem (assembles : Assembles frames parcel) :
    ∃ frame, frame ∈ frames := by
  obtain ⟨front, final, rfl, -, -⟩ := assembles.shape
  exact ⟨final, by simp⟩

theorem parcel_eq
    (assembles : Assembles frames parcel)
    (assemblesToo : Assembles frames other) :
    parcel = other := by
  obtain ⟨frame, member⟩ := assembles.exists_mem
  have identity : parcel.identity = other.identity :=
    (assembles.identity frame member).symm.trans (assemblesToo.identity frame member)
  have body : parcel.body = other.body := assembles.body.symm.trans assemblesToo.body
  obtain ⟨_, _⟩ := parcel
  obtain ⟨_, _⟩ := other
  cases identity
  cases body
  rfl

end Assembles

theorem assembles_carriersOf
    (identity : Identity)
    (body : Bytes) :
    Assembles (carriersOf .emptyFrame identity body) ⟨identity, body⟩ := by
  fun_induction carriersOf .emptyFrame identity body with
  | case1 body short =>
      exact
        { identity := by simp
          body := by simp
          shape := ⟨[], _, rfl, by simp, Sealed.continues_last short⟩ }
  | case2 body long inductionHypothesis =>
      obtain ⟨front, final, shape, goOn, ends⟩ := inductionHypothesis.shape
      simp only [reduceCtorEq, and_false, ↓reduceIte]
      exact
        { identity := List.forall_mem_cons.mpr ⟨rfl, inductionHypothesis.identity⟩
          body := by
            rw [List.flatMap_cons, inductionHypothesis.body, Sealed.payload_full,
              List.take_append_drop]
          shape :=
            ⟨_ :: front, final, by rw [shape, List.cons_append],
              List.forall_mem_cons.mpr ⟨rfl, goOn⟩, ends⟩ }

/-- The frames that carry a parcel make it up. -/
theorem assembles_carriers (parcel : Parcel) :
    Assembles parcel.carriers parcel :=
  assembles_carriersOf parcel.identity parcel.body

/-- A frame behind which no frame of an identity continues its event. -/
def Closed (identity : Identity) (history : List Sealed) : Prop :=
  ∀ frame ∈ history.getLast?, frame.continues = true → frame.identity ≠ identity

/-- Behind the frames of a parcel nothing has arrived. -/
def EndsWith (history : List Sealed) (parcel : Parcel) : Prop :=
  ∃ before taken,
    history = before ++ taken ∧
      Closed parcel.identity before ∧
      Assembles taken parcel

namespace Reassembly

/-- The frames that have arrived end with those of an event, whose body they carried. -/
def Opened (history : List Sealed) (event : Partial) : Prop :=
  ∃ before opened,
    history = before ++ opened ∧
      Closed event.identity before ∧
      (∀ frame ∈ opened, frame.continues = true ∧ frame.identity = event.identity) ∧
      (event.oversized = false → opened.flatMap Sealed.payload = event.body)

/-- What the frames that have arrived say about the held event. -/
def Holding (history : List Sealed) : Option Partial → Prop
  | none => ∀ frame ∈ history.getLast?, frame.continues = false
  | some event =>
    Opened history event ∧ ∀ frame ∈ history.getLast?, frame.identity = event.identity

section Step

variable {history : List Sealed} {frame : Sealed} {limit : Nat}

theorem opened_fresh
    {identity : Identity}
    (closed : Closed identity history) :
    Opened history (.fresh identity) :=
  ⟨history, [], (List.append_nil _).symm, closed, by simp, fun _ => rfl⟩

/-- Whether or not a frame ends the held event, it goes on with one that is open. -/
theorem Holding.interrupt
    {held : Option Partial}
    (holding : Holding history held)
    (identity : Identity) :
    ∃ kept,
      interrupt .emptyFrame identity held = ([], kept) ∧
        Opened history (kept.getD (.fresh identity)) ∧
        (kept.getD (.fresh identity)).identity = identity := by
  cases held with
  | none =>
      refine ⟨none, rfl, opened_fresh ?_, rfl⟩
      intro frame latest goesOn
      rw [holding frame latest] at goesOn
      exact Bool.noConfusion goesOn
  | some event =>
      obtain ⟨opened, sameIdentity⟩ := holding
      by_cases same : event.identity = identity
      · exact ⟨some event, if_pos same, opened, same⟩
      · refine ⟨none, if_neg same, opened_fresh ?_, rfl⟩
        intro frame latest _
        rw [sameIdentity frame latest]
        exact same

/-- An event that has not outgrown the limit has grown by the payload. -/
theorem body_grow
    {event : Partial}
    {payload : Bytes}
    (small : (event.grow limit payload).oversized = false) :
    event.oversized = false ∧ (event.grow limit payload).body = event.body ++ payload := by
  unfold Partial.grow at *
  split at small
  · next oversized =>
      rw [small] at oversized
      exact Bool.noConfusion oversized
  · next within =>
      rw [if_neg within]
      split at small
      · exact Bool.noConfusion small
      · next fits =>
          rw [if_neg fits]
          exact ⟨Bool.eq_false_iff.mpr within, rfl⟩

/-- A frame that says more follow leaves its event open. -/
theorem Opened.grow
    {event : Partial}
    (opened : Opened history event)
    (same : event.identity = frame.identity)
    (goesOn : frame.continues = true) :
    Opened (history ++ [frame]) (event.grow limit frame.payload) := by
  obtain ⟨before, frames, rfl, closed, alike, body⟩ := opened
  refine ⟨before, frames ++ [frame], List.append_assoc .., ?_, ?_, ?_⟩
  · rw [Partial.identity_grow]
    exact closed
  · intro other member
    rw [Partial.identity_grow]
    rcases List.mem_append.mp member with earlier | latest
    · exact alike other earlier
    · rw [List.mem_singleton.mp latest]
      exact ⟨goesOn, same.symm⟩
  · intro small
    obtain ⟨smallBefore, grown⟩ := body_grow small
    rw [grown, List.flatMap_append, body smallBefore, List.flatMap_singleton]

/-- A frame behind which nothing follows makes its event whole. -/
theorem Opened.deliver
    {event : Partial}
    (opened : Opened history event)
    (same : event.identity = frame.identity)
    (ends : frame.continues = false)
    {parcel : Parcel}
    (delivered : parcel ∈ (event.grow limit frame.payload).delivered) :
    EndsWith (history ++ [frame]) parcel := by
  obtain ⟨before, frames, rfl, closed, alike, body⟩ := opened
  unfold Partial.delivered at delivered
  split at delivered
  · simp at delivered
  · next small =>
      obtain ⟨smallBefore, grown⟩ := body_grow (Bool.eq_false_iff.mpr small)
      rw [List.mem_singleton] at delivered
      subst delivered
      refine ⟨before, frames ++ [frame], List.append_assoc .., ?_, ?_⟩
      · simp only [Partial.identity_grow]
        exact closed
      · exact
          { identity := by
              intro other member
              simp only [Partial.identity_grow]
              rcases List.mem_append.mp member with earlier | latest
              · exact (alike other earlier).2
              · rw [List.mem_singleton.mp latest]
                exact same.symm
            body := by
              rw [grown, List.flatMap_append, body smallBefore, List.flatMap_singleton]
            shape := ⟨frames, frame, rfl, fun other member => (alike other member).1, ends⟩ }

/-- One frame keeps the held event in step with what has arrived. -/
theorem Holding.take
    {held : Option Partial}
    (holding : Holding history held)
    (limit : Nat)
    (frame : Sealed) :
    let taken := Reassembly.take .emptyFrame limit held frame
    Holding (history ++ [frame]) taken.2 ∧
      ∀ parcel ∈ taken.1, EndsWith (history ++ [frame]) parcel := by
  obtain ⟨kept, interrupted, opened, same⟩ := holding.interrupt frame.identity
  simp only [Reassembly.take, interrupted, absorb, List.nil_append]
  cases continues : frame.continues with
  | true =>
      refine ⟨⟨opened.grow same continues, ?_⟩, by simp⟩
      intro latest member
      rw [List.getLast?_concat] at member
      cases member
      rw [Partial.identity_grow]
      exact same.symm
  | false =>
      refine ⟨?_, fun parcel delivered => opened.deliver same continues delivered⟩
      intro latest member
      rw [List.getLast?_concat] at member
      cases member
      exact continues

end Step

/-- Every parcel that is delivered was carried by frames without a gap between them. -/
theorem exists_of_mem_run
    {history frames : List Sealed}
    {limit : Nat}
    {held : Option Partial}
    {parcel : Parcel}
    (holding : Holding history held)
    (delivered : parcel ∈ (run .emptyFrame limit held frames).1) :
    ∃ before taken after,
      history ++ frames = before ++ taken ++ after ∧
        Closed parcel.identity before ∧
        Assembles taken parcel := by
  induction frames generalizing history held with
  | nil => simp [run] at delivered
  | cons frame rest inductionHypothesis =>
      obtain ⟨holdingNext, ended⟩ := holding.take limit frame
      rcases List.mem_append.mp delivered with now | later
      · obtain ⟨before, taken, shape, closed, assembles⟩ := ended parcel now
        refine ⟨before, taken, rest, ?_, closed, assembles⟩
        rw [← shape, List.append_assoc, List.singleton_append]
      · obtain ⟨before, taken, after, shape, closed, assembles⟩ :=
          inductionHypothesis holdingNext later
        refine ⟨before, taken, after, ?_, closed, assembles⟩
        rw [← shape, List.append_assoc, List.singleton_append]

/-- Every parcel that frames come to was carried by some of them without a gap. -/
theorem exists_of_mem_parcels
    {frames : List Sealed}
    {limit : Nat}
    {parcel : Parcel}
    (delivered : parcel ∈ parcels .emptyFrame limit frames) :
    ∃ before taken after,
      frames = before ++ taken ++ after ∧
        Closed parcel.identity before ∧
        Assembles taken parcel := by
  have silent : ∀ held, close .emptyFrame held = [] := by
    intro held
    cases held <;> rfl
  rw [parcels, silent, List.append_nil] at delivered
  have holding : Holding [] none := by simp [Holding]
  exact exists_of_mem_run holding delivered

end Reassembly

end Frame

end EventWire
