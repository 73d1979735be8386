import EventWire.Proofs.Transport.Blocks

namespace EventWire

/-!
# Receiving arbitrary octets

Whatever octets arrive at an enabled filter, they are whole blocks with a tail
behind them at whose front no block is whole.  The blocks are told one by one,
also those that cannot be decompressed.  Then comes what the tail amounts to: the
refusal of a length that no block may have, or the end of the octets.  Each call
tells the next of these answers or is blocked, so the answers depend on the octets
and not on where they were cut, when they arrived or which of them were handed
over.
-/

namespace Filter

/-- A compressed stream as it stands in a block, behind its length. -/
def framed (compressed : Bytes) : Bytes :=
  BigEndian.encode32 (UInt32.ofNat compressed.length) ++ compressed

/-- Octets are whole blocks, with something behind them at whose front no block is whole. -/
structure Cut (octets : Bytes) (blocks : List Bytes) (tail : Bytes) : Prop where
  shape : octets = (blocks.map framed).flatten ++ tail
  short : ∀ compressed ∈ blocks, compressed.length ≤ maxBlock
  unfinished : ∀ compressed rest, Front.ofBytes tail ≠ .whole compressed rest

namespace Cut

variable {octets compressed rest tail : Bytes} {blocks : List Bytes} {length : Nat}

theorem ofBytes_framed
    (short : compressed.length ≤ maxBlock)
    (later : Bytes) :
    Front.ofBytes (framed compressed ++ later) = .whole compressed later :=
  @ofBytes_block ⟨fun octets => octets, some⟩ compressed short later

/-- A block at the front of octets is one that can be cut off. -/
theorem eq_framed_of_whole
    (whole : Front.ofBytes octets = .whole compressed rest) :
    octets = framed compressed ++ rest ∧ compressed.length ≤ maxBlock := by
  match octets, whole with
  | first :: second :: third :: fourth :: behind, whole =>
      rw [Front.ofBytes] at whole
      split at whole
      · cases whole
      · next small =>
          dsimp only at whole
          split at whole
          · next taken =>
              obtain ⟨rfl, rfl⟩ := Front.whole.inj whole
              rw [framed, taken, UInt32.ofNat_toNat, BigEndian.encode32_decode32, List.append_assoc,
                List.take_append_drop]
              exact ⟨rfl, Nat.le_of_not_lt small⟩
          · cases whole

/-- All octets can be cut into blocks and a tail. -/
theorem exists_cut (octets : Bytes) : ∃ blocks tail, Cut octets blocks tail := by
  cases front : Front.ofBytes octets with
  | whole compressed rest =>
      have shorter := length_rest_lt front
      obtain ⟨shape, short⟩ := eq_framed_of_whole front
      obtain ⟨blocks, tail, cut⟩ := exists_cut rest
      refine ⟨compressed :: blocks, tail, ?_, List.forall_mem_cons.mpr ⟨short, cut.short⟩,
        cut.unfinished⟩
      rw [List.map_cons, List.flatten_cons, List.append_assoc, ← cut.shape]
      exact shape
  | partly =>
      exact ⟨[], octets, rfl, List.forall_mem_nil _, fun _ _ whole => by
        cases front.symm.trans whole⟩
  | tooLong length =>
      exact ⟨[], octets, rfl, List.forall_mem_nil _, fun _ _ whole => by
        cases front.symm.trans whole⟩
termination_by octets.length

/-- A whole block at the front is the first one, and the others are behind it. -/
theorem of_whole
    (cut : Cut octets blocks tail)
    (whole : Front.ofBytes octets = .whole compressed rest) :
    ∃ others, blocks = compressed :: others ∧ Cut rest others tail := by
  obtain ⟨shape, short, unfinished⟩ := cut
  cases blocks with
  | nil =>
      rw [List.map_nil, List.flatten_nil, List.nil_append] at shape
      exact absurd (shape ▸ whole) (unfinished _ _)
  | cons first others =>
      rw [List.forall_mem_cons] at short
      rw [List.map_cons, List.flatten_cons, List.append_assoc] at shape
      rw [shape, ofBytes_framed short.1] at whole
      obtain ⟨rfl, rfl⟩ := Front.whole.inj whole
      exact ⟨others, rfl, rfl, short.2, unfinished⟩

/-- If no block is whole at the front, there is nothing but the tail. -/
theorem of_not_whole
    (cut : Cut octets blocks tail)
    (none : ∀ compressed rest, Front.ofBytes octets ≠ .whole compressed rest) :
    blocks = [] ∧ octets = tail := by
  obtain ⟨shape, short, -⟩ := cut
  cases blocks with
  | nil => exact ⟨rfl, shape⟩
  | cons first others =>
      rw [List.forall_mem_cons] at short
      rw [List.map_cons, List.flatten_cons, List.append_assoc] at shape
      exact absurd (shape ▸ ofBytes_framed short.1 _) (none _ _)

end Cut

/-- What a compressed stream yields when it is opened. -/
def opened (decompress : Bytes → Option Bytes) (compressed : Bytes) : Arrival :=
  match decompress compressed with
  | some octets => .data octets
  | none => .failed .corruptBlock

/-- What comes behind the last block: a refusal, or the end if the peer has closed. -/
def ending (tail : Bytes) (closes : Bool) : Arrival :=
  match Front.ofBytes tail with
  | .tooLong length => .failed (.blockTooLong length)
  | _ => if closes then .closed else .blocked

/-- What is told after so many answers. -/
def answer
    (decompress : Bytes → Option Bytes)
    (blocks : List Bytes)
    (tail : Bytes)
    (closes : Bool)
    (told : Nat) :
    Arrival :=
  (blocks[told]?.map (opened decompress)).getD (ending tail closes)

/-- What arrives before a call: some chunks, and then perhaps the end. -/
structure Delivery where
  chunks : List Bytes
  closes : Bool

/-- The filter when a delivery has arrived. -/
def delivered (filter : Filter) (delivery : Delivery) : Filter :=
  let heard := filter.hears delivery.chunks
  { heard with
    connection :=
      { heard.connection with
        peerFinished := heard.connection.peerFinished || delivery.closes } }

/-- What is yielded, call for call, and what the last call leaves. -/
def receiveAll (filter : Filter) : List Delivery → List Arrival × Filter
  | [] => ([], filter)
  | delivery :: later =>
    let called := (filter.delivered delivery).receive.value
    let others := called.2.receiveAll later
    (called.1 :: others.1, others.2)

/-- The octets that deliveries bring. -/
def brought (deliveries : List Delivery) : Bytes :=
  (deliveries.flatMap Delivery.chunks).flatten

/-- Nothing arrives behind the end. -/
def Timely (closed : Bool) : List Delivery → Prop
  | [] => True
  | delivery :: later =>
    (closed = true → delivery.chunks = []) ∧ Timely (closed || delivery.closes) later

/-- Answers that were told: a call that is blocked tells none. -/
def told (arrivals : List Arrival) : List Arrival :=
  arrivals.filter (· ≠ .blocked)

section Facing

variable {decompress : Bytes → Option Bytes} {blocks : List Bytes} {tail : Bytes} {closes : Bool}

theorem answer_nil (told : Nat) :
    answer decompress [] tail closes told = ending tail closes :=
  rfl

theorem opened_ne_blocked (compressed : Bytes) : opened decompress compressed ≠ .blocked := by
  rw [opened]
  split <;> exact nofun

/--
A filter faces blocks and a tail: they are the octets that it has not used up and
those that later deliveries bring, and `closes` says whether its peer closes at last.
-/
structure Faces
    (decompress : Bytes → Option Bytes)
    (blocks : List Bytes)
    (tail : Bytes)
    (closes : Bool)
    (later : List Delivery)
    (filter : Filter) :
    Prop where
  enabled : filter.enabled = true
  opens : filter.compressor.decompress = decompress
  cut : Cut (filter.unread ++ brought later) blocks tail
  timely : Timely filter.connection.peerFinished later
  ends : (filter.connection.peerFinished || later.any Delivery.closes) = closes

variable {filter : Filter} {delivery : Delivery} {later : List Delivery}

theorem unread_delivered (filter : Filter) (delivery : Delivery) :
    (filter.delivered delivery).unread = filter.unread ++ delivery.chunks.flatten :=
  unread_hears filter delivery.chunks

theorem brought_cons (delivery : Delivery) (later : List Delivery) :
    brought (delivery :: later) = delivery.chunks.flatten ++ brought later := by
  rw [brought, List.flatMap_cons, List.flatten_append]
  rfl

/-- Nothing is brought once the peer has closed. -/
theorem Timely.brought_eq_nil
    {deliveries : List Delivery}
    (timely : Timely true deliveries) :
    brought deliveries = [] := by
  induction deliveries with
  | nil => rfl
  | cons delivery later inductionHypothesis =>
      rw [brought_cons, timely.1 rfl, inductionHypothesis timely.2]
      rfl

namespace Faces

theorem of_delivered
    (faces : filter.Faces decompress blocks tail closes (delivery :: later)) :
    (filter.delivered delivery).Faces decompress blocks tail closes later where
  enabled := faces.enabled
  opens := faces.opens
  cut := by
    rw [unread_delivered, List.append_assoc, ← brought_cons]
    exact faces.cut
  timely := faces.timely.2
  ends := by
    rw [← faces.ends, List.any_cons, ← Bool.or_assoc]
    rfl

/-- A call tells the first of the answers, or is blocked until more arrives. -/
theorem receive_cases (faces : filter.Faces decompress blocks tail closes later) :
    (filter.receive.value.1 = answer decompress blocks tail closes 0 ∧
        filter.receive.value.1 ≠ .blocked ∧
        ∃ others rest,
          (∀ told,
            answer decompress others rest closes told =
              answer decompress blocks tail closes (told + 1)) ∧
            filter.receive.value.2.Faces decompress others rest closes later) ∨
      filter.receive.value.1 = .blocked ∧
        filter.receive.value.2.Faces decompress blocks tail closes later ∧
        (later = [] → answer decompress blocks tail closes 0 = .blocked) := by
  obtain ⟨enabled, opens, cut, timely, ends⟩ := faces
  obtain ⟨inbox, counters, received, yielded, left⟩ := receive_eq_next enabled
  rw [yielded]
  rw [next] at left ⊢
  cases front : Front.ofBytes filter.unread with
  | whole compressed rest =>
      rw [front] at left
      have whole : Front.ofBytes (filter.unread ++ brought later) =
          .whole compressed (rest ++ brought later) := by
        rw [Front.ofBytes_append (fun partly => by cases front.symm.trans partly), front]
      obtain ⟨others, rfl, cutBehind⟩ := cut.of_whole whole
      have first : filter.open? compressed = opened decompress compressed := by
        rw [open?, opens]
        rfl
      refine .inl ⟨first, fun blocked => opened_ne_blocked compressed (first.symm.trans blocked),
        others, tail, fun _ => rfl,
        enabled, opens, ?_, timely, ends⟩
      rw [left]
      exact cutBehind
  | tooLong length =>
      rw [front] at left
      have refused : Front.ofBytes (filter.unread ++ brought later) = .tooLong length := by
        rw [Front.ofBytes_append (fun partly => by cases front.symm.trans partly), front]
      obtain ⟨rfl, same⟩ := cut.of_not_whole fun _ _ whole => by
        cases refused.symm.trans whole
      have last : ending tail closes = .failed (.blockTooLong length) := by
        rw [ending, ← same, refused]
      refine .inl ⟨last.symm, (fun blocked => by cases blocked), [], tail, fun _ => rfl, enabled,
        opens, ?_, timely, ends⟩
      rw [left]
      exact cut
  | partly =>
      rw [front] at left
      dsimp only at left ⊢
      by_cases finished : filter.connection.peerFinished = true
      · rw [if_pos finished] at left ⊢
        have nothing : brought later = [] := (finished ▸ timely).brought_eq_nil
        rw [nothing, List.append_nil] at cut
        obtain ⟨rfl, rfl⟩ := cut.of_not_whole fun _ _ whole => by
          cases front.symm.trans whole
        have closed : closes = true := by
          rw [← ends, finished, Bool.true_or]
        have ended (tail : Bytes) (partly : Front.ofBytes tail = .partly) :
            ending tail closes = .closed := by
          rw [ending, partly, closed]
          rfl
        refine .inl ⟨(ended _ front).symm, (fun blocked => by cases blocked), [], [],
          fun told => ?_, enabled, opens, ?_, timely, ends⟩
        · rw [answer_nil, answer_nil, ended _ front, ended _ rfl]
        · rw [left, nothing]
          exact ⟨rfl, List.forall_mem_nil _, fun _ _ whole => by cases whole⟩
      · rw [if_neg finished] at left ⊢
        refine .inr ⟨rfl, ⟨enabled, opens, ?_, timely, ends⟩, ?_⟩
        · rw [left]
          exact cut
        · rintro rfl
          rw [show brought [] = [] from rfl, List.append_nil] at cut
          obtain ⟨rfl, rfl⟩ := cut.of_not_whole fun _ _ whole => by
            cases front.symm.trans whole
          have stays : closes = false := by
            rw [← ends, Bool.eq_false_iff.mpr finished]
            rfl
          rw [answer_nil, ending, front, stays]
          rfl

/-- The answers are told in order, and what is left faces those that have not been told. -/
theorem told_receiveAll
    {deliveries : List Delivery}
    (faces : filter.Faces decompress blocks tail closes deliveries) :
    ∃ count others rest,
      told (filter.receiveAll deliveries).1 =
        (List.range count).map (answer decompress blocks tail closes) ∧
        (∀ told,
          answer decompress others rest closes told =
            answer decompress blocks tail closes (count + told)) ∧
        (filter.receiveAll deliveries).2.Faces decompress others rest closes [] := by
  induction deliveries generalizing filter blocks tail with
  | nil => exact ⟨0, blocks, tail, rfl, fun told => by rw [Nat.zero_add], faces⟩
  | cons delivery later inductionHypothesis =>
      rcases faces.of_delivered.receive_cases with
        ⟨first, unblocked, others, rest, behind, facesThen⟩ | ⟨blocked, facesThen, -⟩
      · obtain ⟨count, left, last, answers, shifted, facesLast⟩ := inductionHypothesis facesThen
        refine ⟨count + 1, left, last, ?_, fun told => ?_, facesLast⟩
        · rw [receiveAll, told, List.filter_cons_of_pos (by simpa using unblocked),
            List.range_succ_eq_map, List.map_cons, List.map_map, first]
          refine congrArg _ (answers.trans (List.map_congr_left fun told _ => ?_))
          exact behind told
        · rw [shifted, behind]
          congr 1
          omega
      · obtain ⟨count, left, last, answers, shifted, facesLast⟩ := inductionHypothesis facesThen
        refine ⟨count, left, last, ?_, shifted, facesLast⟩
        rw [receiveAll, told, List.filter_cons_of_neg (by simpa using blocked)]
        exact answers

end Faces

end Facing

section Last

variable {filter : Filter} {length : Nat} {deliveries : List Delivery}

theorem enabled_receive (enabled : filter.enabled = true) :
    filter.receive.value.2.enabled = true := by
  obtain ⟨_, _, _, heard⟩ := filter.exists_hearing_of_receive
  rw [heard]
  exact enabled

/-- Behind a refused length nothing is received any more: what arrives waits where it is. -/
theorem receiveAll_of_refused
    (enabled : filter.enabled = true)
    (refused : Front.ofBytes filter.received = .tooLong length)
    (deliveries : List Delivery) :
    filter.receiveAll deliveries =
      (List.replicate deliveries.length (.failed (.blockTooLong length)),
        deliveries.foldl Filter.delivered filter) := by
  induction deliveries generalizing filter with
  | nil => rfl
  | cons delivery later inductionHypothesis =>
      have called : (filter.delivered delivery).receive.value =
          (.failed (.blockTooLong length), filter.delivered delivery) := by
        rw [receive_of_enabled (show (filter.delivered delivery).enabled = true from enabled),
          receiveBlock, show Front.ofBytes (filter.delivered delivery).received = _ from refused]
        rfl
      rw [receiveAll, called]
      dsimp only
      rw [@inductionHypothesis (filter.delivered delivery) enabled refused]
      rfl

theorem refused_of_receiveBlock
    {filter : Filter}
    (failed : filter.receiveBlock.value.1 = .failed (.blockTooLong length)) :
    Front.ofBytes filter.receiveBlock.value.2.received = .tooLong length := by
  cases front : Front.ofBytes filter.received with
  | whole compressed rest =>
      rw [receiveBlock, front] at failed
      dsimp only [Noted.value_silent, open?] at failed
      split at failed <;> cases failed
  | tooLong other =>
      rw [receiveBlock, front] at failed ⊢
      cases failed
      exact front
  | partly =>
      cases inbox : filter.connection.inbox with
      | cons octets rest =>
          rw [receiveBlock_of_partly front inbox] at failed ⊢
          exact refused_of_receiveBlock failed
      | nil =>
          rw [value_receiveBlock_of_nothing front inbox] at failed
          split at failed <;> cases failed
termination_by filter.connection.inbox.length
decreasing_by
  rw [inbox]
  exact Nat.lt_succ_self _

/-- A length that is refused stands at the front of what the call leaves. -/
theorem refused_of_receive
    (enabled : filter.enabled = true)
    (failed : filter.receive.value.1 = .failed (.blockTooLong length)) :
    Front.ofBytes filter.receive.value.2.received = .tooLong length := by
  rw [receive_of_enabled enabled] at failed ⊢
  exact refused_of_receiveBlock failed

theorem received_foldl_delivered (filter : Filter) (deliveries : List Delivery) :
    (deliveries.foldl Filter.delivered filter).received = filter.received := by
  induction deliveries generalizing filter with
  | nil => rfl
  | cons delivery later inductionHypothesis => exact inductionHypothesis (filter.delivered delivery)

theorem enabled_receiveAll
    (enabled : filter.enabled = true)
    (deliveries : List Delivery) :
    (filter.receiveAll deliveries).2.enabled = true := by
  induction deliveries generalizing filter with
  | nil => exact enabled
  | cons delivery later inductionHypothesis =>
      exact inductionHypothesis (@enabled_receive (filter.delivered delivery) enabled)

theorem refused_of_mem
    (enabled : filter.enabled = true)
    (failed : .failed (.blockTooLong length) ∈ (filter.receiveAll deliveries).1) :
    Front.ofBytes (filter.receiveAll deliveries).2.received = .tooLong length := by
  induction deliveries generalizing filter with
  | nil => exact absurd failed List.not_mem_nil
  | cons delivery later inductionHypothesis =>
      have enabledThen := @enabled_receive (filter.delivered delivery) enabled
      rcases List.mem_cons.mp failed with first | others
      · have refused := @refused_of_receive (filter.delivered delivery) _ enabled first.symm
        rw [receiveAll]
        dsimp only
        rw [receiveAll_of_refused enabledThen refused, received_foldl_delivered]
        exact refused
      · exact inductionHypothesis enabledThen others

/-- A call that tells the end has dropped what had arrived of a block. -/
theorem of_receive_eq_closed
    (enabled : filter.enabled = true)
    (closed : filter.receive.value.1 = .closed) :
    filter.receive.value.2.unread = [] ∧ filter.receive.value.2.connection.peerFinished = true := by
  obtain ⟨inbox, counters, received, yielded, left⟩ := receive_eq_next enabled
  rw [yielded] at closed ⊢
  rw [left]
  rw [next] at closed ⊢
  cases front : Front.ofBytes filter.unread with
  | whole compressed rest =>
      rw [front] at closed
      dsimp only [open?] at closed
      split at closed <;> cases closed
  | tooLong length =>
      rw [front] at closed
      cases closed
  | partly =>
      rw [front] at closed
      dsimp only at closed ⊢
      split at closed
      · next finished => exact ⟨by rw [if_pos finished], finished⟩
      · cases closed

theorem receive_of_ended
    (enabled : filter.enabled = true)
    (empty : filter.unread = [])
    (finished : filter.connection.peerFinished = true) :
    filter.receive.value.1 = .closed := by
  obtain ⟨inbox, counters, received, yielded, -⟩ := receive_eq_next enabled
  rw [yielded, next, empty]
  exact congrArg Prod.fst (if_pos finished)

theorem unread_receiveAll_of_ended
    (enabled : filter.enabled = true)
    (empty : filter.unread = [])
    (finished : filter.connection.peerFinished = true)
    (timely : Timely true deliveries) :
    (filter.receiveAll deliveries).2.unread = [] := by
  induction deliveries generalizing filter with
  | nil => exact empty
  | cons delivery later inductionHypothesis =>
      have emptyThen : (filter.delivered delivery).unread = [] := by
        rw [unread_delivered, empty, timely.1 rfl]
        rfl
      have finishedThen : (filter.delivered delivery).connection.peerFinished = true := by
        rw [Filter.delivered, hears, finished]
        rfl
      have closed := @receive_of_ended (filter.delivered delivery) enabled emptyThen finishedThen
      obtain ⟨left, still⟩ := @of_receive_eq_closed (filter.delivered delivery) enabled closed
      exact
        inductionHypothesis (@enabled_receive (filter.delivered delivery) enabled) left still
          timely.2

theorem unread_of_mem
    (enabled : filter.enabled = true)
    (timely : Timely filter.connection.peerFinished deliveries)
    (closed : .closed ∈ (filter.receiveAll deliveries).1) :
    (filter.receiveAll deliveries).2.unread = [] := by
  induction deliveries generalizing filter with
  | nil => exact absurd closed List.not_mem_nil
  | cons delivery later inductionHypothesis =>
      have enabledThen := @enabled_receive (filter.delivered delivery) enabled
      have timelyThen :
          Timely (filter.delivered delivery).receive.value.2.connection.peerFinished later := by
        obtain ⟨_, _, _, heard⟩ := (filter.delivered delivery).exists_hearing_of_receive
        rw [heard]
        exact timely.2
      rcases List.mem_cons.mp closed with first | others
      · obtain ⟨left, finished⟩ :=
          @of_receive_eq_closed (filter.delivered delivery) enabled first.symm
        rw [finished] at timelyThen
        rw [receiveAll]
        exact unread_receiveAll_of_ended enabledThen left finished timelyThen
      · exact inductionHypothesis enabledThen timelyThen others

end Last

/--
Octets are blocks and a tail.  However they come to a filter that has been
enabled, handed over, cut into chunks, sooner or later, its calls tell the answers
to the blocks one by one, and then to the tail, and the next call tells the next
answer.  Once a length is refused it stays where it is, and while it is there what
arrives is left alone; after the end nothing is left.
-/
theorem received_in_order
    (decompress : Bytes → Option Bytes)
    (octets : Bytes)
    (closes : Bool) :
    (∃ blocks tail, Cut octets blocks tail) ∧
      ∀ (blocks : List Bytes) (tail : Bytes), Cut octets blocks tail →
        ∀ (base : Filter) (pending : Bytes) (deliveries : List Delivery),
          base.compressor.decompress = decompress →
          pending ++ base.unread ++ brought deliveries = octets →
          Timely base.connection.peerFinished deliveries →
          (base.connection.peerFinished || deliveries.any Delivery.closes) = closes →
          let run := (base.enable pending).value.receiveAll deliveries
          let count := (told run.1).length
          told run.1 = (List.range count).map (answer decompress blocks tail closes) ∧
            run.2.receive.value.1 = answer decompress blocks tail closes count ∧
            (∀ length, .failed (.blockTooLong length) ∈ told run.1 →
              Front.ofBytes run.2.received = .tooLong length) ∧
            (∀ length, Front.ofBytes run.2.received = .tooLong length → ∀ later,
              run.2.receiveAll later =
                (List.replicate later.length (.failed (.blockTooLong length)),
                  later.foldl delivered run.2)) ∧
            (.closed ∈ told run.1 → run.2.unread = []) := by
  refine ⟨Cut.exists_cut octets, ?_⟩
  intro blocks tail cut base pending deliveries opens whole timely ends run count
  let filter := (base.enable pending).value
  have enabled : filter.enabled = true := rfl
  have unread : filter.unread = pending ++ base.unread := by
    rw [Filter.unread, Filter.unread, ← List.append_assoc]
    rfl
  have faces : filter.Faces decompress blocks tail closes deliveries :=
    ⟨enabled, opens, by rw [unread, whole]; exact cut, timely, ends⟩
  obtain ⟨answered, others, rest, answers, shifted, facesLast⟩ := faces.told_receiveAll
  have counted : count = answered := by
    rw [show count = (told run.1).length from rfl, answers, List.length_map, List.length_range]
  refine ⟨counted ▸ answers, ?_, fun length refused => ?_, fun length => ?_, fun closed => ?_⟩
  · have first : answer decompress others rest closes 0 =
        answer decompress blocks tail closes count := by
      rw [shifted, counted, Nat.add_zero]
    rcases facesLast.receive_cases with ⟨next, -⟩ | ⟨blocked, -, lacking⟩
    · exact next.trans first
    · exact blocked.trans ((lacking rfl).symm.trans first)
  · exact refused_of_mem enabled (List.mem_filter.mp refused).1
  · exact receiveAll_of_refused (enabled_receiveAll enabled deliveries)
  · exact unread_of_mem enabled timely (List.mem_filter.mp closed).1

section Sample

/-- An end on which a stream of one octet cannot be decompressed. -/
def picky : Filter :=
  .passthrough (.fresh ⟨1⟩)
    ⟨fun octets => octets,
      fun compressed => if compressed.length = 1 then none else some compressed⟩
    0

/--
Behind a block, a block that cannot be decompressed and a third one, a length that
is too long is refused; the first octets are handed over and the others cut anyhow.
-/
theorem received_in_order_mixed :
    let blocks : List Bytes := [[7, 8], [9], []]
    let deliveries : List Delivery :=
      [⟨[[2, 7]], false⟩, ⟨[[8, 0, 0, 0], [1, 9, 0, 0, 0, 0, 4]], false⟩, ⟨[], false⟩,
        ⟨[[0, 0, 1]], true⟩, ⟨[], false⟩, ⟨[], false⟩]
    let run := (picky.enable [0, 0, 0]).value.receiveAll deliveries
    Cut [0, 0, 0, 2, 7, 8, 0, 0, 0, 1, 9, 0, 0, 0, 0, 4, 0, 0, 1] blocks [4, 0, 0, 1] ∧
      told run.1 =
        (List.range (told run.1).length).map
          (answer picky.compressor.decompress blocks [4, 0, 0, 1] true) ∧
      (List.range 4).map (answer picky.compressor.decompress blocks [4, 0, 0, 1] true) =
        [.data [7, 8], .failed .corruptBlock, .data [], .failed (.blockTooLong 67108865)] := by
  intro blocks deliveries run
  have cut : Cut [0, 0, 0, 2, 7, 8, 0, 0, 0, 1, 9, 0, 0, 0, 0, 4, 0, 0, 1] blocks [4, 0, 0, 1] :=
    ⟨rfl, by decide, fun _ _ => nofun⟩
  have timely : Timely false deliveries :=
    ⟨nofun, nofun, nofun, nofun, fun _ => rfl, fun _ => rfl, trivial⟩
  obtain ⟨-, answers⟩ :=
    received_in_order picky.compressor.decompress
      [0, 0, 0, 2, 7, 8, 0, 0, 0, 1, 9, 0, 0, 0, 0, 4, 0, 0, 1] true
  obtain ⟨told, -⟩ :=
    answers blocks [4, 0, 0, 1] cut picky [0, 0, 0] deliveries rfl rfl timely rfl
  exact ⟨cut, told, rfl⟩

end Sample

end Filter

end EventWire
