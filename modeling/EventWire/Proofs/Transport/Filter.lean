import EventWire.Proofs.BigEndian
import EventWire.Transport.Filter

namespace EventWire

/-!
# What a filter sends and receives

Sending changes what a filter has gathered and what its connection holds in the
outbox; receiving changes what has arrived and nothing else.  An enabled filter
yields blocks: which one comes next, and what is left behind it, depends on all
octets that have arrived and not on the chunks in which they did.
-/

namespace Connection

/-- Both this end and its peer still take part in what this end sends. -/
structure Writable (connection : Connection) : Prop where
  unfinished : connection.finished = false
  attended : connection.peerDropped = false

/-- A connection that has sent one more chunk. -/
def posted (connection : Connection) (octets : Bytes) : Connection :=
  { connection with
    outbox := connection.outbox ++ [octets]
    counters := connection.counters.sent (UInt64.ofNat octets.length) }

variable {connection : Connection} {octets : Bytes}

theorem send_of_writable
    (writable : connection.Writable)
    (some : octets ≠ []) :
    connection.send octets = .ok (connection.posted octets) := by
  rw [send, if_neg some, if_neg (Bool.eq_false_iff.mp writable.unfinished),
    if_neg (Bool.eq_false_iff.mp writable.attended)]
  rfl

theorem send_of_dropped
    (unfinished : connection.finished = false)
    (dropped : connection.peerDropped = true)
    (some : octets ≠ []) :
    connection.send octets = .error .peerDropped := by
  rw [send, if_neg some, if_neg (Bool.eq_false_iff.mp unfinished), if_pos dropped]

/-- Only an end that is closed or has lost its peer cannot send. -/
theorem of_send_eq_error
    {error : TransportError}
    (failed : connection.send octets = .error error) :
    ¬ connection.Writable ∧ (error = .shutDown ∨ error = .peerDropped) := by
  rw [send] at failed
  split at failed
  · exact nomatch failed
  · split at failed
    · next finished =>
        cases failed
        exact ⟨fun writable => Bool.eq_false_iff.mp writable.unfinished finished, .inl rfl⟩
    · split at failed
      · next dropped =>
          cases failed
          exact ⟨fun writable => Bool.eq_false_iff.mp writable.attended dropped, .inr rfl⟩
      · exact nomatch failed

end Connection

namespace Filter

section Sending

/-- A filter whose connection has sent one more chunk. -/
def posted (filter : Filter) (octets : Bytes) : Filter :=
  { filter with connection := filter.connection.posted octets }

/-- What sending octets makes of a filter: they are sent at once, or gathered for a block. -/
def accepted (filter : Filter) (octets : Bytes) : Filter :=
  if filter.enabled then
    if filter.bufferSize ≤ (filter.gathered ++ octets).length then
      { filter with gathered := [] }.posted (block filter.compressor (filter.gathered ++ octets))
    else { filter with gathered := filter.gathered ++ octets }
  else filter.posted octets

/-- What flushing makes of a filter: what it has gathered is sent as a block. -/
def pushed (filter : Filter) : Filter :=
  if filter.enabled ∧ filter.gathered ≠ [] then
    { filter with gathered := [] }.posted (block filter.compressor filter.gathered)
  else filter

variable {filter : Filter} {octets : Bytes}

theorem block_ne_nil (compressor : Compressor) (octets : Bytes) :
    block compressor octets ≠ [] :=
  List.cons_ne_nil _ _

theorem value_send_of_full
    (enabled : filter.enabled = true)
    (full :
      filter.bufferSize ≤ (filter.gathered ++ octets).length ∧ filter.gathered ++ octets ≠ []) :
    (filter.send octets).value =
      { filter with gathered := [] }.sendThrough
        (block filter.compressor (filter.gathered ++ octets)) := by
  rw [send, if_pos enabled]
  exact congrArg Noted.value (if_pos full)

theorem value_send_of_roomy
    (enabled : filter.enabled = true)
    (roomy :
      ¬ (filter.bufferSize ≤ (filter.gathered ++ octets).length ∧
        filter.gathered ++ octets ≠ [])) :
    (filter.send octets).value =
      (.ok (), { filter with gathered := filter.gathered ++ octets }) := by
  rw [send, if_pos enabled]
  exact congrArg Noted.value (if_neg roomy)

theorem value_send_of_disabled (disabled : filter.enabled ≠ true) :
    (filter.send octets).value = filter.sendThrough octets := by
  rw [send, if_neg disabled]
  rfl

theorem value_flush_of_pending
    (pending : filter.enabled = true ∧ filter.gathered ≠ []) :
    filter.flush.value =
      { filter with gathered := [] }.sendThrough (block filter.compressor filter.gathered) :=
  congrArg Noted.value (if_pos pending)

theorem value_flush_of_idle
    (idle : ¬ (filter.enabled = true ∧ filter.gathered ≠ [])) :
    filter.flush.value = (.ok (), filter) :=
  congrArg Noted.value (if_neg idle)

theorem sendThrough_of_writable
    (writable : filter.connection.Writable)
    (some : octets ≠ []) :
    filter.sendThrough octets = (.ok (), filter.posted octets) := by
  rw [sendThrough, Connection.send_of_writable writable some]
  rfl

theorem value_send_of_full_of_writable
    (enabled : filter.enabled = true)
    (writable : filter.connection.Writable)
    (full :
      filter.bufferSize ≤ (filter.gathered ++ octets).length ∧ filter.gathered ++ octets ≠ []) :
    (filter.send octets).value =
      (.ok (),
        { filter with gathered := [] }.posted
          (block filter.compressor (filter.gathered ++ octets))) := by
  rw [value_send_of_full enabled full]
  exact @sendThrough_of_writable { filter with gathered := [] } _ writable (block_ne_nil _ _)

theorem value_send_of_writable
    (writable : filter.connection.Writable)
    (some : octets ≠ []) :
    (filter.send octets).value = (.ok (), filter.accepted octets) := by
  have together : filter.gathered ++ octets ≠ [] := fun empty =>
    some (List.append_eq_nil_iff.mp empty).2
  rw [accepted]
  split
  · next enabled =>
      split
      · next full => exact value_send_of_full_of_writable enabled writable ⟨full, together⟩
      · next roomy => exact value_send_of_roomy enabled fun full => roomy full.1
  · next disabled =>
      rw [value_send_of_disabled disabled]
      exact sendThrough_of_writable writable some

theorem value_flush_of_writable
    (writable : filter.connection.Writable) :
    filter.flush.value = (.ok (), filter.pushed) := by
  rw [pushed]
  split
  · next pending =>
      rw [value_flush_of_pending pending]
      exact @sendThrough_of_writable { filter with gathered := [] } _ writable (block_ne_nil _ _)
  · next idle => exact value_flush_of_idle idle

theorem writable_accepted
    (writable : filter.connection.Writable)
    (octets : Bytes) :
    (filter.accepted octets).connection.Writable := by
  rw [accepted]
  split
  · split
    · exact ⟨writable.unfinished, writable.attended⟩
    · exact writable
  · exact ⟨writable.unfinished, writable.attended⟩

/-- Sending fails only on a connection that cannot be written to. -/
theorem of_sendThrough_eq_error
    {error : TransportError}
    (failed : (filter.sendThrough octets).1 = .error error) :
    ¬ filter.connection.Writable ∧ (error = .shutDown ∨ error = .peerDropped) := by
  rw [sendThrough] at failed
  split at failed
  · exact nomatch failed
  · next sent =>
      cases failed
      exact Connection.of_send_eq_error sent

theorem of_send_eq_error
    {error : TransportError}
    (failed : (filter.send octets).value.1 = .error error) :
    ¬ filter.connection.Writable ∧ (error = .shutDown ∨ error = .peerDropped) := by
  by_cases enabled : filter.enabled = true
  · by_cases full :
        filter.bufferSize ≤ (filter.gathered ++ octets).length ∧ filter.gathered ++ octets ≠ []
    · rw [value_send_of_full enabled full] at failed
      exact @of_sendThrough_eq_error { filter with gathered := [] } _ _ failed
    · rw [value_send_of_roomy enabled full] at failed
      exact nomatch failed
  · rw [value_send_of_disabled enabled] at failed
    exact of_sendThrough_eq_error failed

theorem of_flush_eq_error
    {error : TransportError}
    (failed : filter.flush.value.1 = .error error) :
    ¬ filter.connection.Writable ∧ (error = .shutDown ∨ error = .peerDropped) := by
  by_cases pending : filter.enabled = true ∧ filter.gathered ≠ []
  · rw [value_flush_of_pending pending] at failed
    exact @of_sendThrough_eq_error { filter with gathered := [] } _ _ failed
  · rw [value_flush_of_idle pending] at failed
    exact nomatch failed

/-- The same filter with other octets gathered and on their way to the peer. -/
def speaking
    (filter : Filter)
    (gathered : Bytes)
    (outbox : List Bytes)
    (counters : Counters) :
    Filter :=
  { filter with
    connection := { filter.connection with outbox := outbox, counters := counters }
    gathered := gathered }

theorem writable_speaking
    {gathered : Bytes}
    {outbox : List Bytes}
    {counters : Counters} :
    (filter.speaking gathered outbox counters).connection.Writable ↔
      filter.connection.Writable :=
  ⟨fun ⟨unfinished, attended⟩ => ⟨unfinished, attended⟩,
    fun ⟨unfinished, attended⟩ => ⟨unfinished, attended⟩⟩

theorem exists_speaking_of_sendThrough (filter : Filter) (octets : Bytes) :
    ∃ outbox counters,
      (filter.sendThrough octets).2 = filter.speaking filter.gathered outbox counters := by
  rw [sendThrough, Connection.send]
  by_cases empty : octets = []
  · exact ⟨filter.connection.outbox, filter.connection.counters, by rw [if_pos empty]; rfl⟩
  · rw [if_neg empty]
    split
    · next sent =>
        split at sent
        · exact nomatch sent
        · split at sent
          · exact nomatch sent
          · cases sent
            exact ⟨_, _, rfl⟩
    · exact ⟨filter.connection.outbox, filter.connection.counters, rfl⟩

/-- Sending changes nothing but what is gathered and what has been sent. -/
theorem exists_speaking_of_send (filter : Filter) (octets : Bytes) :
    ∃ gathered outbox counters,
      (filter.send octets).value.2 = filter.speaking gathered outbox counters := by
  by_cases enabled : filter.enabled = true
  · by_cases full :
        filter.bufferSize ≤ (filter.gathered ++ octets).length ∧ filter.gathered ++ octets ≠ []
    · obtain ⟨outbox, counters, through⟩ :=
        exists_speaking_of_sendThrough { filter with gathered := [] }
          (block filter.compressor (filter.gathered ++ octets))
      exact ⟨[], outbox, counters, by rw [value_send_of_full enabled full, through]; rfl⟩
    · rw [value_send_of_roomy enabled full]
      exact ⟨_, filter.connection.outbox, filter.connection.counters, rfl⟩
  · obtain ⟨outbox, counters, through⟩ := exists_speaking_of_sendThrough filter octets
    exact ⟨_, outbox, counters, by rw [value_send_of_disabled enabled, through]⟩

theorem exists_speaking_of_flush (filter : Filter) :
    ∃ gathered outbox counters,
      filter.flush.value.2 = filter.speaking gathered outbox counters := by
  by_cases pending : filter.enabled = true ∧ filter.gathered ≠ []
  · obtain ⟨outbox, counters, through⟩ :=
      exists_speaking_of_sendThrough { filter with gathered := [] }
        (block filter.compressor filter.gathered)
    exact ⟨[], outbox, counters, by rw [value_flush_of_pending pending, through]; rfl⟩
  · rw [value_flush_of_idle pending]
    exact ⟨filter.gathered, filter.connection.outbox, filter.connection.counters, rfl⟩

/-- Closing sends what is gathered and then sends no more, unless that fails. -/
theorem exists_speaking_of_close (filter : Filter) :
    ∃ gathered outbox counters finished,
      filter.close.value.2 =
        { filter with
          connection := { filter.connection with outbox, counters, finished }
          gathered } := by
  obtain ⟨gathered, outbox, counters, flushed⟩ := filter.exists_speaking_of_flush
  rw [close, Noted.value_bind]
  rcases performed : filter.flush.value with ⟨_ | _, next⟩
  · rw [performed] at flushed
    cases flushed
    exact ⟨gathered, outbox, counters, filter.connection.finished, rfl⟩
  · rw [performed] at flushed
    cases flushed
    exact ⟨gathered, outbox, counters, true, rfl⟩

end Sending

section Receiving

/-- The same filter with other octets in its inbox and on their way to the layer above. -/
def hearing
    (filter : Filter)
    (inbox : List Bytes)
    (counters : Counters)
    (received : Bytes) :
    Filter :=
  { filter with
    connection := { filter.connection with inbox := inbox, counters := counters }
    received := received }

/-- All octets that have arrived and that the layer above has not received. -/
def unread (filter : Filter) : Bytes :=
  filter.received ++ filter.connection.inbox.flatten

variable (filter : Filter)

/-- What an enabled filter yields next, and what it leaves of the octets that have arrived. -/
def next (filter : Filter) : Arrival × Bytes :=
  match Front.ofBytes filter.unread with
  | .whole compressed rest => (filter.open? compressed, rest)
  | .tooLong length => (.failed (.blockTooLong length), filter.unread)
  | .partly =>
    if filter.connection.peerFinished then (.closed, []) else (.blocked, filter.unread)

end Receiving

namespace Front

/-- What stands at the front once it is clear does not depend on what follows. -/
theorem ofBytes_append
    {octets : Bytes}
    (clear : ofBytes octets ≠ .partly)
    (later : Bytes) :
    ofBytes (octets ++ later) =
      match ofBytes octets with
      | .whole compressed rest => .whole compressed (rest ++ later)
      | front => front := by
  match octets, clear with
  | first :: second :: third :: fourth :: behind, clear =>
      simp only [ofBytes, List.cons_append] at clear ⊢
      generalize (BigEndian.decode32 first second third fourth).toNat = length at clear ⊢
      by_cases tooLong : maxBlock < length
      · simp only [if_pos tooLong]
      · simp only [if_neg tooLong] at clear ⊢
        have whole : (behind.take length).length = length :=
          Decidable.byContradiction fun short => clear (if_neg short)
        have inside : length ≤ behind.length := by
          rw [List.length_take] at whole
          omega
        rw [List.take_append_of_le_length inside, List.drop_append_of_le_length inside]
        rw [if_pos whole, if_pos whole]
  | [], clear => exact absurd rfl clear
  | [_], clear => exact absurd rfl clear
  | [_, _], clear => exact absurd rfl clear
  | [_, _, _], clear => exact absurd rfl clear

end Front

section Blocks

variable {filter : Filter}

theorem next_hearing
    {inbox : List Bytes}
    {received : Bytes}
    (same : received ++ inbox.flatten = filter.unread)
    (counters : Counters) :
    (filter.hearing inbox counters received).next = filter.next := by
  have unread : (filter.hearing inbox counters received).unread = filter.unread := same
  rw [next, next, unread]
  rfl

theorem next_of_whole
    {compressed rest : Bytes}
    (whole : Front.ofBytes filter.received = .whole compressed rest) :
    filter.next = (filter.open? compressed, rest ++ filter.connection.inbox.flatten) := by
  rw [next, unread, Front.ofBytes_append (by rw [whole]; simp), whole]

theorem next_of_tooLong
    {length : Nat}
    (tooLong : Front.ofBytes filter.received = .tooLong length) :
    filter.next = (.failed (.blockTooLong length), filter.unread) := by
  rw [next, unread, Front.ofBytes_append (by rw [tooLong]; simp), tooLong]

theorem receiveBlock_of_partly
    {octets : Bytes}
    {rest : List Bytes}
    (partly : Front.ofBytes filter.received = .partly)
    (inbox : filter.connection.inbox = octets :: rest) :
    filter.receiveBlock =
      (filter.hearing rest (filter.connection.counters.received (UInt64.ofNat octets.length))
        (filter.received ++ octets)).receiveBlock := by
  have taken :
      filter.connection.receive.2 =
        { filter.connection with
          inbox := rest
          counters := filter.connection.counters.received (UInt64.ofNat octets.length) } := by
    rw [Connection.receive, inbox]
  rw [receiveBlock, partly]
  dsimp only
  split
  · next first others shape =>
      cases inbox.symm.trans shape
      rw [taken]
      rfl
  · next empty => cases inbox.symm.trans empty

theorem value_receiveBlock_of_nothing
    (partly : Front.ofBytes filter.received = .partly)
    (inbox : filter.connection.inbox = []) :
    filter.receiveBlock.value =
      if filter.connection.peerFinished then
        (.closed, filter.hearing [] filter.connection.counters [])
      else (.blocked, filter) := by
  rw [receiveBlock, partly]
  dsimp only
  split
  · next shape => exact nomatch inbox.symm.trans shape
  · split
    · rw [hearing, ← inbox]
      rfl
    · rfl

/--
Receiving a block yields what the octets that have arrived stand for and leaves
the others, however they are cut into chunks.
-/
theorem value_receiveBlock (filter : Filter) :
    ∃ inbox counters received,
      filter.receiveBlock.value = (filter.next.1, filter.hearing inbox counters received) ∧
        received ++ inbox.flatten = filter.next.2 := by
  cases front : Front.ofBytes filter.received with
  | whole compressed rest =>
      rw [receiveBlock, front, next_of_whole front]
      exact ⟨_, _, rest, rfl, rfl⟩
  | tooLong length =>
      rw [receiveBlock, front, next_of_tooLong front]
      exact ⟨_, _, _, rfl, rfl⟩
  | partly =>
      cases inbox : filter.connection.inbox with
      | cons octets rest =>
          have same : (filter.received ++ octets) ++ rest.flatten = filter.unread := by
            rw [unread, inbox, List.flatten_cons, List.append_assoc]
          rw [receiveBlock_of_partly front inbox, ← next_hearing same]
          exact value_receiveBlock _
      | nil =>
          have all : filter.unread = filter.received := by
            rw [unread, inbox, List.flatten_nil, List.append_nil]
          rw [value_receiveBlock_of_nothing front inbox, next, all, front]
          dsimp only
          by_cases finished : filter.connection.peerFinished = true
          · rw [if_pos finished, if_pos finished]
            exact ⟨[], filter.connection.counters, [], rfl, rfl⟩
          · rw [if_neg finished, if_neg finished]
            exact ⟨[], filter.connection.counters, filter.received, by rw [← inbox]; rfl, by simp⟩
termination_by filter.connection.inbox.length
decreasing_by
  rw [inbox]
  exact Nat.lt_succ_self _

/-- The length in front of a block says what stands at the front. -/
theorem ofBytes_encode32 (length : UInt32) (behind : Bytes) :
    Front.ofBytes (BigEndian.encode32 length ++ behind) =
      if maxBlock < length.toNat then .tooLong length.toNat
      else if (behind.take length.toNat).length = length.toNat then
        .whole (behind.take length.toNat) (behind.drop length.toNat)
      else .partly := by
  simp only [BigEndian.encode32, List.cons_append, List.nil_append, Front.ofBytes,
    BigEndian.decode32_encode32]

/-- The length that a block gives for its compressed stream. -/
def announced (compressed : Bytes) : Nat :=
  (UInt32.ofNat compressed.length).toNat

theorem announced_of_lt {compressed : Bytes} (lt : compressed.length < UInt32.size) :
    announced compressed = compressed.length := by
  rw [announced, UInt32.toNat_ofNat']
  exact Nat.mod_eq_of_lt lt

/-- A block stands at the front of the octets it was sent in. -/
theorem ofBytes_block
    {compressor : Compressor}
    {octets : Bytes}
    (short : (compressor.compress octets).length ≤ maxBlock)
    (later : Bytes) :
    Front.ofBytes (block compressor octets ++ later) =
      .whole (compressor.compress octets) later := by
  have length := announced_of_lt (Nat.lt_of_le_of_lt short (by decide))
  rw [announced] at length
  rw [block, List.append_assoc, ofBytes_encode32, length, if_neg (Nat.not_lt.mpr short),
    List.take_left, List.drop_left, if_pos rfl]

section Clear

variable (clear : filter.received = [])
include clear

/-- A block that arrives in one chunk of its own is yielded, and nothing is left of it. -/
theorem value_receiveBlock_of_block
    {compressor : Compressor}
    {octets : Bytes}
    {rest : List Bytes}
    (inbox : filter.connection.inbox = block compressor octets :: rest)
    (short : (compressor.compress octets).length ≤ maxBlock) :
    ∃ counters,
      filter.receiveBlock.value =
        (filter.open? (compressor.compress octets), filter.hearing rest counters []) := by
  have front :
      Front.ofBytes ([] ++ block compressor octets) = .whole (compressor.compress octets) [] := by
    rw [List.nil_append, ← ofBytes_block short [], List.append_nil]
  refine
    ⟨filter.connection.counters.received (UInt64.ofNat (block compressor octets).length), ?_⟩
  rw [receiveBlock_of_partly (by rw [clear]; rfl) inbox, clear, receiveBlock,
    show Front.ofBytes (filter.hearing _ _ _).received = _ from front]
  rfl

theorem value_receiveBlock_of_empty
    (inbox : filter.connection.inbox = []) :
    filter.receiveBlock.value =
      (if filter.connection.peerFinished then .closed else .blocked, filter) := by
  rw [value_receiveBlock_of_nothing (by rw [clear]; rfl) inbox]
  split
  · rw [hearing, ← clear, ← inbox]
  · rfl

end Clear

theorem receive_of_enabled (enabled : filter.enabled = true) :
    filter.receive = filter.receiveBlock :=
  if_pos enabled

theorem value_receive_of_disabled
    (disabled : filter.enabled = false) :
    filter.receive.value =
      match filter.connection.inbox with
      | octets :: rest =>
        (.data octets,
          filter.hearing rest
            (filter.connection.counters.received (UInt64.ofNat octets.length)) filter.received)
      | [] => (if filter.connection.peerFinished then .closed else .blocked, filter) := by
  rw [receive, if_neg (Bool.eq_false_iff.mp disabled)]
  cases inbox : filter.connection.inbox with
  | nil =>
      simp only [Connection.receive, inbox]
      rfl
  | cons octets rest =>
      simp only [Connection.receive, inbox]
      rfl

/-- Receiving changes nothing but what has arrived. -/
theorem exists_hearing_of_receive (filter : Filter) :
    ∃ inbox counters received,
      filter.receive.value.2 = filter.hearing inbox counters received := by
  cases enabled : filter.enabled with
  | true =>
      obtain ⟨inbox, counters, received, yielded, -⟩ := value_receiveBlock filter
      exact ⟨inbox, counters, received, by rw [receive_of_enabled enabled, yielded]⟩
  | false =>
      rw [value_receive_of_disabled enabled]
      split
      · exact ⟨_, _, _, rfl⟩
      · exact ⟨filter.connection.inbox, filter.connection.counters, filter.received, rfl⟩

end Blocks

section Independent

/-- The same filter at another point of what its peer sends. -/
def receiving
    (filter : Filter)
    (inbox : List Bytes)
    (peerFinished : Bool)
    (counters : Counters)
    (received : Bytes) :
    Filter :=
  { filter with
    connection := { filter.connection with inbox, peerFinished, counters }
    received }

variable
  (filter : Filter) (octets : Bytes)
  (inbox : List Bytes) (peerFinished : Bool) (counters : Counters) (received : Bytes)

/-- What has arrived does not influence what is sent. -/
theorem sendThrough_receiving :
    ∃ after,
      (filter.receiving inbox peerFinished counters received).sendThrough octets =
        ((filter.sendThrough octets).1,
          (filter.sendThrough octets).2.receiving inbox peerFinished after received) := by
  obtain ⟨⟨_, _, _, _, finished, dropped, _⟩, _, _, _, _, _⟩ := filter
  cases octets with
  | nil => exact ⟨counters, rfl⟩
  | cons octet rest =>
      cases finished with
      | true => exact ⟨counters, rfl⟩
      | false =>
          cases dropped with
          | true => exact ⟨counters, rfl⟩
          | false => exact ⟨counters.sent (UInt64.ofNat (octet :: rest).length), rfl⟩

theorem value_send_receiving :
    ∃ after,
      ((filter.receiving inbox peerFinished counters received).send octets).value =
        ((filter.send octets).value.1,
          (filter.send octets).value.2.receiving inbox peerFinished after received) := by
  by_cases enabled : filter.enabled = true
  · by_cases full :
        filter.bufferSize ≤ (filter.gathered ++ octets).length ∧ filter.gathered ++ octets ≠ []
    · rw [value_send_of_full enabled full, @value_send_of_full
        (filter.receiving inbox peerFinished counters received) _ enabled full]
      exact sendThrough_receiving { filter with gathered := [] } _ inbox peerFinished counters
        received
    · rw [value_send_of_roomy enabled full, @value_send_of_roomy
        (filter.receiving inbox peerFinished counters received) _ enabled full]
      exact ⟨counters, rfl⟩
  · rw [value_send_of_disabled enabled, @value_send_of_disabled
      (filter.receiving inbox peerFinished counters received) _ enabled]
    exact sendThrough_receiving filter octets inbox peerFinished counters received

theorem value_flush_receiving :
    ∃ after,
      (filter.receiving inbox peerFinished counters received).flush.value =
        (filter.flush.value.1,
          filter.flush.value.2.receiving inbox peerFinished after received) := by
  by_cases pending : filter.enabled = true ∧ filter.gathered ≠ []
  · rw [value_flush_of_pending pending, @value_flush_of_pending
      (filter.receiving inbox peerFinished counters received) pending]
    exact
      sendThrough_receiving { filter with gathered := [] } _ inbox peerFinished counters received
  · rw [value_flush_of_idle pending, @value_flush_of_idle
      (filter.receiving inbox peerFinished counters received) pending]
    exact ⟨counters, rfl⟩

end Independent

end Filter

end EventWire
