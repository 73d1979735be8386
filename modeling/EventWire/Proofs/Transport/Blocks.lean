import EventWire.Proofs.Transport.Unpacking

namespace EventWire

/-!
# Octets in blocks

A compressing filter sends what it is handed in blocks and holds back less than
makes one.  The filter at the other end reads block after block, each once all of
it has arrived, and what it reads does not depend on where blocks were cut.
-/

namespace Filter

section Sending

variable {filter : Filter} {octets : Bytes}

/-- Less is gathered than makes a block. -/
def Roomy (filter : Filter) : Prop :=
  filter.gathered = [] ∨ filter.gathered.length < filter.bufferSize

theorem roomy_of_not_full
    (roomy :
      ¬ (filter.bufferSize ≤ (filter.gathered ++ octets).length ∧
        filter.gathered ++ octets ≠ [])) :
    Roomy { filter with gathered := filter.gathered ++ octets } := by
  by_cases empty : filter.gathered ++ octets = []
  · exact .inl empty
  · exact .inr (Nat.lt_of_not_le fun full => roomy ⟨full, empty⟩)

/-- A compressing filter sends what it is handed behind what it holds, or holds it too. -/
theorem exists_disposes_send
    (enabled : filter.enabled = true)
    (writable : filter.connection.Writable)
    (octets : Bytes) :
    ∃ next,
      (filter.send octets).value = (.ok (), next) ∧
        filter.Disposes (filter.gathered ++ octets) next ∧ next.Roomy := by
  by_cases full :
      filter.bufferSize ≤ (filter.gathered ++ octets).length ∧ filter.gathered ++ octets ≠ []
  · obtain ⟨counters, posted⟩ :=
      filter.exists_speaking_posted (block filter.compressor (filter.gathered ++ octets))
    refine ⟨_, ?_, .sends counters (by rw [wrapped, if_pos enabled]), .inl rfl⟩
    rw [value_send_of_full_of_writable enabled writable full, posted]
  · have unmarked (disabled : filter.enabled = false) : filter.gathered ++ octets = [] := by
      cases enabled.symm.trans disabled
    exact
      ⟨_, value_send_of_roomy enabled full, .gathers filter.connection.counters unmarked rfl,
        roomy_of_not_full full⟩

theorem value_close_of_writable (writable : filter.connection.Writable) :
    filter.close.value =
      (.ok (),
        { filter.pushed with
          connection := { filter.pushed.connection with finished := true } }) := by
  rw [close, Noted.value_bind, value_flush_of_writable writable]
  rfl

end Sending

section Receiving

/-- More octets have arrived. -/
def hears (filter : Filter) (chunks : List Bytes) : Filter :=
  { filter with
    connection := { filter.connection with inbox := filter.connection.inbox ++ chunks } }

theorem unread_hears (filter : Filter) (chunks : List Bytes) :
    (filter.hears chunks).unread = filter.unread ++ chunks.flatten := by
  rw [unread, hears, List.flatten_append, ← List.append_assoc]
  rfl

/-- The octets of the blocks that stand for the given octets. -/
def blocks (compressor : Compressor) (raws : List Bytes) : Bytes :=
  (raws.map (block compressor)).flatten

theorem blocks_cons (compressor : Compressor) (raw : Bytes) (rest : List Bytes) :
    blocks compressor (raw :: rest) = block compressor raw ++ blocks compressor rest :=
  rfl

theorem blocks_append (compressor : Compressor) (raws rest : List Bytes) :
    blocks compressor (raws ++ rest) = blocks compressor raws ++ blocks compressor rest := by
  rw [blocks, List.map_append, List.flatten_append]
  rfl

/-- What a filter yields next when octets it has not read and octets to come are blocks. -/
inductive Next
    (filter : Filter)
    (compressor : Compressor)
    (coming : Bytes) :
    List Bytes → Arrival × Bytes → Prop where
  | data
      {raw left : Bytes}
      {rest : List Bytes}
      (later : left ++ coming = blocks compressor rest) :
      Next filter compressor coming (raw :: rest) (.data raw, left)
  | blocked
      {raws : List Bytes}
      (unfinished : filter.connection.peerFinished = false)
      (lacking : coming = [] → raws = []) :
      Next filter compressor coming raws (.blocked, filter.unread)
  | closed
      (finished : filter.connection.peerFinished = true)
      (nothing : coming = []) :
      Next filter compressor coming [] (.closed, [])

variable {filter : Filter} {compressor : Compressor} {coming : Bytes} {raws : List Bytes}

/-- Only when no block is whole does nothing stand at the front of blocks. -/
theorem eq_nil_of_partly
    (short : ∀ raw ∈ raws, (compressor.compress raw).length ≤ maxBlock)
    (partly : Front.ofBytes (blocks compressor raws) = .partly) :
    raws = [] := by
  cases raws with
  | nil => rfl
  | cons raw rest =>
      rw [blocks_cons, ofBytes_block (short raw List.mem_cons_self)] at partly
      exact nomatch partly

/-- Blocks are read one by one, each once all of it has arrived. -/
theorem next_of_blocks
    (fits : ∀ octets, filter.compressor.decompress (compressor.compress octets) = some octets)
    (short : ∀ raw ∈ raws, (compressor.compress raw).length ≤ maxBlock)
    (ended : filter.connection.peerFinished = true → coming = [])
    (shape : filter.unread ++ coming = blocks compressor raws) :
    Next filter compressor coming raws filter.next := by
  by_cases partly : Front.ofBytes filter.unread = .partly
  · have lacking (nothing : coming = []) : raws = [] := by
      rw [nothing, List.append_nil] at shape
      rw [shape] at partly
      exact eq_nil_of_partly short partly
    rw [next, partly]
    dsimp only
    split
    · next finished =>
        cases lacking (ended finished)
        exact .closed finished (ended finished)
    · next unfinished => exact .blocked (Bool.eq_false_iff.mpr unfinished) lacking
  · have front := Front.ofBytes_append partly coming
    rw [shape] at front
    cases raws with
    | nil =>
        rw [(List.append_eq_nil_iff.mp shape).1] at partly
        exact absurd rfl partly
    | cons raw rest =>
        rw [blocks_cons, ofBytes_block (short raw List.mem_cons_self)] at front
        cases found : Front.ofBytes filter.unread with
        | partly => exact absurd found partly
        | tooLong length =>
            rw [found] at front
            cases front
        | whole compressed left =>
            rw [found] at front
            obtain ⟨rfl, later⟩ := Front.whole.inj front
            have yields : filter.next = (.data raw, left) := by
              rw [next, found]
              dsimp only [open?]
              rw [fits]
            rw [yields]
            exact .data later.symm

/-- Receive until no more octets are yielded. -/
def readAll (filter : Filter) : List Bytes × Arrival :=
  match _arrived : filter.receive.value.1 with
  | .data octets =>
    let later := filter.receive.value.2.readAll
    (octets :: later.1, later.2)
  | other => ([], other)
termination_by filter.backlog
decreasing_by exact filter.backlog_receive.2 _ _arrived

theorem receive_eq_next (enabled : filter.enabled = true) :
    ∃ inbox counters received,
      filter.receive.value = (filter.next.1, filter.hearing inbox counters received) ∧
        (filter.hearing inbox counters received).unread = filter.next.2 := by
  rw [receive_of_enabled enabled]
  exact value_receiveBlock filter

/-- Blocks that have arrived are all read, however they are cut into chunks. -/
theorem readAll_of_blocks
    (enabled : filter.enabled = true)
    (fits : ∀ octets, filter.compressor.decompress (compressor.compress octets) = some octets)
    (short : ∀ raw ∈ raws, (compressor.compress raw).length ≤ maxBlock)
    (shape : filter.unread = blocks compressor raws) :
    filter.readAll =
      (raws, if filter.connection.peerFinished then .closed else .blocked) := by
  induction raws generalizing filter with
  | nil =>
      obtain ⟨inbox, counters, received, yielded, left⟩ := receive_eq_next enabled
      have following :=
        next_of_blocks fits short (fun _ => rfl) ((List.append_nil _).trans shape)
      generalize filter.next = next at yielded left following
      cases following with
      | blocked unfinished =>
          rw [readAll, yielded]
          simp only [unfinished]
          rfl
      | closed finished =>
          rw [readAll, yielded]
          simp only [finished]
          rfl
  | cons raw rest inductionHypothesis =>
      obtain ⟨inbox, counters, received, yielded, left⟩ := receive_eq_next enabled
      have following :=
        next_of_blocks fits short (fun _ => rfl) ((List.append_nil _).trans shape)
      generalize filter.next = next at yielded left following
      cases following with
      | blocked _ lacking => exact absurd (lacking rfl) (List.cons_ne_nil _ _)
      | @data _ _ _ later =>
          rw [readAll, yielded]
          have others :=
            @inductionHypothesis (filter.hearing inbox counters received) enabled fits
              (fun other member => short other (List.mem_cons_of_mem _ member))
              (left.trans ((List.append_nil _).symm.trans later))
          dsimp only
          rw [others]
          rfl

end Receiving

end Filter

end EventWire
