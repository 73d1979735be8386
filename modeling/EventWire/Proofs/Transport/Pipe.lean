import EventWire.Proofs.Transport.Blocks
import Mathlib.Logic.Relation

namespace EventWire

/-!
# A pair of compressing filters is a pipe

What one compressing filter is handed another yields, in order and without loss,
however the octets between them are cut.  The invariant says where what was
handed over is: it has been yielded, or it is in blocks of which the octets are on
their way or have arrived, or it is gathered.
-/

/-- The octets that a receiver is handed, if it is handed any. -/
def Arrival.octets? : Arrival → Option Bytes
  | .data octets => some octets
  | _ => none

/-- A filter that sends, a filter that receives, and a record of what was asked of them. -/
structure Pipe where
  writer : Filter
  /-- How many of the octets that the writer has sent have arrived. -/
  carried : Nat
  reader : Filter
  /-- What was handed to the writer, one behind the other. -/
  handed : Bytes
  /-- What the writer answered, call for call. -/
  answers : List (Except TransportError Unit)
  /-- What the reader yielded, call for call. -/
  yielded : List Arrival

namespace Pipe

/-- The octets on their way: what the writer has sent and what has not arrived. -/
def underWay (pipe : Pipe) : Bytes :=
  pipe.writer.connection.outbox.flatten.drop pipe.carried

/-- The octets that the reader has yielded, call for call. -/
def taken (pipe : Pipe) : List Bytes :=
  pipe.yielded.filterMap Arrival.octets?

/-- The writer has been handed octets and has answered. -/
def wrote (pipe : Pipe) (attempt : Filter.Attempt Unit) (octets : Bytes) : Pipe :=
  { pipe with
    writer := attempt.2
    handed := pipe.handed ++ octets
    answers := pipe.answers ++ [attempt.1] }

/-- Some of the octets on their way arrive in one chunk. -/
def arrive (pipe : Pipe) (count : Nat) : Pipe :=
  { pipe with
    carried := pipe.carried + (pipe.underWay.take count).length
    reader := pipe.reader.hears [pipe.underWay.take count] }

/-- The reader learns that nothing more will arrive. -/
def finish (pipe : Pipe) : Pipe :=
  { pipe with
    reader :=
      { pipe.reader with connection := { pipe.reader.connection with peerFinished := true } } }

/-- The reader is asked for octets. -/
def receive (pipe : Pipe) : Pipe :=
  { pipe with
    reader := pipe.reader.receive.value.2
    yielded := pipe.yielded ++ [pipe.reader.receive.value.1] }

/-- What may happen next to two filters and to the octets between them. -/
inductive Step (pipe : Pipe) : Pipe → Prop where
  | send
      (writable : pipe.writer.connection.Writable)
      (octets : Bytes) :
      Step pipe (pipe.wrote (pipe.writer.send octets).value octets)
  | flush
      (writable : pipe.writer.connection.Writable) :
      Step pipe (pipe.wrote pipe.writer.flush.value [])
  | close
      (writable : pipe.writer.connection.Writable) :
      Step pipe (pipe.wrote pipe.writer.close.value [])
  | arrive (count : Nat) : Step pipe (pipe.arrive count)
  | finish
      (finished : pipe.writer.connection.finished = true)
      (arrived : pipe.underWay = []) :
      Step pipe pipe.finish
  | receive : Step pipe pipe.receive

/-- Two filters that compress, before anything is asked of them. -/
structure Opens (pipe : Pipe) : Prop where
  writing : pipe.writer.enabled = true
  reading : pipe.reader.enabled = true
  fits :
    ∀ octets,
      pipe.reader.compressor.decompress (pipe.writer.compressor.compress octets) = some octets
  gathered : pipe.writer.gathered = []
  outbox : pipe.writer.connection.outbox = []
  unread : pipe.reader.unread = []
  unfinished : pipe.reader.connection.peerFinished = false
  carried : pipe.carried = 0
  handed : pipe.handed = []
  answers : pipe.answers = []
  yielded : pipe.yielded = []

/-- What was handed to the writer is where it was left: yielded, sent in `rest`, or gathered. -/
structure Conveys (pipe : Pipe) (rest : List Bytes) : Prop where
  writing : pipe.writer.enabled = true
  reading : pipe.reader.enabled = true
  fits :
    ∀ octets,
      pipe.reader.compressor.decompress (pipe.writer.compressor.compress octets) = some octets
  emitted :
    pipe.writer.connection.outbox = (pipe.taken ++ rest).map (Filter.block pipe.writer.compressor)
  kept : (pipe.taken ++ rest).flatten ++ pipe.writer.gathered = pipe.handed
  roomy : pipe.writer.Roomy
  inside : pipe.carried ≤ pipe.writer.connection.outbox.flatten.length
  onTheWay : pipe.reader.unread ++ pipe.underWay = Filter.blocks pipe.writer.compressor rest
  answered : ∀ answer ∈ pipe.answers, answer = .ok ()
  usable : ∀ error, .failed error ∉ pipe.yielded
  finished :
    pipe.reader.connection.peerFinished = true →
      pipe.writer.connection.finished = true ∧ pipe.underWay = []
  flushed : pipe.writer.connection.finished = true → pipe.writer.gathered = []
  ended : .closed ∈ pipe.yielded → pipe.writer.connection.finished = true ∧ rest = []

variable {pipe next : Pipe} {rest : List Bytes}

theorem Opens.conveys (opens : pipe.Opens) : pipe.Conveys [] := by
  have taken : pipe.taken = [] := by rw [Pipe.taken, opens.yielded, List.filterMap_nil]
  have underWay : pipe.underWay = [] := by
    rw [Pipe.underWay, opens.outbox, List.flatten_nil, List.drop_nil]
  exact
    { writing := opens.writing
      reading := opens.reading
      fits := opens.fits
      emitted := by rw [opens.outbox, taken]; rfl
      kept := by rw [taken, opens.gathered, opens.handed]; rfl
      roomy := .inl opens.gathered
      inside := by rw [opens.carried]; exact Nat.zero_le _
      onTheWay := by rw [opens.unread, underWay]; rfl
      answered := by rw [opens.answers]; exact List.forall_mem_nil _
      usable := fun error => by rw [opens.yielded]; exact List.not_mem_nil
      finished := fun finished => nomatch opens.unfinished.symm.trans finished
      flushed := fun _ => opens.gathered
      ended := by rw [opens.yielded]; exact nofun }

section Writing

variable {octets : Bytes} (conveys : pipe.Conveys rest)
include conveys

/-- A block that is sent joins those on their way. -/
theorem Conveys.onTheWay_block (raw : Bytes) :
    pipe.reader.unread ++
        (pipe.writer.connection.outbox.flatten ++ Filter.block pipe.writer.compressor raw).drop
          pipe.carried =
      Filter.blocks pipe.writer.compressor (rest ++ [raw]) := by
  rw [List.drop_append_of_le_length conveys.inside, ← List.append_assoc, Filter.blocks_append,
    ← conveys.onTheWay, Filter.blocks, List.map_singleton, List.flatten_singleton]
  rfl

/-- Octets handed to the writer are sent behind those it has gathered, or gathered too. -/
theorem Conveys.wrote
    {filter : Filter}
    (writable : pipe.writer.connection.Writable)
    (disposes : pipe.writer.Disposes (pipe.writer.gathered ++ octets) filter)
    (roomy : filter.Roomy) :
    ∃ more, (pipe.wrote (.ok (), filter) octets).Conveys (rest ++ more) := by
  have answered : ∀ answer ∈ pipe.answers ++ [.ok ()], answer = .ok () :=
    List.forall_mem_append.mpr ⟨conveys.answered, List.forall_mem_singleton.mpr rfl⟩
  have unfinished : pipe.writer.connection.finished ≠ true :=
    Bool.eq_false_iff.mp writable.unfinished
  cases disposes with
  | sends counters next_eq =>
      rw [Filter.wrapped, if_pos conveys.writing] at next_eq
      subst next_eq
      generalize shape : pipe.writer.gathered ++ octets = raw at roomy ⊢
      have outbox :
          (pipe.writer.connection.outbox ++ [Filter.block pipe.writer.compressor raw]).flatten =
            pipe.writer.connection.outbox.flatten ++ Filter.block pipe.writer.compressor raw := by
        rw [List.flatten_append, List.flatten_singleton]
      have emitted :
          pipe.writer.connection.outbox ++ [Filter.block pipe.writer.compressor raw] =
            (pipe.taken ++ (rest ++ [raw])).map (Filter.block pipe.writer.compressor) := by
        rw [← List.append_assoc, List.map_append, ← conveys.emitted]
        rfl
      have kept : (pipe.taken ++ (rest ++ [raw])).flatten = pipe.handed ++ octets := by
        rw [← List.append_assoc, List.flatten_append, List.flatten_singleton, ← shape,
          ← List.append_assoc, conveys.kept]
      refine ⟨[raw], ?_⟩
      exact
        { conveys with
          emitted := emitted
          kept := (List.append_nil _).trans kept
          roomy := roomy
          inside :=
            Nat.le_trans conveys.inside (outbox ▸ (List.prefix_append _ _).length_le)
          onTheWay :=
            (congrArg (_ ++ List.drop _ ·) outbox).trans (conveys.onTheWay_block raw)
          answered := answered
          finished := fun finished => absurd (conveys.finished finished).1 unfinished
          flushed := fun _ => rfl
          ended := fun ended => absurd (conveys.ended ended).1 unfinished }
  | gathers counters atOnce next_eq =>
      subst next_eq
      refine ⟨[], ?_⟩
      rw [List.append_nil]
      exact
        { conveys with
          kept := (List.append_assoc _ _ _).symm.trans (congrArg (· ++ octets) conveys.kept)
          roomy := roomy
          answered := answered
          finished := fun finished => absurd (conveys.finished finished).1 unfinished
          flushed := fun finished => absurd finished unfinished }

end Writing

/-- A writer that has nothing gathered may close. -/
theorem Conveys.close
    (conveys : pipe.Conveys rest)
    (empty : pipe.writer.gathered = []) :
    { pipe with
      writer :=
        { pipe.writer with
          connection := { pipe.writer.connection with finished := true } } }.Conveys rest :=
  { conveys with
    finished := fun finished => ⟨rfl, (conveys.finished finished).2⟩
    flushed := fun _ => empty
    ended := fun ended => ⟨rfl, (conveys.ended ended).2⟩ }

theorem underWay_arrive (pipe : Pipe) (count : Nat) :
    (pipe.arrive count).underWay = pipe.underWay.drop count := by
  have later :
      (pipe.arrive count).underWay = pipe.underWay.drop (pipe.underWay.take count).length :=
    List.drop_drop.symm
  rw [later, List.length_take, ← List.drop_eq_drop_min]

theorem Conveys.arrive
    (conveys : pipe.Conveys rest)
    (count : Nat) :
    (pipe.arrive count).Conveys rest := by
  have inside :
      pipe.carried + (pipe.underWay.take count).length ≤
        pipe.writer.connection.outbox.flatten.length := by
    have := conveys.inside
    rw [underWay, List.length_take, List.length_drop]
    omega
  have unread :
      (pipe.arrive count).reader.unread = pipe.reader.unread ++ pipe.underWay.take count := by
    rw [Pipe.arrive, Filter.unread_hears, List.flatten_singleton]
  exact
    { conveys with
      inside := inside
      onTheWay := by
        rw [underWay_arrive, unread, List.append_assoc, List.take_append_drop]
        exact conveys.onTheWay
      finished := fun finished => by
        obtain ⟨closed, arrived⟩ := conveys.finished finished
        exact ⟨closed, by rw [underWay_arrive, arrived, List.drop_nil]⟩ }

theorem Conveys.finish
    (conveys : pipe.Conveys rest)
    (finished : pipe.writer.connection.finished = true)
    (arrived : pipe.underWay = []) :
    pipe.finish.Conveys rest :=
  { conveys with finished := fun _ => ⟨finished, arrived⟩ }

/-- No block that a writer has sent is longer than a block may be. -/
theorem Conveys.short
    (conveys : pipe.Conveys rest)
    (compact : pipe.writer.Compact) :
    ∀ raw ∈ rest, (pipe.writer.compressor.compress raw).length ≤ maxBlock := by
  intro raw member
  have sent : Filter.block pipe.writer.compressor raw ∈ pipe.writer.connection.outbox := by
    rw [conveys.emitted]
    exact List.mem_map_of_mem (List.mem_append_right _ member)
  have length := compact conveys.writing _ sent
  rw [Filter.block, List.length_append] at length
  exact Nat.le_of_add_le_add_left length

/-- The reader has yielded the front of what was on its way, or nothing. -/
theorem Conveys.yields
    {inbox : List Bytes}
    {counters : Counters}
    {received : Bytes}
    {arrival : Arrival}
    {left : List Bytes}
    (conveys : pipe.Conveys rest)
    (order : arrival.octets?.toList ++ left = rest)
    (onTheWay :
      (pipe.reader.hearing inbox counters received).unread ++ pipe.underWay =
        Filter.blocks pipe.writer.compressor left)
    (usable : ∀ error, arrival ≠ .failed error)
    (ended : arrival = .closed → pipe.writer.connection.finished = true ∧ rest = []) :
    { pipe with
      reader := pipe.reader.hearing inbox counters received
      yielded := pipe.yielded ++ [arrival] }.Conveys left := by
  have taken :
      (pipe.yielded ++ [arrival]).filterMap Arrival.octets? ++ left = pipe.taken ++ rest := by
    rw [List.filterMap_append, ← order, ← List.append_assoc]
    cases arrival <;> rfl
  exact
    { conveys with
      emitted := by rw [Pipe.taken, taken]; exact conveys.emitted
      kept := by rw [Pipe.taken, taken]; exact conveys.kept
      onTheWay := onTheWay
      usable := fun error member => by
        rcases List.mem_append.mp member with earlier | last
        · exact conveys.usable error earlier
        · exact usable error (List.mem_singleton.mp last).symm
      ended := fun member => by
        have settled : pipe.writer.connection.finished = true ∧ rest = [] := by
          rcases List.mem_append.mp member with earlier | last
          · exact conveys.ended earlier
          · exact ended (List.mem_singleton.mp last).symm
        rw [settled.2] at order
        exact ⟨settled.1, (List.append_eq_nil_iff.mp order).2⟩ }

/-- The reader yields the next octets that were sent once their block is complete. -/
theorem Conveys.receive
    (conveys : pipe.Conveys rest)
    (compact : pipe.writer.Compact) :
    ∃ left, pipe.receive.Conveys left := by
  obtain ⟨inbox, counters, received, yielded, unread⟩ := Filter.receive_eq_next conveys.reading
  have following :=
    Filter.next_of_blocks conveys.fits (conveys.short compact)
      (fun finished => (conveys.finished finished).2) conveys.onTheWay
  generalize pipe.reader.next = next at yielded unread following
  rw [Pipe.receive, yielded]
  cases following with
  | @data raw _ others later =>
      exact ⟨others, conveys.yields rfl ((congrArg (· ++ _) unread).trans later) nofun nofun⟩
  | blocked =>
      exact
        ⟨rest, conveys.yields rfl ((congrArg (· ++ _) unread).trans conveys.onTheWay) nofun nofun⟩
  | closed finished nothing =>
      obtain ⟨closed, nothing⟩ := conveys.finished finished
      exact
        ⟨[], conveys.yields rfl ((congrArg (· ++ _) unread).trans nothing) nofun
          fun _ => ⟨closed, rfl⟩⟩

theorem atOnce_of_enabled
    (enabled : pipe.writer.enabled = true)
    (disabled : pipe.writer.enabled = false) :
    pipe.writer.gathered = [] :=
  nomatch enabled.symm.trans disabled

/-- What a step leaves in the outbox was there before it or was put there by it. -/
theorem Step.compact
    (step : pipe.Step next)
    (compact : next.writer.Compact) :
    pipe.writer.Compact := by
  intro enabled
  cases step with
  | send writable octets =>
      obtain ⟨filter, sent, disposes, -⟩ := Filter.exists_disposes_send enabled writable octets
      rw [sent] at compact
      exact disposes.compact compact enabled
  | flush writable =>
      rw [Filter.value_flush_of_writable writable] at compact
      exact (Filter.disposes_pushed (atOnce_of_enabled enabled)).1.compact compact enabled
  | close writable =>
      rw [Filter.value_close_of_writable writable] at compact
      exact (Filter.disposes_pushed (atOnce_of_enabled enabled)).1.compact compact enabled
  | arrive | finish | receive => exact compact enabled

theorem Conveys.flush
    (conveys : pipe.Conveys rest)
    (writable : pipe.writer.connection.Writable) :
    ∃ more, (pipe.wrote (.ok (), pipe.writer.pushed) []).Conveys (rest ++ more) := by
  obtain ⟨disposes, empty⟩ := Filter.disposes_pushed (atOnce_of_enabled conveys.writing)
  exact conveys.wrote writable ((List.append_nil _).symm ▸ disposes) (.inl empty)

theorem Conveys.step
    (conveys : pipe.Conveys rest)
    (step : pipe.Step next)
    (compact : next.writer.Compact) :
    ∃ left, next.Conveys left := by
  have earlier := step.compact compact
  cases step with
  | send writable octets =>
      obtain ⟨filter, sent, disposes, roomy⟩ :=
        Filter.exists_disposes_send conveys.writing writable octets
      rw [sent]
      obtain ⟨more, after⟩ := conveys.wrote writable disposes roomy
      exact ⟨rest ++ more, after⟩
  | flush writable =>
      rw [Filter.value_flush_of_writable writable]
      obtain ⟨more, after⟩ := conveys.flush writable
      exact ⟨rest ++ more, after⟩
  | close writable =>
      rw [Filter.value_close_of_writable writable]
      obtain ⟨more, after⟩ := conveys.flush writable
      exact
        ⟨rest ++ more,
          after.close (Filter.disposes_pushed (atOnce_of_enabled conveys.writing)).2⟩
  | arrive count => exact ⟨rest, conveys.arrive count⟩
  | finish finished arrived => exact ⟨rest, conveys.finish finished arrived⟩
  | receive => exact conveys.receive earlier

theorem exists_conveys_of_reachable
    (opens : pipe.Opens)
    (run : Relation.ReflTransGen Step pipe next)
    (compact : next.writer.Compact) :
    ∃ rest, next.Conveys rest := by
  induction run with
  | refl => exact ⟨[], opens.conveys⟩
  | tail _ step inductionHypothesis =>
      obtain ⟨rest, conveys⟩ := inductionHypothesis (step.compact compact)
      exact conveys.step step compact

/--
Nothing is lost between two filters: the writer holds back less than makes a
block and the rest is in blocks, the reader has yielded what the first of them
were made of, one for each call, and what has been flushed can be read.
-/
structure Lossless (pipe : Pipe) : Prop where
  blocks :
    ∃ rest,
      pipe.writer.connection.outbox =
          (pipe.taken ++ rest).map (Filter.block pipe.writer.compressor) ∧
        (pipe.taken ++ rest).flatten ++ pipe.writer.gathered = pipe.handed
  front : pipe.taken.flatten <+: pipe.handed
  answered : ∀ answer ∈ pipe.answers, answer = .ok ()
  usable : ∀ error, .failed error ∉ pipe.yielded
  heldBack :
    pipe.writer.gathered = [] ∨ pipe.writer.gathered.length < pipe.writer.bufferSize
  flushed :
    pipe.writer.connection.Writable →
      pipe.writer.flush.value.2.gathered = [] ∧ pipe.writer.close.value.2.gathered = []
  readable :
    pipe.writer.gathered = [] →
      ∀ chunks, chunks.flatten = pipe.underWay →
        pipe.taken.flatten ++ (pipe.reader.hears chunks).readAll.1.flatten = pipe.handed
  complete : .closed ∈ pipe.yielded → pipe.taken.flatten = pipe.handed

theorem Conveys.lossless
    (conveys : pipe.Conveys rest)
    (compact : pipe.writer.Compact) :
    pipe.Lossless := by
  have kept := conveys.kept
  rw [List.flatten_append] at kept
  constructor
  case blocks => exact ⟨rest, conveys.emitted, conveys.kept⟩
  case front =>
    rw [← kept, List.append_assoc]
    exact List.prefix_append _ _
  case answered => exact conveys.answered
  case usable => exact conveys.usable
  case heldBack => exact conveys.roomy
  case flushed =>
    intro writable
    have empty := (Filter.disposes_pushed (atOnce_of_enabled conveys.writing)).2
    rw [Filter.value_flush_of_writable writable, Filter.value_close_of_writable writable]
    exact ⟨empty, empty⟩
  case readable =>
    intro empty chunks cut
    have unread :
        (pipe.reader.hears chunks).unread = Filter.blocks pipe.writer.compressor rest := by
      rw [Filter.unread_hears, cut, conveys.onTheWay]
    rw [@Filter.readAll_of_blocks (pipe.reader.hears chunks) _ _ conveys.reading conveys.fits
        (conveys.short compact) unread,
      ← kept, empty, List.append_nil]
  case complete =>
    intro ended
    obtain ⟨finished, nothing⟩ := conveys.ended ended
    rw [← kept, nothing, conveys.flushed finished]
    simp only [List.flatten_nil, List.append_nil]

/-- Nothing is lost between two filters, whatever is asked of them and wherever octets are cut. -/
theorem lossless_of_reachable
    (opens : pipe.Opens)
    (run : Relation.ReflTransGen Step pipe next)
    (compact : next.writer.Compact) :
    next.Lossless := by
  obtain ⟨rest, conveys⟩ := exists_conveys_of_reachable opens run compact
  exact conveys.lossless compact

/-- Two filters that compress octets to themselves, two or more in a block. -/
def sample : Pipe where
  writer := .compressing (.fresh ⟨1⟩) ⟨id, some⟩ 2
  carried := 0
  reader := .compressing (.fresh ⟨2⟩) ⟨id, some⟩ 2
  handed := []
  answers := []
  yielded := []

theorem opens_sample : sample.Opens :=
  ⟨rfl, rfl, fun _ => rfl, rfl, rfl, rfl, rfl, rfl, rfl, rfl, rfl⟩

/-- One block is sent because it is full and one because it is flushed; the cut is in the first. -/
theorem lossless_of_reachable_sample :
    sample.Opens ∧
      ∃ last,
        Relation.ReflTransGen Step sample last ∧
          last.writer.Compact ∧
          last.taken = [[1, 2, 3], [4]] ∧
          last.handed = [1, 2, 3, 4] ∧
          last.Lossless := by
  let writes (pipe : Pipe) (octets : Bytes) : Pipe :=
    pipe.wrote (pipe.writer.send octets).value octets
  let filled := writes (writes (writes sample [1]) [2, 3]) [4]
  let flushed := filled.wrote filled.writer.flush.value []
  let waiting := (flushed.arrive 3).receive
  let last := (waiting.arrive 9).receive.receive
  have fills : Relation.ReflTransGen Step sample filled :=
    ((Relation.ReflTransGen.single (.send ⟨rfl, rfl⟩ [1])).tail (.send ⟨rfl, rfl⟩ [2, 3])).tail
      (.send ⟨rfl, rfl⟩ [4])
  have waits : Relation.ReflTransGen Step sample waiting :=
    ((fills.tail (.flush ⟨rfl, rfl⟩)).tail (.arrive 3)).tail .receive
  have run : Relation.ReflTransGen Step sample last :=
    ((waits.tail (.arrive 9)).tail .receive).tail .receive
  have compact : last.writer.Compact := fun _ => by decide
  have taken : last.taken = [[1, 2, 3], [4]] := by decide +kernel
  exact
    ⟨opens_sample, last, run, compact, taken, rfl, lossless_of_reachable opens_sample run compact⟩

end Pipe

end EventWire
