import EventWire.Proofs.Transport.Filter

namespace EventWire

/-!
# What is supplied before a call

A peer supplies chunks and then perhaps its end.  A call that finds what it waits
for comes to the same whether or not more has been supplied before it, and leaves
the same with this more.  A call that is blocked has only put together what had
arrived: when more is supplied afterwards the next call comes to what it would
have come to without the blocked one.
-/

/-- What a peer supplies: chunks, and then perhaps no more. -/
structure Supply where
  chunks : List Bytes
  /-- The peer closes, so nothing follows. -/
  closes : Bool
  /-- The peer is gone, so nothing can be sent to it either. -/
  leaves : Bool

namespace Filter

/-- A filter to which more has been supplied. -/
def supplied (filter : Filter) (supply : Supply) : Filter :=
  { filter with
    connection :=
      { filter.connection with
        inbox := filter.connection.inbox ++ supply.chunks
        peerFinished := filter.connection.peerFinished || supply.closes
        peerDropped := filter.connection.peerDropped || supply.leaves } }

section Receiving

variable {supply : Supply}

/-- What a call that yields something does, it does with more behind it as well. -/
def Overlooks (supply : Supply) (filter : Filter) (call : Filter → Arrival × Filter) : Prop :=
  ((call filter).1 ≠ .blocked →
      call (filter.supplied supply) = ((call filter).1, (call filter).2.supplied supply)) ∧
    ((call filter).1 = .blocked →
      call ((call filter).2.supplied supply) = call (filter.supplied supply))

/-- A call that has no need of more leaves alone what is supplied. -/
theorem value_receiveBlock_supplied_of_clear
    {filter : Filter}
    (clear : Front.ofBytes filter.received ≠ .partly)
    (supply : Supply) :
    (filter.supplied supply).receiveBlock.value =
        (filter.receiveBlock.value.1, filter.receiveBlock.value.2.supplied supply) ∧
      filter.receiveBlock.value.1 ≠ .blocked := by
  have same : Front.ofBytes (filter.supplied supply).received = Front.ofBytes filter.received := rfl
  rw [receiveBlock, receiveBlock, same]
  cases front : Front.ofBytes filter.received with
  | whole compressed rest =>
      refine ⟨rfl, fun blocked => ?_⟩
      dsimp only [Noted.value_silent, open?] at blocked
      split at blocked <;> cases blocked
  | tooLong length => exact ⟨rfl, fun blocked => by cases blocked⟩
  | partly => exact absurd front clear

theorem overlooks_receiveBlock
    {filter : Filter}
    (last : filter.connection.peerFinished = true → supply.chunks = []) :
    filter.Overlooks supply fun filter => filter.receiveBlock.value := by
  by_cases front : Front.ofBytes filter.received = .partly
  · cases inbox : filter.connection.inbox with
    | cons octets rest =>
        let taken :=
          filter.hearing rest (filter.connection.counters.received (UInt64.ofNat octets.length))
            (filter.received ++ octets)
        have called : filter.receiveBlock = taken.receiveBlock := receiveBlock_of_partly front inbox
        have calledSupplied :
            (filter.supplied supply).receiveBlock = (taken.supplied supply).receiveBlock :=
          @receiveBlock_of_partly (filter.supplied supply) octets (rest ++ supply.chunks) front
            (by rw [supplied, inbox]; rfl)
        have shorter : taken.connection.inbox.length < filter.connection.inbox.length := by
          rw [inbox]
          exact Nat.lt_succ_self _
        have overlooked := @overlooks_receiveBlock taken last
        dsimp only [Overlooks] at overlooked ⊢
        rw [called, calledSupplied]
        exact overlooked
    | nil =>
        rw [Overlooks, value_receiveBlock_of_nothing front inbox]
        by_cases finished : filter.connection.peerFinished = true
        · have nothing := last finished
          have calledSupplied : (filter.supplied supply).receiveBlock.value = _ :=
            @value_receiveBlock_of_nothing (filter.supplied supply) front
              (by rw [supplied, inbox, nothing]; rfl)
          rw [if_pos finished, calledSupplied, if_pos (by rw [supplied, finished]; rfl)]
          refine ⟨fun _ => ?_, fun blocked => by cases blocked⟩
          rw [supplied, supplied, hearing, hearing, nothing]
          rfl
        · rw [if_neg finished]
          exact ⟨fun unblocked => absurd rfl unblocked, fun _ => rfl⟩
  · obtain ⟨called, unblocked⟩ := value_receiveBlock_supplied_of_clear front supply
    exact ⟨fun _ => called, fun blocked => absurd blocked unblocked⟩
termination_by filter.connection.inbox.length

theorem overlooks_receive
    {filter : Filter}
    (last : filter.connection.peerFinished = true → supply.chunks = []) :
    filter.Overlooks supply fun filter => filter.receive.value := by
  cases enabled : filter.enabled with
  | true =>
      obtain ⟨unblocked, blocked⟩ := overlooks_receiveBlock last
      obtain ⟨inbox, counters, received, heard⟩ := filter.exists_hearing_of_receive
      have enabledThen : (filter.receive.value.2.supplied supply).enabled = true := by
        rw [heard]
        exact enabled
      dsimp only [Overlooks]
      rw [receive_of_enabled enabledThen, receive_of_enabled enabled,
        receive_of_enabled (show (filter.supplied supply).enabled = true from enabled)]
      exact ⟨unblocked, blocked⟩
  | false =>
      have disabled : (filter.supplied supply).enabled = false := enabled
      dsimp only [Overlooks]
      rw [value_receive_of_disabled enabled, value_receive_of_disabled disabled]
      cases inbox : filter.connection.inbox with
      | cons octets rest =>
          have inboxSupplied :
              (filter.supplied supply).connection.inbox = octets :: (rest ++ supply.chunks) := by
            rw [supplied, inbox]
            rfl
          rw [inboxSupplied]
          exact ⟨fun _ => rfl, fun blocked => by cases blocked⟩
      | nil =>
          dsimp only
          by_cases finished : filter.connection.peerFinished = true
          · have inboxSupplied : (filter.supplied supply).connection.inbox = [] := by
              rw [supplied, inbox, last finished]
              rfl
            rw [inboxSupplied, if_pos finished]
            dsimp only
            rw [if_pos (by rw [supplied, finished]; rfl)]
            exact ⟨fun _ => rfl, fun blocked => by cases blocked⟩
          · rw [if_neg finished]
            refine ⟨fun unblocked => absurd rfl unblocked, fun _ => ?_⟩
            rw [value_receive_of_disabled disabled]

section Received

variable {filter next : Filter}

theorem value_receive_supplied
    {arrival : Arrival}
    (last : filter.connection.peerFinished = true → supply.chunks = [])
    (received : filter.receive.value = (arrival, next))
    (unblocked : arrival ≠ .blocked) :
    (filter.supplied supply).receive.value = (arrival, next.supplied supply) := by
  have called := (overlooks_receive last).1
  dsimp only at called
  rw [received] at called
  exact called unblocked

/-- A call made again after a blocked one, when more has been supplied, misses nothing. -/
theorem value_receive_again
    (last : filter.connection.peerFinished = true → supply.chunks = [])
    (received : filter.receive.value = (.blocked, next)) :
    (next.supplied supply).receive.value = (filter.supplied supply).receive.value := by
  have again := (overlooks_receive last).2
  dsimp only at again
  rw [received] at again
  exact again rfl

end Received

end Receiving

section Sending

variable {supply : Supply} (stays : supply.leaves = false)
include stays

/-- What is supplied does not influence what is sent, unless the peer leaves. -/
theorem sendThrough_supplied (filter : Filter) (octets : Bytes) :
    (filter.supplied supply).sendThrough octets =
      ((filter.sendThrough octets).1, (filter.sendThrough octets).2.supplied supply) := by
  obtain ⟨chunks, closes, leaves⟩ := supply
  obtain rfl : leaves = false := stays
  obtain ⟨⟨_, _, _, _, finished, dropped, _⟩, _, _, _, _, _⟩ := filter
  cases octets with
  | nil => rfl
  | cons octet rest =>
      cases finished with
      | true => rfl
      | false => cases dropped <;> rfl

theorem value_send_supplied (filter : Filter) (octets : Bytes) :
    ((filter.supplied supply).send octets).value =
      ((filter.send octets).value.1, (filter.send octets).value.2.supplied supply) := by
  by_cases enabled : filter.enabled = true
  · by_cases full :
        filter.bufferSize ≤ (filter.gathered ++ octets).length ∧ filter.gathered ++ octets ≠ []
    · rw [value_send_of_full enabled full,
        @value_send_of_full (filter.supplied supply) _ enabled full]
      exact sendThrough_supplied stays { filter with gathered := [] } _
    · rw [value_send_of_roomy enabled full,
        @value_send_of_roomy (filter.supplied supply) _ enabled full]
      rfl
  · rw [value_send_of_disabled enabled, @value_send_of_disabled (filter.supplied supply) _ enabled]
    exact sendThrough_supplied stays filter octets

theorem value_flush_supplied (filter : Filter) :
    (filter.supplied supply).flush.value =
      (filter.flush.value.1, filter.flush.value.2.supplied supply) := by
  by_cases pending : filter.enabled = true ∧ filter.gathered ≠ []
  · rw [value_flush_of_pending pending, @value_flush_of_pending (filter.supplied supply) pending]
    exact sendThrough_supplied stays { filter with gathered := [] } _
  · rw [value_flush_of_idle pending, @value_flush_of_idle (filter.supplied supply) pending]

end Sending

end Filter

end EventWire
