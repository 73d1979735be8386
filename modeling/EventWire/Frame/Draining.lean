import EventWire.Frame.Decoder

namespace EventWire

/-!
# Draining a decoder

Taking events from a decoder until it has no more.  Every event uses up some of
what the decoder holds, so this ends.
-/

namespace Frame.Decoder

/-- All events that a decoder can return before more octets arrive, in order. -/
def drain (atEnd : Bool) (decoder : Decoder) : Noted (List Parcel × Decoder) :=
  let taken := decoder.decode atEnd
  match _returned : taken.value with
  | (none, next) => ⟨([], next), taken.notices⟩
  | (some parcel, next) =>
    let rest := drain atEnd next
    ⟨(parcel :: rest.value.1, rest.value.2), taken.notices ++ rest.notices⟩
termination_by decoder.weight
decreasing_by
  have used : (decoder.decode atEnd).value.2.weight < decoder.weight :=
    weight_decode_lt (by rw [show (decoder.decode atEnd).value = _ from _returned]; simp)
  rwa [show (decoder.decode atEnd).value = _ from _returned] at used

/-- Octets arrive in pieces, and behind each piece the decoder is drained. -/
def deliver (decoder : Decoder) : List Bytes → Noted (List (List Parcel) × Decoder)
  | [] => .silent ([], decoder)
  | piece :: rest => do
    let (parcels, drained) ← (decoder.push piece).drain false
    let (others, last) ← drained.deliver rest
    return (parcels :: others, last)

end Frame.Decoder

end EventWire
