import EventWire.BigEndian

namespace EventWire

/-!
# Decoding text that may be damaged

Octets are read as UTF-8.  Where they are not well formed, the longest run that
could still have begun a character is replaced by one replacement character,
and reading goes on behind it, so no octet is read twice and none is lost.
-/

namespace Text.Lossy

/-- The character that stands for octets that write none. -/
def replacement : Char := '\uFFFD'

/-- Octets from a lowest to a highest, both included. -/
structure Span where
  lowest : UInt8
  highest : UInt8

namespace Span

/-- Whether an octet lies in a span. -/
def holds (span : Span) (octet : UInt8) : Bool :=
  span.lowest ≤ octet && octet ≤ span.highest

end Span

/-- The octets that may stand anywhere behind a lead octet. -/
def continuation : Span := ⟨0x80, 0xBF⟩

/--
What a lead octet announces: its share of the code point, and the spans of the
octets that must follow.

The first of them is narrowed where some continuations would write a character
in more octets than it needs, a surrogate, or a code point beyond the last.
-/
def announced? (lead : UInt8) : Option (Nat × List Span) :=
  if lead < 0x80 then some (lead.toNat, [])
  else if lead < 0xC2 then none
  else if lead < 0xE0 then some (lead.toNat % 32, [continuation])
  else if lead = 0xE0 then some (0, [⟨0xA0, 0xBF⟩, continuation])
  else if lead = 0xED then some (13, [⟨0x80, 0x9F⟩, continuation])
  else if lead < 0xF0 then some (lead.toNat % 16, [continuation, continuation])
  else if lead = 0xF0 then some (0, [⟨0x90, 0xBF⟩, continuation, continuation])
  else if lead < 0xF4 then some (lead.toNat % 8, [continuation, continuation, continuation])
  else if lead = 0xF4 then some (4, [⟨0x80, 0x8F⟩, continuation, continuation])
  else none

/-- A reader of octets: the characters read, last first, and the one being read. -/
structure State where
  read : List Char
  unfinished : Option (Nat × List Span)

namespace State

/-- Take the octet that begins a character. -/
def lead (state : State) (octet : UInt8) : State :=
  match announced? octet with
  | none => ⟨replacement :: state.read, none⟩
  | some (codePoint, []) => ⟨Char.ofNat codePoint :: state.read, none⟩
  | some unfinished => ⟨state.read, some unfinished⟩

/-- Take the next octet. -/
def step (state : State) (octet : UInt8) : State :=
  match state.unfinished with
  | none => state.lead octet
  | some (_, []) => state.lead octet
  | some (codePoint, span :: spans) =>
    if span.holds octet then
      let extended := 64 * codePoint + octet.toNat % 64
      if spans.isEmpty then ⟨Char.ofNat extended :: state.read, none⟩
      else ⟨state.read, some (extended, spans)⟩
    else State.lead ⟨replacement :: state.read, none⟩ octet

/-- All characters read, once no octet is left. -/
def finish (state : State) : List Char :=
  (if state.unfinished.isSome then replacement :: state.read else state.read).reverse

end State

/-- The characters that octets write, damage replaced. -/
def decode (octets : Bytes) : List Char :=
  (octets.foldl State.step ⟨[], none⟩).finish

end Text.Lossy

end EventWire
