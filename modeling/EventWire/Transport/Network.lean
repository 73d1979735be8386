import EventWire.Notice
import EventWire.Text.Digits
import EventWire.Transport.Error

namespace EventWire

/-!
# Listening on addresses

An endpoint listens on an address of the local machine.  The machine is seen as
the list of addresses that are listened on; whoever dials one of them reaches
it, and nobody can listen on it again.
-/

/-- A local or remote address. -/
structure Address where
  first : UInt8
  second : UInt8
  third : UInt8
  fourth : UInt8
  port : UInt16
  deriving DecidableEq

namespace Address

/-- A part of a host: hexadecimal behind `0x`, octal behind another zero, decimal otherwise. -/
def hostPart? : List Char → Option Nat
  | '0' :: 'x' :: digits => Text.number? 16 digits
  | '0' :: 'X' :: digits => Text.number? 16 digits
  | '0' :: digits => Text.number? 8 ('0' :: digits)
  | digits => Text.number? 10 digits

/--
The number that the parts of a host make up: each part but the last is an octet,
and the last fills the octets that remain.
-/
def hostNumber? : Nat → List Nat → Option Nat
  | fewer + 1, [part] => if part < 1 <<< (8 * (fewer + 1)) then some part else none
  | fewer + 1, part :: rest =>
    if part < 256 then (hostNumber? fewer rest).map (part <<< (8 * fewer) + ·) else none
  | _, _ => none

/-- The port that a text writes: digits, perhaps behind a plus sign. -/
def port? (text : List Char) : Option UInt16 := do
  let digits :=
    match text with
    | '+' :: digits => digits
    | digits => digits
  let number ← Text.number? 10 digits
  if number < UInt16.size then some (UInt16.ofNat number) else none

/-- The address whose host is a number of 32 bits. -/
def ofHostNumber (number : Nat) (port : UInt16) : Address :=
  ⟨UInt8.ofNat (number >>> 24), UInt8.ofNat (number >>> 16), UInt8.ofNat (number >>> 8),
    UInt8.ofNat number, port⟩

/-- The address that a text writes: one to four numbers between points, a colon, the port. -/
def ofText? (text : String) : Option Address := do
  match text.splitOn ":" with
  | [host, port] =>
    let parts ← (host.splitOn ".").mapM fun part => hostPart? part.toList
    return ofHostNumber (← hostNumber? 4 parts) (← port? port.toList)
  | _ => none

/-- The host of an address. -/
def host (address : Address) : String :=
  ".".intercalate
    ([address.first, address.second, address.third, address.fourth].map fun part =>
      toString part.toNat)

/-- An address as text. -/
def text (address : Address) : String :=
  address.host ++ ":" ++ toString address.port.toNat

/-- Whether an address belongs to the local machine: a loopback host, or the one for all hosts. -/
def isLocal (address : Address) : Bool :=
  address.first = 127 ||
    (address.first = 0 && address.second = 0 && address.third = 0 && address.fourth = 0)

end Address

/-- Something that listens on an address. -/
structure Listener where
  address : Address
  /-- Those who have dialled and have not been answered. -/
  callers : List Address

namespace Listener

/-- Whether answering the next caller has to wait. -/
def waits (listener : Listener) : Bool :=
  listener.callers.isEmpty

/-- Stop listening; nothing can go wrong. -/
def shutDown (_listener : Listener) : Except TransportError Unit :=
  .ok ()

end Listener

/-- The addresses that are listened on. -/
structure Network where
  taken : List Address

namespace Network

/-- Nobody listens anywhere. -/
def idle : Network := ⟨[]⟩

def target : String := "vigil_transport::tcp"

def listeningNotice : Notice where
  level := .info
  target := target
  message := "TCP transport listening"
  details := []

/-- The first port that is given to those who leave the choice. -/
def firstFreePort : Nat := 32768

/-- The given address with the first free port, if it leaves the choice of a port. -/
def assign (network : Network) (address : Address) : Address :=
  if address.port = 0 then
    let candidates :=
      (List.range (network.taken.length + 1)).map fun offset =>
        { address with port := UInt16.ofNat (firstFreePort + offset) }
    (candidates.find? fun candidate => !network.taken.contains candidate).getD address
  else address

/-- Listen on the address that a text writes. -/
def listen
    (network : Network)
    (requested : String) :
    Noted (Except TransportError (Listener × Network)) := do
  match Address.ofText? requested with
  | none => return .error .listenFailed
  | some address =>
    let assigned := network.assign address
    if assigned.isLocal && !network.taken.contains assigned then
      Noted.give listeningNotice
      return .ok (⟨assigned, []⟩, ⟨assigned :: network.taken⟩)
    else return .error .listenFailed

/-- Dial the address that a text writes. -/
def dial (network : Network) (requested : String) : Except TransportError Address :=
  match Address.ofText? requested with
  | none => .error .connectFailed
  | some address =>
    if network.taken.contains address then .ok address else .error .connectFailed

end Network

end EventWire
