import EventWire.BigEndian
import EventWire.Binary64.Numeral
import EventWire.Binary64.Shortest
import EventWire.Event.Error
import EventWire.Text.Lossy

namespace EventWire

/-!
# Field values and their wire forms

A body is the wire forms of its field values, one after the other.  Words have
a fixed size; a text is its UTF-8 octets and a double its shortest decimal,
each closed by a NUL.  Reading takes a value's form from the front of the
octets and returns what is left, also when it fails, so a caller can see what
the failing field used up.
-/

/-- The kinds of field values. -/
inductive FieldKind where
  | boolean
  | short
  | signed
  | unsigned
  | timestamp
  | text
  | double
  deriving DecidableEq

/-- A field value. -/
inductive FieldValue where
  | boolean (value : Bool)
  | short (value : UInt16)
  | signed (value : Int32)
  | unsigned (value : UInt32)
  | timestamp (value : Int64)
  | text (value : String)
  | double (value : Binary64)
  deriving DecidableEq

namespace FieldKind

/-- The name of a kind in descriptions of fields. -/
def name : FieldKind → String
  | boolean => "Bool"
  | short => "Short"
  | signed => "Int"
  | unsigned => "UInt"
  | timestamp => "Timestamp"
  | text => "String"
  | double => "Double"

/-- The value of a field that has not been given one. -/
def blank : FieldKind → FieldValue
  | boolean => .boolean false
  | short => .short 0
  | signed => .signed 0
  | unsigned => .unsigned 0
  | timestamp => .timestamp 0
  | text => .text ""
  | double => .double ⟨0⟩

end FieldKind

namespace FieldValue

/-- The kind of a value. -/
def kind : FieldValue → FieldKind
  | boolean _ => .boolean
  | short _ => .short
  | signed _ => .signed
  | unsigned _ => .unsigned
  | timestamp _ => .timestamp
  | text _ => .text
  | double _ => .double

@[simp] theorem kind_blank (fieldKind : FieldKind) : fieldKind.blank.kind = fieldKind := by
  cases fieldKind <;> rfl

/-- The UTF-8 octets of a text. -/
def textBytes (text : String) : Bytes :=
  text.toUTF8.data.toList

/-- The octets of a value on the wire. -/
def encode : FieldValue → Bytes
  | boolean value => [if value then 1 else 0]
  | short value => BigEndian.encode16 value
  | signed value => BigEndian.encode32 value.toUInt32
  | unsigned value => BigEndian.encode32 value
  | timestamp value =>
    BigEndian.encode32 (value.toUInt64 >>> 32).toUInt32 ++
      BigEndian.encode32 value.toUInt64.toUInt32
  | text value => textBytes value ++ [0]
  | double value => textBytes (String.ofList value.text) ++ [0]

/-- Whether a value is a text that holds the octet which would close it. -/
def holdsNul : FieldValue → Bool
  | text value => value.toList.contains '\x00'
  | _ => false

/-- What reading from the front of octets yields: a result, and the octets left. -/
abbrev Reading (Value : Type) := Except EventError Value × Bytes

/-- Read one octet. -/
def read8 (field : String) : Bytes → Reading UInt8
  | octet :: rest => (.ok octet, rest)
  | [] => (.error (.truncated field 1 0), [])

/-- Read a 16-bit word. -/
def read16 (field : String) : Bytes → Reading UInt16
  | high :: low :: rest => (.ok (BigEndian.decode16 high low), rest)
  | input => (.error (.truncated field 2 input.length), input)

/-- Read a 32-bit word. -/
def read32 (field : String) : Bytes → Reading UInt32
  | first :: second :: third :: fourth :: rest =>
    (.ok (BigEndian.decode32 first second third fourth), rest)
  | input => (.error (.truncated field 4 input.length), input)

/-- Read two 32-bit words, the high one first; a body that ends in the second has lost the first. -/
def read64 (field : String) (input : Bytes) : Reading UInt64 :=
  match read32 field input with
  | (.error error, rest) => (.error error, rest)
  | (.ok high, rest) =>
    match read32 field rest with
    | (.error error, rest) => (.error error, rest)
    | (.ok low, rest) => (.ok ((high.toUInt64 <<< 32) ||| low.toUInt64), rest)

/-- Read the octets up to a NUL, which is taken too; without one nothing is taken. -/
def readTerminated (field : String) (input : Bytes) : Reading Bytes :=
  match input.span (· ≠ 0) with
  | (octets, _ :: rest) => (.ok octets, rest)
  | (_, []) => (.error (.missingTerminator field), input)

/-- The text that octets write in UTF-8. -/
def readText (field : String) (octets : Bytes) : Except EventError String :=
  match String.fromUTF8? octets.toByteArray with
  | some decoded => .ok decoded
  | none => .error (.invalidUtf8 field)

/-- The double that octets write as a numeral. -/
def readDouble (field : String) (octets : Bytes) : Except EventError Binary64 :=
  let characters := Text.Lossy.decode octets
  match Binary64.read? characters with
  | some number => .ok number
  | none => .error (.invalidDouble field (String.ofList characters))

/-- Turn what was read into a value, leaving the rest as it is. -/
def Reading.convert
    {Raw Value : Type}
    (reading : Reading Raw)
    (change : Raw → Except EventError Value) :
    Reading Value :=
  (reading.1.bind change, reading.2)

/-- Read a value of the given kind; the field's name serves the error only. -/
def decode (kind : FieldKind) (field : String) (input : Bytes) : Reading FieldValue :=
  match kind with
  | .boolean => Reading.convert (read8 field input) fun octet => .ok (.boolean (octet ≠ 0))
  | .short => Reading.convert (read16 field input) fun word => .ok (.short word)
  | .signed => Reading.convert (read32 field input) fun word => .ok (.signed word.toInt32)
  | .unsigned => Reading.convert (read32 field input) fun word => .ok (.unsigned word)
  | .timestamp => Reading.convert (read64 field input) fun word => .ok (.timestamp word.toInt64)
  | .text =>
    Reading.convert (readTerminated field input) fun octets =>
      (readText field octets).map .text
  | .double =>
    Reading.convert (readTerminated field input) fun octets =>
      (readDouble field octets).map .double

end FieldValue

end EventWire
