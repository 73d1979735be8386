import EventWire.Binary64.Numeral
import EventWire.Config.Basic
import EventWire.Pattern.Reading
import EventWire.Text.Cut

namespace EventWire

/-!
# Log filters

A log filter is a list of directives between commas; empty ones do not count.
A directive names a level, a target, or a target and its level joined by an
equals sign.  Behind the target a span may stand in brackets, and in the span a
field in braces, which may be joined with a value: a number or a pattern.  A
filter is only checked here: whether its directives parse.
-/

namespace LogFilter

/-- The names of levels. -/
def levelNames : List String :=
  ["off", "error", "warn", "info", "debug", "trace"]

/-- Whether digits, behind an optional plus sign, number one of the levels from 0 to 5. -/
def isLevelNumber : List Char → Bool
  | '+' :: digits => (Text.number? 10 digits).any (· ≤ 5)
  | digits => (Text.number? 10 digits).any (· ≤ 5)

/-- Whether a text names a level in letters of either case, or numbers one. -/
def isLevel (text : List Char) : Bool :=
  levelNames.contains (String.ofList (text.map Char.toLower)) || isLevelNumber text

/-- Whether a text is a field: any name, perhaps joined with a value by an equals sign. -/
def isField (text : List Char) : Bool :=
  match text.dropWhile (· != '=') with
  | [] => true
  | _ :: behindSign =>
    let value := behindSign.takeWhile (· != '=')
    (Binary64.read? value).isSome || Pattern.isPattern value

/-- Where in a directive a reader stands. -/
inductive Place where
  | start
  /-- In the name of a target or of a level. -/
  | name
  /-- Between the brackets of a span. -/
  | span
  /-- In the field of a span, which starts at the given position. -/
  | field (start : Nat)
  /-- Behind the field of a span. -/
  | behindField
  /-- Behind a span. -/
  | behindSpan
  /-- In a level, with its characters in reverse. -/
  | level (read : List Char)

/-- Whether a name may start with a character. -/
def startsName (character : Char) : Bool :=
  character = '-' || character = ':' || character = '_' || Text.isAlphanumeric character

/-- What has been read of a directive. -/
structure Reader where
  place : Place
  /-- The octets read. -/
  position : Nat
  /-- Where the field of the span starts and ends. -/
  field : Option (Nat × Nat)

namespace Reader

/-- A reader in front of a directive. -/
def initial : Reader where
  place := .start
  position := 0
  field := none

/-- Where a reader stands after one more character, unless it does not belong there. -/
def nextPlace? (reader : Reader) (character : Char) : Option Place :=
  match reader.place, character with
  | .start, '[' => some .span
  | .start, character => if startsName character then some .name else none
  | .name, '=' => some (.level [])
  | .name, '[' => some .span
  | .name, _ => some .name
  | .span, ']' => some .behindSpan
  | .span, '\x7b' => some (.field (reader.position + 1))
  | .span, _ => some .span
  | .field start, '\x7d' => if start = reader.position then none else some .behindField
  | .field start, _ => some (.field start)
  | .behindField, ']' => some .behindSpan
  | .behindField, _ => none
  | .behindSpan, '=' => some (.level [])
  | .behindSpan, _ => none
  | .level read, character => some (.level (character :: read))

/-- Read one more character. -/
def next? (reader : Reader) (character : Char) : Option Reader :=
  (reader.nextPlace? character).map fun place => {
    place := place
    position := reader.position + character.utf8Size
    field :=
      match reader.place, place with
      | .field start, .behindField => some (start, reader.position)
      | _, _ => reader.field }

end Reader

/--
Whether a directive parses.

Blanks around a directive do not count for where its parts stand, but the field
and the level are cut from it, at those positions, as it was written.  So a
directive with blanks around it cannot end with a level.
-/
def directiveParses (directive : List Char) : Bool :=
  let trimmed := Text.trim directive
  match trimmed.foldlM Reader.next? Reader.initial with
  | none => false
  | some reader =>
    let fieldFits :=
      match reader.field with
      | some (start, stop) => (Text.cut? start stop directive).any isField
      | none => true
    match reader.place with
    | .name => true
    | .behindSpan => fieldFits
    | .level read =>
      fieldFits && trimmed.length == directive.length && (read.isEmpty || isLevel read.reverse)
    | _ => false

/-- Whether all directives of a filter parse. -/
def parses (filter : String) : Bool :=
  ((filter.splitOn ",").filter fun directive => !directive.isEmpty).all fun directive =>
    directiveParses directive.toList

def installedNotice : Notice where
  level := .debug
  target := "vigil::logging"
  message := "global subscriber already installed"
  details := []

/-- Use a filter where events are already being logged: it is checked, and nothing changes. -/
def install (filter : String) : Noted (Except ConfigError Unit) := do
  if parses filter then
    Noted.give installedNotice
    return .ok ()
  else return .error (.logFilter filter)

end LogFilter

end EventWire
