import EventWire.Pattern.Class
import EventWire.Text.Alphanumeric

namespace EventWire

/-!
# Reading patterns

A pattern is read from left to right in steps that each take at least one
character: an atom, a sign, the head of a group or a member of a class.  The
patterns read here stand between braces, so they hold no closing brace, and a
repetition with a count or an escape in braces cannot come to its end.
-/

namespace Pattern

/-- A part that has been read of a pattern. -/
structure Part where
  height : Nat
  /-- Whether it can be repeated, as all can but flags. -/
  repeatable : Bool

/-- A group whose end has not been read, or the pattern itself. -/
structure Group where
  /-- The mode in which it goes on. -/
  mode : Mode
  /-- The heights of the alternatives in front of the one at hand. -/
  alternatives : List Nat
  /-- The parts of the alternative at hand, last first. -/
  parts : List Part

namespace Group

/-- A group of which nothing but the head has been read. -/
def empty (mode : Mode) : Group where
  mode := mode
  alternatives := []
  parts := []

/-- Add a part. -/
def add (group : Group) (height : Nat) (repeatable : Bool) : Group :=
  { group with parts := ⟨height, repeatable⟩ :: group.parts }

/-- The heights of all alternatives. -/
def heights (group : Group) : List Nat :=
  joinedHeight (group.parts.map Part.height) :: group.alternatives

/-- Begin another alternative. -/
def choose (group : Group) : Group :=
  { group with alternatives := group.heights, parts := [] }

/-- Repeat the last part, if it can be. -/
def repeat? (group : Group) : Option Group :=
  match group.parts with
  | ⟨height, true⟩ :: parts => some { group with parts := ⟨height + 1, true⟩ :: parts }
  | _ => none

end Group

/-- What has been read of a pattern. -/
structure Reader where
  /-- The class in which the reader stands, if it does. -/
  inClass : Option Class.Reader
  innermost : Group
  /-- The groups around the innermost one, from the inside out. -/
  outer : List Group
  /-- The names of groups. -/
  names : List (List Char)

namespace Reader

/-- A reader in front of a pattern. -/
def initial : Reader where
  inClass := none
  innermost := .empty .initial
  outer := []
  names := []

/-- The mode at hand. -/
def mode (reader : Reader) : Mode :=
  reader.innermost.mode

/-- Add a part that can be repeated. -/
def add (reader : Reader) (height : Nat) : Reader :=
  { reader with innermost := reader.innermost.add height true }

/-- Enter a group, in a mode of its own. -/
def enter (reader : Reader) (mode : Mode) : Reader :=
  { reader with innermost := .empty mode, outer := reader.innermost :: reader.outer }

/-- Leave the innermost group, if there is one. -/
def leave? (reader : Reader) : Option Reader :=
  match reader.outer with
  | [] => none
  | around :: outer =>
    some
      { reader with
        innermost := around.add (joinedHeight reader.innermost.heights + 1) true
        outer := outer }

/-- Whether characters make up the name of a group. -/
def isName : List Char → Bool
  | [] => false
  | first :: others =>
    (first == '_' || Text.isAlphabetic first) &&
      others.all fun other => ['_', '.', '[', ']'].contains other || Text.isAlphanumeric other

/-- Read the name of a group, which no other group has, and the sign behind it. -/
def named? (reader : Reader) (text : List Char) : Option (Reader × List Char) :=
  match text.span (· != '>') with
  | (name, '>' :: rest) =>
    if isName name && !reader.names.contains name then
      some ({ reader.enter reader.mode with names := name :: reader.names }, rest)
    else none
  | _ => none

/-- Read flags, which are for a group or for the rest of the group around them. -/
def flags? (reader : Reader) (text : List Char) : Option (Reader × List Char) :=
  match reader.mode.flags? [] text with
  | some (mode, _, ':' :: rest) => some (reader.enter mode, rest)
  | some (mode, _ :: _, ')' :: rest) =>
    some ({ reader with innermost := { reader.innermost.add 0 false with mode := mode } }, rest)
  | _ => none

/-- Read the head of a group behind its opening parenthesis. -/
def group? (reader : Reader) (text : List Char) : Option (Reader × List Char) :=
  match reader.mode.skip text with
  | '?' :: 'P' :: '<' :: rest => reader.named? rest
  | '?' :: '<' :: rest => reader.named? rest
  | '?' :: rest => reader.flags? rest
  | rest => some (reader.enter reader.mode, rest)

/-- Repeat the last part behind the sign for it; a question mark may follow the sign at once. -/
def repeat? (reader : Reader) (text : List Char) : Option (Reader × List Char) :=
  let rest :=
    match text with
    | '?' :: rest => rest
    | rest => rest
  reader.innermost.repeat?.map fun group => ({ reader with innermost := group }, rest)

/-- Read on outside of classes. -/
def outsideStep? (reader : Reader) (text : List Char) : Option (Reader × List Char) :=
  match text with
  | '(' :: rest => reader.group? rest
  | ')' :: rest => reader.leave?.map (·, rest)
  | '|' :: rest => some ({ reader with innermost := reader.innermost.choose }, rest)
  | '[' :: rest => some ({ reader with inClass := some .initial }, rest)
  | '?' :: rest => reader.repeat? rest
  | '*' :: rest => reader.repeat? rest
  | '+' :: rest => reader.repeat? rest
  | '\x7b' :: _ => none
  | text =>
    match Atom.read? reader.mode text with
    | some (atom, rest) => if atom.fits reader.mode then some (reader.add 0, rest) else none
    | none => none

/-- Read on; the text is not empty. -/
def step? (reader : Reader) (text : List Char) : Option (Reader × List Char) :=
  match reader.inClass with
  | none => reader.outsideStep? text
  | some inner =>
    match Class.step? reader.mode inner text with
    | some (.within inner, rest) => some ({ reader with inClass := some inner }, rest)
    | some (.behind height, rest) => some ({ reader.add height with inClass := none }, rest)
    | none => none

/-- The height of the pattern that ends here, unless a group or a class is open. -/
def height? (reader : Reader) : Option Nat :=
  if reader.inClass.isNone && reader.outer.isEmpty then
    some (joinedHeight reader.innermost.heights)
  else none

/-- The height of a pattern of which the given text is left, if the given steps are enough. -/
def heightIn? (reader : Reader) (text : List Char) : Nat → Option Nat
  | 0 => none
  | steps + 1 =>
    match reader.mode.skip text with
    | [] => reader.height?
    | left =>
      match reader.step? left with
      | some (reader, rest) => heightIn? reader rest steps
      | none => none

end Reader

/-- The height of a pattern; a step takes a character, so the length of a text bounds the steps. -/
def height? (text : List Char) : Option Nat :=
  Reader.initial.heightIn? text (text.length + 1)

/-- Whether a text is a pattern. -/
def isPattern (text : List Char) : Bool :=
  (height? text).any (· ≤ maxHeight)

end Pattern

end EventWire
