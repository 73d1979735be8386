import EventWire.Pattern.Atom
import EventWire.Pattern.Height

namespace EventWire

/-!
# Classes in patterns

A class stands between brackets and holds characters, ranges and other classes.
Operators join what stands in front of them with what follows.
-/

namespace Pattern.Class

/-- How far a class has been read. -/
inductive Part where
  /-- Nothing behind its opening bracket. -/
  | head
  /-- What may stand in front of its members: a sign that negates it, and hyphens. -/
  | hyphens
  | members

/-- A class whose closing bracket has not been read. -/
structure Open where
  /-- The height of what stands in front of the last operator, if there is one. -/
  operand : Option Nat
  /-- The heights of the members behind it. -/
  members : List Nat

namespace Open

/-- A class of which only the opening bracket has been read. -/
def empty : Open where
  operand := none
  members := []

/-- The height of what a class holds so far. -/
def height (part : Open) : Nat :=
  match part.operand with
  | none => joinedHeight part.members
  | some operand => max operand (joinedHeight part.members) + 1

/-- Add a member of the given height. -/
def add (part : Open) (height : Nat) : Open :=
  { part with members := height :: part.members }

/-- Join what has been read with what follows. -/
def join (part : Open) : Open where
  operand := some part.height
  members := []

end Open

/-- What has been read of a class that stands in no other. -/
structure Reader where
  part : Part
  innermost : Open
  /-- The classes around the innermost one, from the inside out. -/
  outer : List Open

namespace Reader

/-- A reader behind the opening bracket. -/
def initial : Reader where
  part := .head
  innermost := .empty
  outer := []

/-- Add a member of the given height. -/
def add (reader : Reader) (height : Nat) : Reader :=
  { reader with part := .members, innermost := reader.innermost.add height }

/-- Pass an operator. -/
def join (reader : Reader) : Reader :=
  { reader with part := .members, innermost := reader.innermost.join }

/-- Enter a class within the innermost one. -/
def enter (reader : Reader) : Reader where
  part := .head
  innermost := .empty
  outer := reader.innermost :: reader.outer

end Reader

/-- Where a step through a class leads. -/
inductive Progress where
  | within (reader : Reader)
  /-- Behind a class of the given height. -/
  | behind (height : Nat)

/-- Leave the innermost class. -/
def Reader.leave (reader : Reader) : Progress :=
  match reader.outer with
  | [] => .behind (reader.innermost.height + 1)
  | around :: outer =>
    .within ⟨.members, around.add (reader.innermost.height + 1), outer⟩

/-- The names of the classes of ASCII characters. -/
def names : List String :=
  ["alnum", "alpha", "ascii", "blank", "cntrl", "digit", "graph", "lower", "print", "punct",
    "space", "upper", "word", "xdigit"]

/-- Read the name of a class behind its opening bracket, and whether that class is negated. -/
def named? (text : List Char) : Option (Bool × List Char) :=
  match text with
  | ':' :: '^' :: rest => (closed? rest).map (true, ·)
  | ':' :: rest => (closed? rest).map (false, ·)
  | _ => none
where
  /-- What follows the name and its closing signs. -/
  closed? (text : List Char) : Option (List Char) :=
    match text.span (· != ':') with
    | (name, ':' :: ']' :: rest) =>
      if names.contains (String.ofList name) then some rest else none
    | _ => none

/-- Read a member of a class, which may be a range. -/
def member? (mode : Mode) (text : List Char) : Option (List Char) := do
  let (atom, behind) ← Atom.readInClass? mode text
  match mode.skip behind with
  | [] => none
  | '-' :: rest =>
    if mode.peek? rest = some ']' ∨ mode.peek? rest = some '-' then
      if atom.fitsClass mode then return '-' :: rest else none
    else
      let (last, behind) ← Atom.readInClass? mode (mode.skip rest)
      match atom, last with
      | .literal lower _, .literal upper _ =>
        if lower ≤ upper ∧ atom.fitsClass mode ∧ last.fitsClass mode then return behind
        else none
      | _, _ => none
  | rest => if atom.fitsClass mode then return rest else none

/-- Read on among the members of a class. -/
def membersStep? (mode : Mode) (reader : Reader) (text : List Char) :
    Option (Progress × List Char) :=
  match text with
  | '[' :: rest =>
    match named? rest with
    | some (isNegated, rest) =>
      if (if mode.hasCharacters then !mode.ignoresCase else !isNegated) then
        some (.within (reader.add 0), rest)
      else none
    | none => some (.within reader.enter, rest)
  | ']' :: rest => some (reader.leave, rest)
  | '&' :: '&' :: rest => some (.within reader.join, rest)
  | '-' :: '-' :: rest => some (.within reader.join, rest)
  | '~' :: '~' :: rest => some (.within reader.join, rest)
  | text => (member? mode text).map (.within (reader.add 0), ·)

/--
Read on where hyphens stand for themselves, and so does a closing bracket if
there is none.
-/
def hyphensStep? (mode : Mode) (reader : Reader) (text : List Char) :
    Option (Progress × List Char) :=
  match text with
  | '-' :: rest =>
    if (Atom.literal '-' false).fitsClass mode then
      some (.within { reader.add 0 with part := .hyphens }, rest)
    else none
  | ']' :: rest =>
    if reader.innermost.members.isEmpty then
      if (Atom.literal ']' false).fitsClass mode then some (.within (reader.add 0), rest)
      else none
    else membersStep? mode reader (']' :: rest)
  | text => membersStep? mode reader text

/-- Read on in a class; a negated class of octets would hold halves of characters. -/
def step? (mode : Mode) (reader : Reader) (text : List Char) : Option (Progress × List Char) :=
  match reader.part, text with
  | .head, '^' :: rest =>
    if mode.hasCharacters then some (.within { reader with part := .hyphens }, rest) else none
  | .head, text => hyphensStep? mode reader text
  | .hyphens, text => hyphensStep? mode reader text
  | .members, text => membersStep? mode reader text

end Pattern.Class

end EventWire
