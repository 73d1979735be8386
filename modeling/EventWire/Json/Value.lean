namespace EventWire

/-!
# JSON values

The data model of configuration documents.  A text may contain an escape that
names half of a character; such a text has no value, which matters only when it
is asked for.  Of numbers only the natural ones written with digits alone are
ever asked for, so no other number carries its value.
-/

/-- A JSON value. -/
inductive Json where
  | null
  | boolean (value : Bool)
  | natural (value : Nat)
  /-- A number written with a sign, a fraction or an exponent. -/
  | otherNumber
  /-- A text, or nothing if one of its escapes names half of a character. -/
  | text (value : Option String)
  | array (elements : List Json)
  | object (members : List (Option String × Json))

namespace Json

/-- The truth value that a JSON value is. -/
def boolean? : Json → Option Bool
  | boolean value => some value
  | _ => none

/-- The natural number below a bound that a JSON value is. -/
def natural? (bound : Nat) : Json → Option Nat
  | natural value => if value < bound then some value else none
  | _ => none

/-- The text that a JSON value is. -/
def text? : Json → Option String
  | text value => value
  | _ => none

/--
The choice that a JSON value names, either as a text or as an object whose only
member has the name and is null.
-/
def choice?
    {Choice : Type}
    (choices : List Choice)
    (name : Choice → String) :
    Json → Option Choice
  | text (some chosen) => choices.find? fun choice => name choice = chosen
  | object [(some chosen, null)] => choices.find? fun choice => name choice = chosen
  | _ => none

/-- The value of the member with a name; no name may be without value, nor stand twice. -/
def member? (members : List (Option String × Json)) (name : String) : Option (Option Json) :=
  if members.all fun member => member.1.isSome then
    match members.filter fun member => member.1 = some name with
    | [] => some none
    | [(_, value)] => some (some value)
    | _ => none
  else none

/--
The values of named parts: the members of an object by their names, or the
elements of an array by their order.

Parts may be missing.  Members with other names are passed over, but an array
may not have more elements than there are names.
-/
def parts? (names : List String) : Json → Option (List (Option Json))
  | object members => names.mapM (member? members)
  | array elements =>
    if elements.length ≤ names.length then
      some (elements.map some ++ List.replicate (names.length - elements.length) none)
    else none
  | _ => none

/-- The number of parts that a JSON value has. -/
def width : Json → Nat
  | object members => members.length
  | array elements => elements.length
  | _ => 0

end Json

end EventWire
