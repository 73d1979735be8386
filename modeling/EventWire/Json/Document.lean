import EventWire.Json.Token

namespace EventWire

/-!
# JSON documents

A document is the tokens of one value.  The tokens are taken one by one; the
arrays and objects that have been opened and not yet closed are kept in a list,
innermost first, so values may be nested to any depth.
-/

namespace Json

/-- An array or object that is still open, with its finished parts, newest first. -/
inductive Unclosed where
  | array (elements : List Json)
  /-- An object, and the name of the member whose value comes next. -/
  | object (members : List (Option String × Json)) (name : Option String)

/-- What may come next inside the innermost open array or object. -/
inductive Expected where
  | value
  /-- The first element of an array, or its end. -/
  | firstElement
  /-- The first name of an object, or its end. -/
  | firstName
  /-- Another name of an object that has the given members. -/
  | nextName (members : List (Option String × Json))
  /-- The colon behind a name. -/
  | colon (members : List (Option String × Json)) (name : Option String)
  /-- A comma or an end, behind the value that has just been finished. -/
  | continuation (finished : Json)

/-- How far a document has been read. -/
structure Progress where
  unclosed : List Unclosed
  expected : Expected

namespace Progress

/-- Nothing has been read. -/
def initial : Progress where
  unclosed := []
  expected := .value

/-- A value begins. -/
def begin (unclosed : List Unclosed) : Token → Option Progress
  | .scalar value => some ⟨unclosed, .continuation value⟩
  | .text value => some ⟨unclosed, .continuation (.text value)⟩
  | .openBracket => some ⟨unclosed, .firstElement⟩
  | .openBrace => some ⟨unclosed, .firstName⟩
  | _ => none

/-- What follows a finished value. -/
def resume (finished : Json) : List Unclosed → Token → Option Progress
  | .array elements :: rest, .comma => some ⟨.array (finished :: elements) :: rest, .value⟩
  | .array elements :: rest, .closeBracket =>
    some ⟨rest, .continuation (.array (finished :: elements).reverse)⟩
  | .object members name :: rest, .comma => some ⟨rest, .nextName ((name, finished) :: members)⟩
  | .object members name :: rest, .closeBrace =>
    some ⟨rest, .continuation (.object ((name, finished) :: members).reverse)⟩
  | _, _ => none

/-- Take one token. -/
def take (progress : Progress) (token : Token) : Option Progress :=
  match progress.expected, token with
  | .value, _ => begin progress.unclosed token
  | .firstElement, .closeBracket => some ⟨progress.unclosed, .continuation (.array [])⟩
  | .firstElement, _ => begin (.array [] :: progress.unclosed) token
  | .firstName, .closeBrace => some ⟨progress.unclosed, .continuation (.object [])⟩
  | .firstName, .text name => some ⟨progress.unclosed, .colon [] name⟩
  | .nextName members, .text name => some ⟨progress.unclosed, .colon members name⟩
  | .colon members name, .colon => some ⟨.object members name :: progress.unclosed, .value⟩
  | .continuation finished, _ => resume finished progress.unclosed token
  | _, _ => none

/-- The value that has been read, if nothing is open any more. -/
def finished? (progress : Progress) : Option Json :=
  match progress.unclosed, progress.expected with
  | [], .continuation finished => some finished
  | _, _ => none

end Progress

/-- The value that a document writes. -/
def ofText? (document : String) : Option Json := do
  let tokens ← Token.all? document.toList
  let progress ← tokens.foldlM Progress.take Progress.initial
  progress.finished?

end Json

end EventWire
