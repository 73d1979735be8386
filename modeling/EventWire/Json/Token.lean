import EventWire.Json.Value
import EventWire.Text.Digits

namespace EventWire

/-!
# The tokens of JSON text

A JSON text is a sequence of tokens between which blanks may stand.  Reading a
token takes at least one character, so a text has only finitely many.
-/

namespace Json

/-- A token. -/
inductive Token where
  | openBrace
  | closeBrace
  | openBracket
  | closeBracket
  | colon
  | comma
  /-- A text, which is a name or a value. -/
  | text (value : Option String)
  /-- A value that is no text and has no parts. -/
  | scalar (value : Json)

namespace Token

/-- What a text consists of: characters, and halves of characters that escapes name. -/
inductive Piece where
  | character (value : Char)
  | highHalf (unit : Nat)
  | lowHalf (unit : Nat)

namespace Piece

/-- What an escape of sixteen bits names. -/
def ofUnit (unit : Nat) : Piece :=
  if 0xD800 ≤ unit ∧ unit < 0xDC00 then highHalf unit
  else if 0xDC00 ≤ unit ∧ unit < 0xE000 then lowHalf unit
  else character (Char.ofNat unit)

/-- The characters that pieces make up, unless a half stands alone. -/
def characters? : List Piece → List Char → Option (List Char)
  | [], read => some read.reverse
  | character value :: rest, read => characters? rest (value :: read)
  | highHalf high :: lowHalf low :: rest, read =>
    characters? rest
      (Char.ofNat (0x10000 + (high - 0xD800) * 0x400 + (low - 0xDC00)) :: read)
  | _, _ => none

end Piece

/-- The character that an escape of one letter stands for. -/
def escaped? : Char → Option Char
  | '"' => some '"'
  | '\\' => some '\\'
  | '/' => some '/'
  | 'b' => some '\x08'
  | 'f' => some '\x0c'
  | 'n' => some '\n'
  | 'r' => some '\r'
  | 't' => some '\t'
  | _ => none

/-- Read the rest of a text behind its opening quote, given the pieces read so far in reverse. -/
def textPieces? : List Char → List Piece → Option (List Piece × List Char)
  | [], _ => none
  | '"' :: rest, read => some (read.reverse, rest)
  | '\\' :: 'u' :: first :: second :: third :: fourth :: rest, read =>
    match Text.number? 16 [first, second, third, fourth] with
    | some unit => textPieces? rest (.ofUnit unit :: read)
    | none => none
  | '\\' :: letter :: rest, read =>
    match escaped? letter with
    | some character => textPieces? rest (.character character :: read)
    | none => none
  | character :: rest, read =>
    if character < ' ' then none else textPieces? rest (.character character :: read)

/-- Read a text behind its opening quote. -/
def text? (input : List Char) : Option (Token × List Char) := do
  let (pieces, rest) ← textPieces? input []
  return (text ((Piece.characters? pieces []).map String.ofList), rest)

/-- Read the digits in front of a point: no superfluous zero stands in front of others. -/
def whole? : List Char → Option (List Char × List Char)
  | '0' :: rest => some (['0'], rest)
  | input =>
    if input.takeWhile Char.isDigit = [] then none
    else some (input.takeWhile Char.isDigit, input.dropWhile Char.isDigit)

/-- Pass over one or more digits. -/
def passDigits? (input : List Char) : Option (List Char) :=
  if input.takeWhile Char.isDigit = [] then none
  else some (input.dropWhile Char.isDigit)

/-- Pass over a fraction, if there is one. -/
def passFraction? : List Char → Option (List Char)
  | '.' :: rest => passDigits? rest
  | input => some input

/-- Pass over the sign of an exponent, if there is one. -/
def passSign : List Char → List Char
  | '+' :: rest => rest
  | '-' :: rest => rest
  | input => input

/-- Pass over an exponent, if there is one. -/
def passExponent? : List Char → Option (List Char)
  | 'e' :: rest => passDigits? (passSign rest)
  | 'E' :: rest => passDigits? (passSign rest)
  | input => some input

/-- Whether a number goes on behind its whole part. -/
def goesOn : List Char → Bool
  | '.' :: _ => true
  | 'e' :: _ => true
  | 'E' :: _ => true
  | _ => false

/-- Read a number without a sign. -/
def number? (input : List Char) : Option (Json × List Char) := do
  let (digits, behindWhole) ← whole? input
  let behindFraction ← passFraction? behindWhole
  let rest ← passExponent? behindFraction
  return (if goesOn behindWhole then .otherNumber else .natural ((Text.number? 10 digits).getD 0),
    rest)

/-- Read a word or a number. -/
def scalar? : List Char → Option (Json × List Char)
  | 'n' :: 'u' :: 'l' :: 'l' :: rest => some (.null, rest)
  | 't' :: 'r' :: 'u' :: 'e' :: rest => some (.boolean true, rest)
  | 'f' :: 'a' :: 'l' :: 's' :: 'e' :: rest => some (.boolean false, rest)
  | '-' :: rest => (number? rest).map fun (_, behind) => (.otherNumber, behind)
  | input => number? input

/-- Read the token at the front of a text. -/
def next? : List Char → Option (Token × List Char)
  | '\x7b' :: rest => some (openBrace, rest)
  | '\x7d' :: rest => some (closeBrace, rest)
  | '[' :: rest => some (openBracket, rest)
  | ']' :: rest => some (closeBracket, rest)
  | ':' :: rest => some (colon, rest)
  | ',' :: rest => some (comma, rest)
  | '"' :: rest => text? rest
  | input => (scalar? input).map fun (value, rest) => (scalar value, rest)

/-- The characters that may stand between tokens. -/
def isBlank (character : Char) : Bool :=
  character = ' ' || character = '\n' || character = '\t' || character = '\r'

/-- What stands behind the digits at the front of a text is shorter, if there are any. -/
theorem length_dropWhile_isDigit
    {input : List Char}
    (digits : input.takeWhile Char.isDigit ≠ []) :
    (input.dropWhile Char.isDigit).length < input.length := by
  have total := congrArg List.length
    (List.takeWhile_append_dropWhile (p := Char.isDigit) (l := input))
  have positive := List.length_pos_iff.mpr digits
  rw [List.length_append] at total
  omega

/-- Reading the digits in front of a point takes at least one character. -/
theorem length_whole?
    {input digits rest : List Char}
    (read : whole? input = some (digits, rest)) :
    rest.length < input.length := by
  unfold whole? at read
  split at read
  · simp only [Option.some.injEq, Prod.mk.injEq] at read
    simp [← read.2]
  · split at read
    · simp at read
    · next nonempty =>
        simp only [Option.some.injEq, Prod.mk.injEq] at read
        rw [← read.2]
        exact length_dropWhile_isDigit nonempty

/-- Passing over digits takes at least one character. -/
theorem length_passDigits?
    {input rest : List Char}
    (passed : passDigits? input = some rest) :
    rest.length < input.length := by
  unfold passDigits? at passed
  split at passed
  · simp at passed
  · next nonempty =>
      simp only [Option.some.injEq] at passed
      rw [← passed]
      exact length_dropWhile_isDigit nonempty

/-- Passing over a fraction never adds characters. -/
theorem length_passFraction?
    {input rest : List Char}
    (passed : passFraction? input = some rest) :
    rest.length ≤ input.length := by
  unfold passFraction? at passed
  split at passed
  · have shorter := length_passDigits? passed
    simp only [List.length_cons]
    omega
  · simp_all

/-- Passing over a sign never adds characters. -/
theorem length_passSign (input : List Char) : (passSign input).length ≤ input.length := by
  unfold passSign
  split <;> simp

/-- Passing over an exponent never adds characters. -/
theorem length_passExponent?
    {input rest : List Char}
    (passed : passExponent? input = some rest) :
    rest.length ≤ input.length := by
  unfold passExponent? at passed
  split at passed
  · next behind =>
      have shorter := length_passDigits? passed
      have signed := length_passSign behind
      simp only [List.length_cons]
      omega
  · next behind =>
      have shorter := length_passDigits? passed
      have signed := length_passSign behind
      simp only [List.length_cons]
      omega
  · simp_all

/-- Reading a number takes at least one character. -/
theorem length_number?
    {input rest : List Char}
    {value : Json}
    (read : number? input = some (value, rest)) :
    rest.length < input.length := by
  simp only [number?, Option.bind_eq_bind, Option.bind_eq_some_iff, Option.pure_def,
    Option.some.injEq, Prod.mk.injEq, Prod.exists] at read
  obtain ⟨digits, behindWhole, wholeRead, behindFraction, fraction, behind, exponent, -, rfl⟩ :=
    read
  have := length_whole? wholeRead
  have := length_passFraction? fraction
  have := length_passExponent? exponent
  omega

/-- Reading a word or a number takes at least one character. -/
theorem length_scalar?
    {input rest : List Char}
    {value : Json}
    (read : scalar? input = some (value, rest)) :
    rest.length < input.length := by
  unfold scalar? at read
  split at read
  · simp only [Option.some.injEq, Prod.mk.injEq] at read
    simp [← read.2]
    omega
  · simp only [Option.some.injEq, Prod.mk.injEq] at read
    simp [← read.2]
    omega
  · simp only [Option.some.injEq, Prod.mk.injEq] at read
    simp [← read.2]
    omega
  · obtain ⟨⟨_, behind⟩, numberRead, same⟩ := Option.map_eq_some_iff.mp read
    simp only [Prod.mk.injEq] at same
    have := length_number? numberRead
    simp only [← same.2, List.length_cons]
    omega
  · exact length_number? read

/-- Reading a text takes at least its closing quote. -/
theorem length_textPieces?
    {input rest : List Char}
    {read pieces : List Piece}
    (textRead : textPieces? input read = some (pieces, rest)) :
    rest.length < input.length := by
  fun_induction textPieces? input read with
  | case1 => simp at textRead
  | case2 => simp_all
  | case3 read first second third fourth behind unit number inductionHypothesis =>
      have := inductionHypothesis textRead
      simp only [List.length_cons]
      omega
  | case4 => simp at textRead
  | case5 read letter behind _ character escape inductionHypothesis =>
      have := inductionHypothesis textRead
      simp only [List.length_cons]
      omega
  | case6 => simp at textRead
  | case7 => simp at textRead
  | case8 read character behind _ _ _ _ inductionHypothesis =>
      have := inductionHypothesis textRead
      simp only [List.length_cons]
      omega

/-- Reading a text takes at least its closing quote. -/
theorem length_text?
    {input rest : List Char}
    {token : Token}
    (read : text? input = some (token, rest)) :
    rest.length < input.length := by
  simp only [text?, Option.bind_eq_bind, Option.bind_eq_some_iff, Option.pure_def,
    Option.some.injEq, Prod.mk.injEq, Prod.exists] at read
  obtain ⟨pieces, behind, textRead, -, rfl⟩ := read
  exact length_textPieces? textRead

/-- Reading a token takes at least one character. -/
theorem length_next?
    {input rest : List Char}
    {token : Token}
    (read : next? input = some (token, rest)) :
    rest.length < input.length := by
  unfold next? at read
  split at read
  case h_7 =>
    have := length_text? read
    simp only [List.length_cons]
    omega
  case h_8 =>
    obtain ⟨⟨value, behind⟩, scalarRead, same⟩ := Option.map_eq_some_iff.mp read
    simp only [Prod.mk.injEq] at same
    rw [← same.2]
    exact length_scalar? scalarRead
  all_goals
    simp only [Option.some.injEq, Prod.mk.injEq] at read
    simp [← read.2]

/-- Read all tokens of a text, given the tokens read so far in reverse. -/
def readAll? (input : List Char) (tokens : List Token) : Option (List Token) :=
  match input with
  | [] => some tokens.reverse
  | character :: rest =>
    if isBlank character then readAll? rest tokens
    else
      match _read : next? (character :: rest) with
      | none => none
      | some (token, behind) => readAll? behind (token :: tokens)
termination_by input.length
decreasing_by
  · simp
  · exact length_next? _read

/-- All tokens of a text, unless something in it is no token. -/
def all? (input : List Char) : Option (List Token) :=
  readAll? input []

end Token

end Json

end EventWire
