import EventWire.Pattern.Mode
import EventWire.Text.Digits

namespace EventWire

/-!
# The atoms of patterns

An atom is a single character or an escape.  Whoever matches patterns matches
text, character by character, and has no tables of Unicode; so atoms that need
such a table, or that could match half a character, do not fit their mode.
-/

namespace Pattern

/-- A part of a pattern without parts of its own. -/
inductive Atom where
  /-- A character, perhaps written as an octet in two hexadecimal digits. -/
  | literal (character : Char) (isOctet : Bool)
  /-- Every character but the end of a line. -/
  | anything
  /-- The start or the end of a line or of the text. -/
  | edge
  /-- A place where a word starts or ends, or one where none does. -/
  | wordEdge
  /-- All digits, all blanks or all characters of words; or all others. -/
  | sort (isNegated : Bool)

namespace Atom

/-- Whether an atom outside of classes fits its mode. -/
def fits (mode : Mode) : Atom → Bool
  | literal character isOctet =>
    if mode.hasCharacters then !mode.ignoresCase
    else !(isOctet && 128 ≤ character.toNat)
  | anything => mode.hasCharacters
  | edge => true
  | wordEdge => !mode.hasCharacters
  | sort isNegated => !mode.hasCharacters && !isNegated

/-- Whether an atom may belong to a class in its mode. -/
def fitsClass (mode : Mode) : Atom → Bool
  | literal character _ =>
    if mode.hasCharacters then !mode.ignoresCase else character.toNat < 128
  | sort isNegated => !mode.hasCharacters && !isNegated
  | _ => false

/-- Read so many hexadecimal digits, between which blanks may stand, behind a number. -/
def hexadecimal? (mode : Mode) : Nat → Nat → List Char → Option (Nat × List Char)
  | 0, number, text => some (number, text)
  | count + 1, number, text =>
    match mode.skip text with
    | [] => none
    | digit :: rest =>
      match Text.digitValue? 16 digit with
      | some value => hexadecimal? mode count (16 * number + value) rest
      | none => none

/-- Read the character whose code point so many hexadecimal digits write. -/
def codePoint? (mode : Mode) (count : Nat) (text : List Char) : Option (Atom × List Char) := do
  let (number, rest) ← hexadecimal? mode count 0 text
  if number.isValidChar then return (literal (Char.ofNat number) (count == 2), rest) else none

/-- The control characters that have a letter of their own. -/
def control? : Char → Option Char
  | 'a' => some '\x07'
  | 't' => some '\t'
  | 'n' => some '\n'
  | 'v' => some '\x0b'
  | 'f' => some '\x0c'
  | 'r' => some '\r'
  | _ => none

/-- What a letter or sign stands for behind a backslash. -/
def escaped? (sign : Char) : Option Atom :=
  if ['d', 's', 'w'].contains sign then some (sort false)
  else if ['D', 'S', 'W'].contains sign then some (sort true)
  else if ['A', 'z'].contains sign then some edge
  else if ['b', 'B', '<', '>'].contains sign then some wordEdge
  else if sign.toNat < 128 && !sign.isAlphanum then some (literal sign false)
  else (control? sign).map (literal · false)

/-- Read an escape behind its backslash. -/
def escape? (mode : Mode) : List Char → Option (Atom × List Char)
  | [] => none
  | 'x' :: rest => codePoint? mode 2 rest
  | 'u' :: rest => codePoint? mode 4 rest
  | 'U' :: rest => codePoint? mode 8 rest
  | sign :: rest => (escaped? sign).map (·, rest)

/-- Read an atom outside of classes. -/
def read? (mode : Mode) : List Char → Option (Atom × List Char)
  | [] => none
  | '\\' :: rest => escape? mode rest
  | '.' :: rest => some (anything, rest)
  | '^' :: rest => some (edge, rest)
  | '$' :: rest => some (edge, rest)
  | character :: rest => some (literal character false, rest)

/-- Read an atom in a class, where signs stand for themselves. -/
def readInClass? (mode : Mode) : List Char → Option (Atom × List Char)
  | [] => none
  | '\\' :: rest => escape? mode rest
  | character :: rest => some (literal character false, rest)

end Atom

end Pattern

end EventWire
