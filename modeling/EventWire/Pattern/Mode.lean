import EventWire.Text.Blank

namespace EventWire

/-!
# Modes of patterns

A pattern is a regular expression.  Flags in a pattern change the mode in which
the rest of the group around them is read.
-/

namespace Pattern

/-- How the parts of a pattern are read. -/
structure Mode where
  /-- Letters stand for themselves in either case. -/
  ignoresCase : Bool
  /-- Classes hold characters; otherwise they hold octets. -/
  hasCharacters : Bool
  /-- Blanks and comments between the parts do not count. -/
  ignoresBlanks : Bool
  deriving DecidableEq

namespace Mode

/-- The mode at the start of a pattern. -/
def initial : Mode where
  ignoresCase := false
  hasCharacters := true
  ignoresBlanks := false

/-- The letters of flags. -/
def flagLetters : List Char := ['i', 'm', 's', 'U', 'u', 'R', 'x']

/-- The mode after a flag has been turned on or off; the flags left out only change what matches. -/
def set (mode : Mode) (flag : Char) (turnedOn : Bool) : Mode :=
  match flag with
  | 'i' => { mode with ignoresCase := turnedOn }
  | 'u' => { mode with hasCharacters := turnedOn }
  | 'x' => { mode with ignoresBlanks := turnedOn }
  | _ => mode

/--
Read flags up to the colon or parenthesis behind them, given those already read
in reverse.

No flag stands twice.  Those behind a hyphen are turned off, and some must
stand there.
-/
def flags? (mode : Mode) (read : List Char) : List Char → Option (Mode × List Char × List Char)
  | [] => none
  | flag :: rest =>
    if flag = ':' ∨ flag = ')' then
      if read.head? = some '-' then none else some (mode, read, flag :: rest)
    else if read.contains flag then none
    else if flag = '-' then flags? mode (flag :: read) rest
    else if flagLetters.contains flag then
      flags? (mode.set flag (!read.contains '-')) (flag :: read) rest
    else none

/-- What follows blanks and comments; a comment runs from its sign to the end of the line. -/
def skipBlanks (inComment : Bool) : List Char → List Char
  | [] => []
  | character :: rest =>
    if inComment then skipBlanks (character != '\n') rest
    else if character = '#' then skipBlanks true rest
    else if Text.isBlank character then skipBlanks false rest
    else character :: rest

/-- What is left to read once everything that does not count has been passed over. -/
def skip (mode : Mode) (text : List Char) : List Char :=
  if mode.ignoresBlanks then skipBlanks false text else text

/--
The next character that seems to count.

Of a comment only the sign and the blanks behind it are passed over here, and
where nothing else is left the first character is the answer.
-/
def peek? (mode : Mode) (text : List Char) : Option Char :=
  if mode.ignoresBlanks then
    let behindBlanks :=
      match text.dropWhile Text.isBlank with
      | '#' :: rest => rest.dropWhile Text.isBlank
      | rest => rest
    behindBlanks.head?.or text.head?
  else text.head?

end Mode

end Pattern

end EventWire
