import EventWire.Text.Plain

namespace EventWire

/-!
# Quoted text

Text is quoted between double quotes.  A quote, a backslash and the common
controls have escapes of two characters; every other character that does not
stand for itself is written by its code point, so what is quoted stays on one
line and can be read off the page.
-/

namespace Text.Quoted

/-- A code point in hexadecimal between braces. -/
def codePointEscape (character : Char) : List Char :=
  "\\u\x7b".toList ++ Nat.toDigits 16 character.toNat ++ "\x7d".toList

/-- How one character is written between the quotes. -/
def escape (character : Char) : List Char :=
  if character = '\x00' then ['\\', '0']
  else if character = '\t' then ['\\', 't']
  else if character = '\r' then ['\\', 'r']
  else if character = '\n' then ['\\', 'n']
  else if character = '\\' then ['\\', '\\']
  else if character = '"' then ['\\', '"']
  else if isPlain character then [character]
  else codePointEscape character

/-- Text between double quotes. -/
def encode (text : String) : String :=
  String.ofList ('"' :: text.toList.flatMap escape ++ ['"'])

end Text.Quoted

end EventWire
