import LineCalculator.Text.Hidden

/-!
# Escaped characters

A character that is quoted in output is written in one of four forms: a backslash
and a letter for the null character and the three common control characters, a
backslash and the character itself for a mark that would be misread, a braced
hexadecimal code point for a hidden character, and otherwise the character alone.

Quoting inside a message marks the double quote as well; a listing leaves it plain.
-/

namespace LineCalculator.Text

/-- The two places in which a quoted character is written. -/
inductive Place where
  | listing
  | message
  deriving DecidableEq

/-- The letter that stands for a control character behind a backslash. -/
def escapeLetter? : Char → Option Char
  | '\x00' => some '0'
  | '\t' => some 't'
  | '\n' => some 'n'
  | '\r' => some 'r'
  | _ => none

/-- The characters that a backslash marks in each place. -/
def Place.marked : Place → List Char
  | .listing => ['\\', '\'']
  | .message => ['\\', '\'', '"']

/-- The braced hexadecimal form of a code point, in lower case and without leading zeros. -/
def codePointForm (c : Char) : List Char :=
  ['\\', 'u', '\x7b'] ++ Nat.toDigits 16 c.toNat ++ ['\x7d']

/-- The characters that show `c` where it is quoted. -/
def escape (place : Place) (c : Char) : List Char :=
  match escapeLetter? c with
  | some letter => ['\\', letter]
  | none =>
      if c ∈ place.marked then ['\\', c]
      else if isHidden c then codePointForm c
      else [c]

/-- The character between single quotes, escaped for its place. -/
def quoted (place : Place) (c : Char) : String :=
  String.ofList ('\'' :: escape place c ++ ['\''])

end LineCalculator.Text
