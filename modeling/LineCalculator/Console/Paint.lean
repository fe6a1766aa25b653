/-!
# Paint

Text on a terminal is set in bold and in one of three inks.  Without colour the ink
is left out and the text stays bold.
-/

namespace LineCalculator.Console

/-- The inks by the kind of text that they mark. -/
inductive Ink where
  | banner
  | result
  | fault
  deriving DecidableEq

/-- The number of an ink in the terminal's palette: blue, green and red. -/
def Ink.number : Ink → String
  | banner => "12"
  | result => "10"
  | fault => "9"

/-- Text between the sequences that switch its ink and weight on and off. -/
def paint (coloured : Bool) (ink : Ink) (text : String) : String :=
  let foreground := if coloured then "38;5;" ++ ink.number else ""
  "\x1b[" ++ foreground ++ "m\x1b[1m" ++ text ++ "\x1b[0m"

end LineCalculator.Console
