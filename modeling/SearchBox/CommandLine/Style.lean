/-! Styled text on a terminal. -/

namespace SearchBox.CommandLine

/-- How a piece of text looks; the codes are those of terminals, in the order they are written. -/
inductive Style where
  | dimmed
  | red
  | green
  | yellow
  | magenta
  | cyan
  | white
  | boldRed
  | boldGreen
  | boldMagenta
  | boldWhite
  deriving DecidableEq, Repr

def Style.codes : Style → String
  | dimmed => "2"
  | red => "31"
  | green => "32"
  | yellow => "33"
  | magenta => "35"
  | cyan => "36"
  | white => "37"
  | boldRed => "1;31"
  | boldGreen => "1;32"
  | boldMagenta => "1;35"
  | boldWhite => "1;37"

def Style.opening (style : Style) : List Char :=
  '\x1b' :: '[' :: (style.codes.toList ++ ['m'])

/-- The characters that end all styles. -/
def styleReset : List Char :=
  ['\x1b', '[', '0', 'm']

/-- Writes the style again after every reset inside the text. -/
def restyle (opening : List Char) : List Char → List Char
  | '\x1b' :: '[' :: '0' :: 'm' :: text => styleReset ++ opening ++ restyle opening text
  | c :: text => c :: restyle opening text
  | [] => []

/-- Whether output is coloured. -/
abbrev Color := Bool

/-- The text in a style; without colour, the text alone. -/
def paint (color : Color) (style : Style) (text : String) : String :=
  if color then
    String.ofList (style.opening ++ restyle style.opening text.toList ++ styleReset)
  else text

/-- The text with blanks after it up to a width in characters. -/
def padRight (width : Nat) (text : String) : String :=
  text ++ String.ofList (List.replicate (width - text.length) ' ')

end SearchBox.CommandLine
