/-! # Text styles

A style is turned on in front of a text and off behind it. Where the text itself turns all styles
off, the style is turned on again.
-/

namespace Rotorcraft.Terminal

/-- The colours of the report. -/
inductive Color where
  | red
  | green
  | yellow
  | cyan
deriving DecidableEq, Repr

def Color.code : Color → String
  | .red => "31"
  | .green => "32"
  | .yellow => "33"
  | .cyan => "36"

/-- How a text is shown. -/
structure Style where
  bold : Bool := false
  dimmed : Bool := false
  underline : Bool := false
  color : Option Color := none
deriving DecidableEq, Repr

namespace Style

def codes (style : Style) : List String :=
  (if style.bold then ["1"] else []) ++ (if style.dimmed then ["2"] else []) ++
    (if style.underline then ["4"] else []) ++ (style.color.map Color.code).toList

/-- The sequence that turns a style on. -/
def opening (style : Style) : List Char :=
  '\x1b' :: '[' :: (";".intercalate style.codes).toList ++ ['m']

/-- The sequence that turns all styles off. -/
def closing : List Char :=
  ['\x1b', '[', '0', 'm']

/-- Repeats an opening behind each closing inside a text. -/
def reopen (opening : List Char) : List Char → List Char
  | '\x1b' :: '[' :: '0' :: 'm' :: rest => closing ++ opening ++ reopen opening rest
  | c :: rest => c :: reopen opening rest
  | [] => []

/-- Shows a text in a style, if styles are shown at all. -/
def apply (style : Style) (shown : Bool) (text : String) : String :=
  if !shown || style.codes.isEmpty then text
  else String.ofList (style.opening ++ reopen style.opening text.toList ++ closing)

end Style
end Rotorcraft.Terminal
