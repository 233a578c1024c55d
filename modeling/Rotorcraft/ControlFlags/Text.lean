import Rotorcraft.ControlFlags
import Rotorcraft.Text.Blank
import Rotorcraft.Text.Hex

/-! # The text of a control word

A word is written as the names of its flags in bit order, followed by the bits that have no name as
one hexadecimal number, all joined by a bar. Reading also takes the parts in any order, repeated,
and with blanks around them.
-/

namespace Rotorcraft.ControlFlags

/-- The parts of the text: names in bit order, then the bits without a name. -/
def parts (flags : ControlFlags) : List String :=
  flags.present.map (·.1) ++
    if flags.unnamed.bits = 0 then []
    else ["0x" ++ Text.hexPadded 1 flags.unnamed.bits.toNat]

/-- The text of a control word; the empty word has the empty text. -/
def text (flags : ControlFlags) : String :=
  " | ".intercalate flags.parts

/-- Reads the bits after `0x`: a 16-bit number, which may carry a plus sign. -/
def readBits? (digits : List Char) : Option ControlFlags := do
  let digits := match digits with
    | '+' :: rest => rest
    | _ => digits
  let number ← Text.readHex? digits
  if number < 65536 then some ⟨UInt16.ofNat number⟩ else none

/-- Reads one trimmed part: bits or a name. -/
def readPart? : List Char → Option ControlFlags
  | '0' :: 'x' :: digits => readBits? digits
  | name => (named.find? fun entry => entry.1.toList == name).map (·.2)

/-- Reads a text of bits and names separated by bars; a blank text is the empty word. -/
def ofText? (text : String) : Option ControlFlags :=
  if (Text.trim text.toList).isEmpty then some {}
  else do
    let words ← (Text.splitAt '|' text.toList).mapM fun part => readPart? (Text.trim part)
    pure (words.foldl insert {})

end Rotorcraft.ControlFlags
