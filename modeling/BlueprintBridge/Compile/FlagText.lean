import BlueprintBridge.Compile.Flags
import BlueprintBridge.Text.Blank

/-!
Flag sets as texts: names and numbers joined by bars, with blanks around them ignored.

A number is written to base sixteen behind `0x` and need not have a name. `parse?` accepts every
text that `write` produces.
-/

namespace BlueprintBridge.FlagVocabulary

set_option autoImplicit false

/-- The bits that a number behind `0x` writes: a plus sign may come first, and the number has to
fit a word. -/
def parseNumber? (cs : List Char) : Option UInt32 :=
  let digits := match cs with
    | '+' :: rest => rest
    | cs => cs
  (Text.digits? 16 digits).bind fun n => if n < 4294967296 then some (UInt32.ofNat n) else none

def parsePart? (v : FlagVocabulary) (part : List Char) : Option UInt32 :=
  match part with
  | '0' :: 'x' :: digits => parseNumber? digits
  | name => (v.names.find? fun pair => pair.1.toList = name).map (·.2)

/-- The set that a text writes; a blank text writes the empty one. -/
def parse? (v : FlagVocabulary) (text : String) : Option UInt32 :=
  let cs := text.toList
  if (Text.trim cs).isEmpty then some 0
  else (Text.splitAt '|' cs).foldlM (fun bits part =>
    (v.parsePart? (Text.trim part)).map (bits ||| ·)) 0

end BlueprintBridge.FlagVocabulary

namespace BlueprintBridge

def ObjectFlags.parse? (text : String) : Option ObjectFlags :=
  (ObjectFlags.vocabulary.parse? text).map ObjectFlags.mk

end BlueprintBridge
