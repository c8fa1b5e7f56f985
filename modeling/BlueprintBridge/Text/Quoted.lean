import BlueprintBridge.Text.Printable

/-!
Texts in double quotes, as the debugging form of a record shows them.

A quote and a backslash are written after a backslash, the usual control characters by letter,
and every other character that does not print by its number in braces.
-/

namespace BlueprintBridge.Text

set_option autoImplicit false

def hex (n : Nat) : String := String.ofList (Nat.toDigits 16 n)

def hexNumber (n : Nat) : String := "0x" ++ hex n

def quoteChar (c : Char) : String :=
  match c with
  | '\x00' => "\\0"
  | '\t' => "\\t"
  | '\n' => "\\n"
  | '\r' => "\\r"
  | '"' => "\\\""
  | '\\' => "\\\\"
  | c => if isPrintable c then c.toString else "\\u\x7b" ++ hex c.toNat ++ "\x7d"

def quote (s : String) : String :=
  "\"" ++ String.join (s.toList.map quoteChar) ++ "\""

end BlueprintBridge.Text
