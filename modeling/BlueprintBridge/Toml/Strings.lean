import BlueprintBridge.Text.Blank
import BlueprintBridge.Toml.Scan

/-!
Strings: basic ones in double quotes, with escapes, and literal ones in single quotes; either on
one line, or in three quotes over several.
-/

namespace BlueprintBridge.Toml

set_option autoImplicit false

def escaped? : Char → Option Char
  | 'b' => some '\x08'
  | 't' => some '\t'
  | 'n' => some '\n'
  | 'f' => some '\x0c'
  | 'r' => some '\r'
  | '"' => some '"'
  | '\\' => some '\\'
  | _ => none

/-- The character of a number in base sixteen; surrogates and numbers beyond the last code point
are none. -/
def numbered? (digits : List Char) : Option Char :=
  (Text.digits? 16 digits).bind fun n => if n.isValidChar then some (Char.ofNat n) else none

def basicRest : List Char → Option (List Char × List Char)
  | '"' :: rest => some ([], rest)
  | '\\' :: 'u' :: a :: b :: c :: d :: rest => do
    let char ← numbered? [a, b, c, d]
    let (chars, rest) ← basicRest rest
    some (char :: chars, rest)
  | '\\' :: 'U' :: a :: b :: c :: d :: e :: f :: g :: h :: rest => do
    let char ← numbered? [a, b, c, d, e, f, g, h]
    let (chars, rest) ← basicRest rest
    some (char :: chars, rest)
  | '\\' :: letter :: rest => do
    let char ← escaped? letter
    let (chars, rest) ← basicRest rest
    some (char :: chars, rest)
  | c :: rest =>
    if isPlain c && c ≠ '\\' then do
      let (chars, rest) ← basicRest rest
      some (c :: chars, rest)
    else none
  | [] => none

def literalRest : List Char → Option (List Char × List Char)
  | '\'' :: rest => some ([], rest)
  | c :: rest =>
    if isPlain c then do
      let (chars, rest) ← literalRest rest
      some (c :: chars, rest)
    else none
  | [] => none

/-- Where the reading of a basic string over several lines is. -/
inductive Joint where
  /-- In the text. -/
  | none
  /-- Behind a backslash at the end of a line, before the line end. -/
  | opened
  /-- Behind that line end, before the next character that is no blank. -/
  | closed
deriving DecidableEq

/-- The rest of a basic string over several lines. Up to two quotes may stand in it anywhere, also
before the closing ones; a backslash at the end of a line joins the next text to it. -/
def basicLinesRest (joint : Joint) : List Char → Option (List Char × List Char)
  | '\n' :: rest => do
    let next := if joint = .none then .none else .closed
    let (chars, rest) ← basicLinesRest next rest
    some (if joint = .none then '\n' :: chars else chars, rest)
  | '\r' :: '\n' :: rest => do
    let next := if joint = .none then .none else .closed
    let (chars, rest) ← basicLinesRest next rest
    some (if joint = .none then '\n' :: chars else chars, rest)
  | c :: rest =>
    if joint ≠ .none && isBlank c then basicLinesRest joint rest
    else if joint = .opened then none
    else
      match c, rest with
      | '"', '"' :: '"' :: '"' :: '"' :: rest => some (['"', '"'], rest)
      | '"', '"' :: '"' :: '"' :: rest => some (['"'], rest)
      | '"', '"' :: '"' :: rest => some ([], rest)
      | '\\', 'u' :: a :: b :: c :: d :: rest => do
        let char ← numbered? [a, b, c, d]
        let (chars, rest) ← basicLinesRest .none rest
        some (char :: chars, rest)
      | '\\', 'U' :: a :: b :: c :: d :: e :: f :: g :: h :: rest => do
        let char ← numbered? [a, b, c, d, e, f, g, h]
        let (chars, rest) ← basicLinesRest .none rest
        some (char :: chars, rest)
      | '\\', ' ' :: rest => basicLinesRest .opened rest
      | '\\', '\t' :: rest => basicLinesRest .opened rest
      | '\\', '\n' :: rest => basicLinesRest .closed rest
      | '\\', '\r' :: '\n' :: rest => basicLinesRest .closed rest
      | '\\', letter :: rest => do
        let char ← escaped? letter
        let (chars, rest) ← basicLinesRest .none rest
        some (char :: chars, rest)
      | c, rest =>
        if isPlain c && c ≠ '\\' then do
          let (chars, rest) ← basicLinesRest .none rest
          some (c :: chars, rest)
        else none
  | [] => none

def literalLinesRest : List Char → Option (List Char × List Char)
  | '\'' :: '\'' :: '\'' :: '\'' :: '\'' :: rest => some (['\'', '\''], rest)
  | '\'' :: '\'' :: '\'' :: '\'' :: rest => some (['\''], rest)
  | '\'' :: '\'' :: '\'' :: rest => some ([], rest)
  | '\r' :: '\n' :: rest => do
    let (chars, rest) ← literalLinesRest rest
    some ('\n' :: chars, rest)
  | c :: rest =>
    if isPlain c || c = '\n' then do
      let (chars, rest) ← literalLinesRest rest
      some (c :: chars, rest)
    else none
  | [] => none

def lineString : Scan String
  | '"' :: rest => (basicRest rest).map fun (chars, rest) => (String.ofList chars, rest)
  | '\'' :: rest => (literalRest rest).map fun (chars, rest) => (String.ofList chars, rest)
  | _ => none

/-- A line end right behind the opening quotes is no part of the string. -/
def withoutFirstLineEnd : List Char → List Char
  | '\n' :: rest => rest
  | '\r' :: '\n' :: rest => rest
  | cs => cs

def anyString : Scan String
  | '"' :: '"' :: '"' :: rest =>
    (basicLinesRest .none (withoutFirstLineEnd rest)).map fun (chars, rest) =>
      (String.ofList chars, rest)
  | '\'' :: '\'' :: '\'' :: rest =>
    (literalLinesRest (withoutFirstLineEnd rest)).map fun (chars, rest) =>
      (String.ofList chars, rest)
  | cs => lineString cs

end BlueprintBridge.Toml
