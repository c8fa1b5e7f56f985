/-!
UTF-8: texts from bytes.

A sequence is read by its first byte, which says how many bytes follow and narrows down the next
one, so that there are no overlong forms, no surrogates and nothing beyond the last code point.
The first sequence that cannot be read is reported with its place: how many of its bytes were
wrong, or that the bytes ended inside it.
-/

namespace BlueprintBridge.Text

set_option autoImplicit false

/-- The first sequence of some bytes that is no character. -/
structure Utf8Error where
  /-- How many bytes before it are well formed. -/
  validUpTo : Nat
  /-- How many bytes it takes up; none if the bytes end inside it. -/
  errorLength : Option Nat
deriving DecidableEq, Repr

def Utf8Error.message (e : Utf8Error) : String :=
  match e.errorLength with
  | some length => s!"invalid utf-8 sequence of {length} bytes from index {e.validUpTo}"
  | none => s!"incomplete utf-8 byte sequence from index {e.validUpTo}"

def isContinuation (b : UInt8) : Bool := 0x80 ≤ b && b ≤ 0xbf

/-- How many bytes follow a first byte, and the bounds of the next one; none for a byte that
starts no sequence of several bytes. -/
def sequenceAfter (first : UInt8) : Option (Nat × UInt8 × UInt8) :=
  if 0xc2 ≤ first && first ≤ 0xdf then some (1, 0x80, 0xbf)
  else if first = 0xe0 then some (2, 0xa0, 0xbf)
  else if first = 0xed then some (2, 0x80, 0x9f)
  else if 0xe1 ≤ first && first ≤ 0xef then some (2, 0x80, 0xbf)
  else if first = 0xf0 then some (3, 0x90, 0xbf)
  else if 0xf1 ≤ first && first ≤ 0xf3 then some (3, 0x80, 0xbf)
  else if first = 0xf4 then some (3, 0x80, 0x8f)
  else none

def extend (n : Nat) (b : UInt8) : Nat := n * 64 + b.toNat % 64

/-- The characters of bytes, of which the first is at `index`. -/
def decodeUtf8From (index : Nat) : List UInt8 → Except Utf8Error (List Char)
  | [] => .ok []
  | a :: rest =>
    if a < 0x80 then (decodeUtf8From (index + 1) rest).map (Char.ofNat a.toNat :: ·)
    else
      match sequenceAfter a with
      | none => .error ⟨index, some 1⟩
      | some (following, low, high) =>
        match rest with
        | [] => .error ⟨index, none⟩
        | b :: rest =>
          if b < low || high < b then .error ⟨index, some 1⟩
          else if following = 1 then
            (decodeUtf8From (index + 2) rest).map (Char.ofNat (extend (a.toNat % 32) b) :: ·)
          else
            match rest with
            | [] => .error ⟨index, none⟩
            | c :: rest =>
              if !isContinuation c then .error ⟨index, some 2⟩
              else if following = 2 then
                (decodeUtf8From (index + 3) rest).map
                  (Char.ofNat (extend (extend (a.toNat % 16) b) c) :: ·)
              else
                match rest with
                | [] => .error ⟨index, none⟩
                | d :: rest =>
                  if !isContinuation d then .error ⟨index, some 3⟩
                  else
                    (decodeUtf8From (index + 4) rest).map
                      (Char.ofNat (extend (extend (extend (a.toNat % 8) b) c) d) :: ·)

def decodeUtf8 (bytes : List UInt8) : Except Utf8Error String :=
  (decodeUtf8From 0 bytes).map String.ofList

end BlueprintBridge.Text
