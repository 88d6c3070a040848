/-!
# Bytes as characters

The line editor works on characters, while its input and its scripts can hold bytes that belong
to none. Such a byte is kept as a character of its own from the end of the last plane, which is
set aside for private use, so that any bytes can be read as characters and written back.
-/

namespace Storyboard.Characters

/-- The number of the stray byte zero. -/
def strayBase : Nat := 0x10ff00

/-- The character that keeps a byte which is no part of a character. -/
def stray (b : UInt8) : Char := Char.ofNat (strayBase + b.toNat)

/-- Whether a character keeps a stray byte. -/
def isStray (c : Char) : Bool := strayBase ≤ c.toNat

/-- The bytes of a character. -/
def bytesOf (c : Char) : List UInt8 :=
  if isStray c then [(c.toNat - strayBase).toUInt8] else (String.ofList [c]).toUTF8.toList

/-- The bytes of characters. -/
def encode (cs : List Char) : List UInt8 := cs.flatMap bytesOf

/-- The character that some bytes encode, if they encode exactly one. -/
def single? (bytes : List UInt8) : Option Char :=
  match (String.fromUTF8? ⟨bytes.toArray⟩).map String.toList with
  | some [c] => some c
  | _ => none

/-- The character at the front of some bytes, and the number of its bytes. -/
def leading? (bytes : List UInt8) : Option (Char × Nat) :=
  [1, 2, 3, 4].findSome? fun n => (single? (bytes.take n)).map fun c => (c, n)

/-- The characters that bytes encode, with stray bytes kept; `skip` bytes have been read. -/
def decodeFrom (skip : Nat) : List UInt8 → List Char
  | [] => []
  | b :: rest =>
      match skip with
      | n + 1 => decodeFrom n rest
      | 0 =>
          match leading? (b :: rest) with
          | some (c, n) => c :: decodeFrom (n - 1) rest
          | none => stray b :: decodeFrom 0 rest

/-- The characters that bytes encode, with stray bytes kept. -/
def decode (bytes : List UInt8) : List Char := decodeFrom 0 bytes

/-- Joins stray bytes that encode characters together. -/
def rejoin (cs : List Char) : List Char := if cs.any isStray then decode (encode cs) else cs

/-- The number of bytes of characters. -/
def length (cs : List Char) : Nat := (cs.flatMap bytesOf).length

end Storyboard.Characters
