/-!
# Byte offsets

Columns, spans and lengths that the program reports are counted in bytes of the UTF-8
encoding, while its readers walk lists of characters. This module measures lists of
characters in bytes and finds where one text first occurs in another.
-/

namespace Storyboard.Text

/-- The length of the UTF-8 encoding in bytes. -/
def byteLength : List Char → Nat
  | [] => 0
  | c :: cs => c.utf8Size + byteLength cs

@[simp] theorem byteLength_nil : byteLength [] = 0 := rfl

@[simp] theorem byteLength_cons (c : Char) (cs : List Char) :
    byteLength (c :: cs) = c.utf8Size + byteLength cs := rfl

@[simp] theorem byteLength_append (xs ys : List Char) :
    byteLength (xs ++ ys) = byteLength xs + byteLength ys := by
  induction xs with
  | nil => simp
  | cons c xs ih => simp [ih, Nat.add_assoc]

/-- The byte offset of the first occurrence of a text. -/
def find? (needle : List Char) : List Char → Option Nat
  | [] => if needle.isEmpty then some 0 else none
  | c :: cs =>
      if needle.isPrefixOf (c :: cs) then some 0
      else (find? needle cs).map (c.utf8Size + ·)

/-- Whether a text occurs in another. -/
def occurs (needle hay : List Char) : Bool := (find? needle hay).isSome

end Storyboard.Text
