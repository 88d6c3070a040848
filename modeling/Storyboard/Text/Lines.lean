/-!
# Lines

A script is run line by line. A line ends at a line feed, which a carriage return may
precede; a last line without line feed counts if it is not empty, and a carriage return
at its end stays part of it.

Main result: `Text.lines_append`: a text that ends in a line feed, or is empty, contributes its
lines to the front, whatever follows it.
-/

namespace Storyboard.Text

/-- Drops the carriage return that a line read backwards starts with. -/
def dropReturn : List Char → List Char
  | '\r' :: rest => rest
  | rest => rest

/-- The lines of a text, of which the current line has been read, last character first. -/
def linesFrom (current : List Char) : List Char → List (List Char)
  | [] => if current.isEmpty then [] else [current.reverse]
  | '\n' :: rest => (dropReturn current).reverse :: linesFrom [] rest
  | c :: rest => linesFrom (c :: current) rest

/-- The lines of a text. -/
def lines (text : List Char) : List (List Char) := linesFrom [] text

@[simp] theorem lines_nil : lines [] = [] := rfl

theorem linesFrom_append (current front rest : List Char) :
    linesFrom current (front ++ '\n' :: rest)
      = linesFrom current (front ++ ['\n']) ++ lines rest := by
  induction front generalizing current with
  | nil => simp [linesFrom, lines]
  | cons c front ih =>
    by_cases hc : c = '\n'
    · subst hc
      simp only [List.cons_append, linesFrom]
      rw [ih []]
    · simp only [List.cons_append, linesFrom]
      rw [ih (c :: current)]

/-- A text that ends in a line feed contributes its lines, whatever follows it. -/
theorem lines_append (front rest : List Char) :
    lines (front ++ '\n' :: rest) = lines (front ++ ['\n']) ++ lines rest :=
  linesFrom_append [] front rest

end Storyboard.Text
