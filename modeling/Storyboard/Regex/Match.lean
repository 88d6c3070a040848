import Storyboard.Regex.Expr

/-!
# Matching

An expression is matched by marks that walk through it. A text is read once from left to right;
a set is marked if the character just read can be the last one of a partial match that ends
there. Each character moves the marks on to the sets that can take it next, so the work for a
character is bounded by the expression, and neither choices nor nested repetitions are tried
one by one.
-/

namespace Storyboard.Regex

/-- A place in a text: the characters next to it. -/
structure Place where
  before : Option Char
  after : Option Char
  deriving DecidableEq, Repr

/-- Whether a neighbour of a place is a word character. -/
def isWord (c : Option Char) : Bool := c.any CharSet.word.contains

/-- Whether a condition holds at a place. -/
def holds (a : Anchor) (p : Place) : Bool :=
  let wordBefore := isWord p.before
  let wordAfter := isWord p.after
  match a with
  | .textStart => p.before.isNone
  | .textEnd => p.after.isNone
  | .lineStart => p.before.isNone || p.before == some '\n'
  | .lineEnd => p.after.isNone || p.after == some '\n'
  | .lineStartCrlf =>
      p.before.isNone || p.before == some '\n' || (p.before == some '\r' && p.after != some '\n')
  | .lineEndCrlf =>
      p.after.isNone || p.after == some '\r' || (p.after == some '\n' && p.before != some '\r')
  | .wordBoundary => wordBefore != wordAfter
  | .notWordBoundary => wordBefore == wordAfter
  | .wordStart => !wordBefore && wordAfter
  | .wordEnd => wordBefore && !wordAfter
  | .wordStartHalf => !wordBefore
  | .wordEndHalf => !wordAfter

/-! ## Marked expressions -/

/-- An expression whose sets carry marks. Groups leave no trace in it, and repetitions are
written out. -/
inductive Marked where
  | empty
  | set (mark : Bool) (s : CharSet)
  | anchor (a : Anchor)
  | seq (a b : Marked)
  | alt (a b : Marked)
  /-- One copy or more; a loop that can be skipped takes in no copy as well. -/
  | loop (skippable : Bool) (a : Marked)
  deriving Repr, Inhabited

namespace Marked

/-- A number of copies, halved again and again so that they nest little. -/
def copies (r : Marked) (n : Nat) : Marked :=
  if n = 0 then .empty
  else if n = 1 then r
  else
    let half := r.copies (n / 2)
    if n % 2 = 0 then .seq half half else .seq r (.seq half half)
termination_by n

/-- A repetition. Among more copies than a text has places, one that reads nothing can be left
out, so both counts are cut to that number. -/
def repeated (places least : Nat) (most : Option Nat) (r : Marked) : Marked :=
  let required := min least places
  match most with
  | none =>
      if required ≤ 1 then .loop (required = 0) r
      else .seq (r.copies (required - 1)) (.loop false r)
  | some most =>
      .seq (r.copies required) ((Marked.alt r .empty).copies (min (most - least) places))

mutual

/-- The expression without marks, for texts with a number of places. -/
def ofRegex (places : Nat) : Regex → Marked
  | .empty => .empty
  | .char c => .set false (.single c)
  | .set s => .set false s
  | .anchor a => .anchor a
  | .group _ _ content => ofRegex places content
  | .sequence parts => ofParts places parts
  | .choice alternatives => ofAlternatives places alternatives
  | .repetition least most sub => repeated places least most (ofRegex places sub)

/-- The parts one after the other. -/
def ofParts (places : Nat) : List Regex → Marked
  | [] => .empty
  | r :: rest => .seq (ofRegex places r) (ofParts places rest)

/-- Any one of the alternatives. -/
def ofAlternatives (places : Nat) : List Regex → Marked
  | [] => .set false ⟨[]⟩
  | r :: rest => .alt (ofRegex places r) (ofAlternatives places rest)

end

/-- Whether the expression matches the empty text at a place. -/
def matchesNothing (p : Place) : Marked → Bool
  | .empty => true
  | .set _ _ => false
  | .anchor a => holds a p
  | .seq a b => a.matchesNothing p && b.matchesNothing p
  | .alt a b => a.matchesNothing p || b.matchesNothing p
  | .loop skippable a => skippable || a.matchesNothing p

/-- Whether a match that has been followed ends at a place. -/
def ends (p : Place) : Marked → Bool
  | .empty => false
  | .set mark _ => mark
  | .anchor _ => false
  | .seq a b => b.ends p || (a.ends p && b.matchesNothing p)
  | .alt a b => a.ends p || b.ends p
  | .loop _ a => a.ends p

/-- Moves the marks over the character after a place; `start` tells whether a match of the
expression may begin at the place. -/
def advance (p : Place) (c : Char) (start : Bool) : Marked → Marked
  | .empty => .empty
  | .set _ s => .set (start && s.contains c) s
  | .anchor a => .anchor a
  | .seq a b =>
      .seq (a.advance p c start) (b.advance p c ((start && a.matchesNothing p) || a.ends p))
  | .alt a b => .alt (a.advance p c start) (b.advance p c start)
  | .loop skippable a => .loop skippable (a.advance p c (start || a.ends p))

/-- Whether a match ends at or after the place before a text, or begins there or later. -/
def isFoundFrom (before : Option Char) (r : Marked) : List Char → Bool
  | [] =>
      let place : Place := ⟨before, none⟩
      r.matchesNothing place || r.ends place
  | c :: rest =>
      let place : Place := ⟨before, some c⟩
      r.matchesNothing place || r.ends place ||
        (r.advance place c true).isFoundFrom (some c) rest

end Marked

/-- Whether the expression matches somewhere in a text. -/
def isMatch (r : Regex) (text : List Char) : Bool :=
  (Marked.ofRegex (text.length + 1) r).isFoundFrom none text

end Storyboard.Regex
