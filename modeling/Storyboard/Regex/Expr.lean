import Storyboard.Regex.CharSet

/-!
# Regular expressions

The expressions that select objects by name. An expression is built from characters, sets of
characters, conditions on the place between two characters, capturing groups, sequences,
alternatives and repetitions.

A sequence or a choice of one part is that part, and a sequence of none is the empty
expression; `Regex.ofParts` and `Regex.ofAlternatives` see to that, so that the nesting of an
expression counts no needless level.
-/

namespace Storyboard

/-- A condition on the place between two characters. -/
inductive Anchor where
  | textStart
  | textEnd
  | lineStart
  | lineEnd
  /-- Like `lineStart`, where a carriage return and line feed also separate lines. -/
  | lineStartCrlf
  | lineEndCrlf
  | wordBoundary
  | notWordBoundary
  | wordStart
  | wordEnd
  | wordStartHalf
  | wordEndHalf
  deriving DecidableEq, Repr

/-- A regular expression. -/
inductive Regex where
  | empty
  | char (c : Char)
  | set (s : CharSet)
  | anchor (a : Anchor)
  /-- A capturing group, numbered from one in the order of the opening parentheses. -/
  | group (index : Nat) (name : Option String) (content : Regex)
  | sequence (parts : List Regex)
  | choice (alternatives : List Regex)
  /-- At least `least` and, if there is a limit, at most `most` copies. -/
  | repetition (least : Nat) (most : Option Nat) (sub : Regex)
  deriving Repr, Inhabited

namespace Regex

/-- The parts one after the other. -/
def ofParts : List Regex → Regex
  | [] => empty
  | [r] => r
  | rs => sequence rs

/-- Any one of the alternatives. -/
def ofAlternatives : List Regex → Regex
  | [r] => r
  | rs => choice rs

/-- The repetition of an expression. No copies are the empty expression, and exactly one copy
is the expression. -/
def repeated (least : Nat) (most : Option Nat) (sub : Regex) : Regex :=
  if least = 0 ∧ most = some 0 then empty
  else if least = 1 ∧ most = some 1 then sub
  else repetition least most sub

mutual

/-- How many levels of groups, sequences, choices and repetitions lie above the deepest part. -/
def depth : Regex → Nat
  | empty => 0
  | char _ => 0
  | set _ => 0
  | anchor _ => 0
  | group _ _ content => content.depth + 1
  | sequence parts => depthOfAll parts + 1
  | choice alternatives => depthOfAll alternatives + 1
  | repetition _ _ sub => sub.depth + 1

/-- The depth of the deepest expression of a list. -/
def depthOfAll : List Regex → Nat
  | [] => 0
  | r :: rest => max r.depth (depthOfAll rest)

end

mutual

/-- Whether the expression is taken to match the empty text; every condition on a place is. -/
def matchesEmpty : Regex → Bool
  | empty => true
  | char _ => false
  | set _ => false
  | anchor _ => true
  | group _ _ content => content.matchesEmpty
  | sequence parts => allMatchEmpty parts
  | choice alternatives => anyMatchesEmpty alternatives
  | repetition least _ sub => least == 0 || sub.matchesEmpty

/-- Whether every expression of a list matches the empty text. -/
def allMatchEmpty : List Regex → Bool
  | [] => true
  | r :: rest => r.matchesEmpty && allMatchEmpty rest

/-- Whether some expression of a list matches the empty text. -/
def anyMatchesEmpty : List Regex → Bool
  | [] => false
  | r :: rest => r.matchesEmpty || anyMatchesEmpty rest

end

end Regex

end Storyboard
