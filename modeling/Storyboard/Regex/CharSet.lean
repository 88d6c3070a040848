/-!
# Character sets

A set of characters is a list of ranges of code points. The ranges of a set are canonical:
they ascend, and two neighbours neither overlap nor touch. How a set takes in the other case
of its letters depends on that form, because only one case of a range is looked at.
-/

namespace Storyboard

/-- The code points from a first to a last one. -/
structure CodeRange where
  first : Nat
  last : Nat
  deriving DecidableEq, Repr, Inhabited

namespace CodeRange

/-- Whether a code point lies in the range. -/
def contains (r : CodeRange) (code : Nat) : Bool := r.first ≤ code && code ≤ r.last

/-- The order by first, then by last code point. -/
def before (r s : CodeRange) : Bool :=
  r.first < s.first || (r.first == s.first && r.last ≤ s.last)

/-- The part of a range within bounds, if there is one. -/
def within? (r : CodeRange) (low high : Nat) : Option CodeRange :=
  let part : CodeRange := ⟨max r.first low, min r.last high⟩
  if part.first ≤ part.last then some part else none

/-- The other case of the ASCII letters of a range. A range with small letters gives the
capital forms of those alone; its capital letters count only if it has no small ones. -/
def otherCase (r : CodeRange) : List CodeRange :=
  match r.within? 'a'.toNat 'z'.toNat, r.within? 'A'.toNat 'Z'.toNat with
  | some small, _ => [⟨small.first - 32, small.last - 32⟩]
  | none, some capital => [⟨capital.first + 32, capital.last + 32⟩]
  | none, none => []

end CodeRange

/-- A set of characters. -/
structure CharSet where
  ranges : List CodeRange
  deriving DecidableEq, Repr, Inhabited

namespace CharSet

/-- Whether a character belongs to the set. -/
def contains (s : CharSet) (c : Char) : Bool := s.ranges.any (·.contains c.toNat)

/-- Joins a range with those of an ascending list that it overlaps or touches, and goes on with
the first that stands apart. -/
def joinRanges (r : CodeRange) : List CodeRange → List CodeRange
  | [] => [r]
  | s :: rest =>
      if s.first ≤ r.last + 1 then joinRanges ⟨r.first, max r.last s.last⟩ rest
      else r :: joinRanges s rest

/-- The set of the given ranges, in any order. -/
def ofRanges (rs : List CodeRange) : CharSet :=
  match rs.mergeSort CodeRange.before with
  | [] => ⟨[]⟩
  | r :: rest => ⟨joinRanges r rest⟩

/-- The set of one character. -/
def single (c : Char) : CharSet := ⟨[⟨c.toNat, c.toNat⟩]⟩

/-- The ranges given by their first and last characters. -/
def ofPairs (ps : List (Char × Char)) : CharSet :=
  ofRanges (ps.map fun p => ⟨p.1.toNat, p.2.toNat⟩)

/-- The code points of ascending ranges that belong to none of them, from a given one on. -/
def gaps (start : Nat) : List CodeRange → List CodeRange
  | [] => if start ≤ 0x10ffff then [⟨start, 0x10ffff⟩] else []
  | r :: rest =>
      let after := gaps (r.last + 1) rest
      if start < r.first then ⟨start, r.first - 1⟩ :: after else after

/-- The characters outside the set. -/
def complement (s : CharSet) : CharSet := ⟨gaps 0 s.ranges⟩

/-- The set together with the other case of each of its ranges. -/
def folded (s : CharSet) : CharSet := ofRanges (s.ranges ++ s.ranges.flatMap CodeRange.otherCase)

/-- The set of every character. -/
def any : CharSet := complement ⟨[]⟩

/-- The ASCII digits. -/
def digit : CharSet := ofPairs [('0', '9')]

/-- The ASCII blanks. -/
def space : CharSet := ofPairs [('\t', '\r'), (' ', ' ')]

/-- The characters of words: ASCII letters, digits and the underscore. -/
def word : CharSet := ofPairs [('0', '9'), ('A', 'Z'), ('_', '_'), ('a', 'z')]

/-- The ASCII set of a class name as written between `[:` and `:]`. -/
def ofClassName? (name : String) : Option CharSet :=
  match name with
  | "alnum" => some (ofPairs [('0', '9'), ('A', 'Z'), ('a', 'z')])
  | "alpha" => some (ofPairs [('A', 'Z'), ('a', 'z')])
  | "ascii" => some (ofPairs [('\x00', '\x7f')])
  | "blank" => some (ofPairs [('\t', '\t'), (' ', ' ')])
  | "cntrl" => some (ofPairs [('\x00', '\x1f'), ('\x7f', '\x7f')])
  | "digit" => some digit
  | "graph" => some (ofPairs [('!', '~')])
  | "lower" => some (ofPairs [('a', 'z')])
  | "print" => some (ofPairs [(' ', '~')])
  | "punct" => some (ofPairs [('!', '/'), (':', '@'), ('[', '\x60'), ('\x7b', '~')])
  | "space" => some space
  | "upper" => some (ofPairs [('A', 'Z')])
  | "word" => some word
  | "xdigit" => some (ofPairs [('0', '9'), ('A', 'F'), ('a', 'f')])
  | _ => none

end CharSet

end Storyboard
