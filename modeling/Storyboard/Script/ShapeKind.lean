/-!
# Shape kinds

The nine primitive kinds that a `define` statement creates. A type word may be abbreviated
like a verb; `line` and `link` have to be written in full.
-/

namespace Storyboard

/-- The primitive kinds of objects. -/
inductive ShapeKind where
  | bitmap
  | box
  | ellipse
  | line
  | link
  | polygon
  | spline
  | text
  | wire
  deriving DecidableEq, Repr

namespace ShapeKind

/-- The full spelling. -/
def name : ShapeKind → String
  | bitmap => "bitmap"
  | box => "box"
  | ellipse => "ellipse"
  | line => "line"
  | link => "link"
  | polygon => "polygon"
  | spline => "spline"
  | text => "text"
  | wire => "wire"

/-- The shortest abbreviation that selects the kind. -/
def shortest : ShapeKind → String
  | bitmap => "bi"
  | box => "bo"
  | ellipse => "e"
  | line => "line"
  | link => "link"
  | polygon => "p"
  | spline => "s"
  | text => "t"
  | wire => "w"

/-- Every kind, in alphabetical order. -/
def all : List ShapeKind := [bitmap, box, ellipse, line, link, polygon, spline, text, wire]

/-- Whether a lower-case word selects the kind. -/
def selectedBy (k : ShapeKind) (word : List Char) : Bool :=
  k.shortest.toList.length ≤ word.length && word.isPrefixOf k.name.toList

/-- The kind that a type word selects, without regard to letter case. -/
def ofWord? (word : List Char) : Option ShapeKind :=
  all.find? (·.selectedBy (word.map Char.toLower))

/-- The option letters that a definition of this kind accepts; a colon marks a letter that
takes a value. -/
def optionTemplate : ShapeKind → String
  | bitmap | link => ""
  | box | ellipse => "f:"
  | line | spline | wire => "ht"
  | polygon => "r:f:"
  | text => "lcr"

end ShapeKind

end Storyboard
