import Storyboard.Script.ShapeKind
import Storyboard.Script.Verb

/-!
# Grammar rules

The named rules of the strict grammar. A rule has a rank, which is its place in the
grammar, and a description for messages about what a line should have contained.
-/

namespace Storyboard.Grammar

/-- The named rules of the strict grammar. -/
inductive Rule where
  | endOfInput
  | script
  | line
  | commentLine
  | comment
  | command (v : Verb)
  | identifier
  | pattern
  | number
  | reference
  | color
  | string
  | doubleQuoted
  | singleQuoted
  | word
  | fillOption
  | turnOption
  | arrowOption
  | alignOption
  | keyword (v : Verb)
  | shapeWord (k : ShapeKind)
  deriving DecidableEq, Repr

namespace Rule

/-- The place of a rule in the grammar. -/
def rank : Rule → Nat
  | endOfInput => 0
  | script => 1
  | line => 2
  | commentLine => 3
  | comment => 4
  | command v => 5 + Verb.all.idxOf v
  | identifier => 30
  | pattern => 31
  | number => 32
  | reference => 33
  | color => 34
  | string => 35
  | doubleQuoted => 36
  | singleQuoted => 37
  | word => 38
  | fillOption => 39
  | turnOption => 40
  | arrowOption => 41
  | alignOption => 42
  | keyword v => 50 + Verb.all.idxOf v
  | shapeWord k => 80 + ShapeKind.all.idxOf k

/-- What a message calls the text that a rule accepts. -/
def describe : Rule → String
  | endOfInput => "end of line"
  | script => "script"
  | line => "line"
  | commentLine | comment => "comment"
  | command .color => "color_cmd"
  | command .move => "move_cmd"
  | command v => v.name
  | identifier => "name"
  | pattern => "object name or pattern"
  | number => "number"
  | reference => "object reference"
  | color => "colour"
  | string | word => "text"
  | doubleQuoted => "dq_text"
  | singleQuoted => "sq_text"
  | fillOption | turnOption | arrowOption | alignOption => "option"
  | keyword v => "'" ++ v.name ++ "'"
  | shapeWord k => "'" ++ k.name ++ "'"

end Rule

end Storyboard.Grammar
