import Storyboard.Grammar.Rules
import Storyboard.Script.Statement

/-!
# Statements from the strict grammar

A matched line or script is turned into the statements that its commands spell. The first
node inside a command is its keyword; the others are its arguments, in order, and a quoted
argument stands for the text between its quotes. A line that does not match is answered with
the rules that were expected at the farthest place reached.
-/

namespace Storyboard.Grammar

/-- Why a text does not match: what was expected, and where. -/
structure Mismatch where
  expected : List Rule
  offset : Nat
  deriving DecidableEq, Repr

/-- A list of alternatives in words. -/
def enumerate : List String → String
  | [] => ""
  | [a] => a
  | [a, b] => a ++ " or " ++ b
  | items => ", ".intercalate items.dropLast ++ ", or " ++ items.getLast?.getD ""

/-- The wording of a mismatch. -/
def Mismatch.message (m : Mismatch) : String :=
  if m.expected.isEmpty then "unknown parsing error"
  else "expected " ++ enumerate (m.expected.map Rule.describe)

/-- The failed rules in the order of the grammar, each once. -/
def Attempts.expected (a : Attempts) : List Rule :=
  (a.rules.mergeSort (fun r s => r.rank ≤ s.rank)).eraseReps

/-- Matches a whole text against a grammar expression. -/
def match? (e : Expr) (text : List Char) : Except Mismatch (List Node) :=
  match e.run .spaced (.start text) .none with
  | (_, some (_, nodes)) => .ok nodes
  | (a, none) => .error ⟨a.expected, a.offset⟩

/-- The argument that a node spells. -/
def Node.argument (n : Node) : String :=
  match n.rule, n.children with
  | .string, inner :: _ => String.ofList inner.text
  | _, _ => String.ofList n.text

/-- The statement that a node spells, if it is a command. -/
def Node.statement? (lineOf : Node → Nat) (n : Node) : Option Statement :=
  match n.rule with
  | .command v => some ⟨v, (n.children.drop 1).map Node.argument, lineOf n⟩
  | _ => none

/-- The statements inside a list of nodes. -/
def statementsOf (lineOf : Node → Nat) (nodes : List Node) : List Statement :=
  (nodes.flatMap Node.children).filterMap (Node.statement? lineOf)

/-- The statements of a line with a given number. -/
def parseLine (number : Nat) (text : List Char) : Except Mismatch (List Statement) :=
  (match? line text).map (statementsOf fun _ => number)

/-- The statements of a script, with their line numbers. -/
def parseScript (text : List Char) : Except Mismatch (List Statement) :=
  (match? script text).map (statementsOf fun n => n.lineFeeds + 1)

end Storyboard.Grammar
