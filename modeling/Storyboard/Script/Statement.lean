import Storyboard.Script.Verb

/-!
# Statements and name patterns

A line of a script holds statements; a statement is a verb with its argument tokens, quotes
removed. Arguments that select objects are read as patterns each time they are used.
-/

namespace Storyboard

/-- One command, ready to be executed. -/
structure Statement where
  verb : Verb
  args : List String
  /-- The number of the line that holds the statement, counted from one. -/
  line : Nat
  deriving DecidableEq, Repr

/-- A selector of objects by name. -/
inductive Pattern where
  /-- Written `-`: no object. -/
  | nothing
  /-- Written `--`: the object referenced last. -/
  | last
  /-- Written between slashes: every object whose name the expression matches. -/
  | regex (expression : String)
  /-- Anything else: a name, or a number. -/
  | literal (name : String)
  deriving DecidableEq, Repr

/-- Reads an argument token as a pattern. -/
def Pattern.ofToken (token : String) : Pattern :=
  match token.toList with
  | ['-'] => .nothing
  | ['-', '-'] => .last
  | '/' :: rest =>
      if rest.getLast? = some '/' then .regex (String.ofList rest.dropLast) else .literal token
  | _ => .literal token

end Storyboard
