import Storyboard.Session.Basic
import Storyboard.Session.Diagnostic
import Storyboard.Text.Lines

/-!
# Runs

A session reads a script line by line. Every statement of a line has its own result; a line
that cannot be read has a single one. Under the policy `abort` nothing is executed after a
failure, and a script ends with it; under the policy `continue` failures are collected.

Main definitions:

- `Session.runLine`: the results of the statements of one line.
- `Session.runScript`: the summary of a script, or its first failure.
-/

namespace Storyboard

/-- What came of one statement. -/
abbrev StatementResult := Except Diagnostic Unit

/-- What came of a script. -/
structure Summary where
  lines : Nat
  /-- The statements that were executed without failure. -/
  statements : Nat
  /-- The failures, under the policy that goes on after them. -/
  errors : List Diagnostic
  deriving DecidableEq, Repr

namespace Summary

/-- Nothing has been run. -/
def empty : Summary := ⟨0, 0, []⟩

instance : Inhabited Summary := ⟨empty⟩

/-- Whether nothing failed. -/
def isClean (s : Summary) : Bool := s.errors.isEmpty

/-- The failures in a list of results. -/
def failures (results : List StatementResult) : List Diagnostic :=
  results.filterMap fun
    | .error d => some d
    | .ok _ => none

/-- Adds the results of a line. -/
def addLine (s : Summary) (results : List StatementResult) : Summary :=
  { lines := s.lines + 1
    statements := s.statements + results.countP (fun r => r matches .ok _)
    errors := s.errors ++ failures results }

end Summary

namespace Session

/-! ## Lines -/

/-- The statements of a line with a given number. -/
def statements (s : Session) (number : Nat) (text : String) : Except Fault (List Statement) :=
  if s.settings.strict then
    match Grammar.parseLine number text.toList with
    | .ok stmts => .ok stmts
    | .error m => .error (.mismatch m)
  else
    match Lexer.statements number text.toList with
    | .ok stmts => .ok stmts
    | .error e => .error (.lexical e)

/-- Executes the statements of a line. -/
def runStatements (limit : Nat) (site : Site) (s : Session) :
    List Statement → Option (Session × List StatementResult)
  | [] => some (s, [])
  | stmt :: rest =>
      match s.execute limit stmt with
      | none => none
      | some (s, none) =>
          (s.runStatements limit site rest).map fun (s, results) => (s, .ok () :: results)
      | some (s, some f) =>
          let failure : StatementResult := .error (site.report f)
          match s.settings.policy with
          | .abort => some (s, [failure])
          | .continue =>
              (s.runStatements limit site rest).map fun (s, results) => (s, failure :: results)

/-- Counts a line. -/
def nextLine (s : Session) : Session := { s with line := s.line + 1 }

/-- Where the statements of the current line stand. -/
def site (s : Session) (text : String) : Site := ⟨s.script, s.line, text⟩

/-- Runs one line. -/
def runLine (limit : Nat) (s : Session) (text : String) :
    Option (Session × List StatementResult) :=
  let s := s.nextLine
  match s.statements s.line text with
  | .error f => some (s, [.error ((s.site text).report f)])
  | .ok stmts => s.runStatements limit (s.site text) stmts

/-! ## Scripts -/

/-- Runs lines one after another, continuing a summary. -/
def runLines (limit : Nat) (s : Session) (summary : Summary) :
    List String → Option (Session × Except Diagnostic Summary)
  | [] => some (s, .ok summary)
  | text :: rest =>
      match s.runLine limit text with
      | none => none
      | some (s, results) =>
          match s.settings.policy, Summary.failures results with
          | .abort, d :: _ => some (s, .error d)
          | _, _ => s.runLines limit (summary.addLine results) rest

/-- Runs a script. -/
def runScript (limit : Nat) (s : Session) (source : String) :
    Option (Session × Except Diagnostic Summary) :=
  s.runLines limit Summary.empty ((Text.lines source.toList).map String.ofList)

end Session

end Storyboard
