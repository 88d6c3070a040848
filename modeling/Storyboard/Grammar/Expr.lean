import Storyboard.Grammar.Rule

/-!
# Grammar expressions and their matcher

A grammar expression matches a piece of text at a cursor. Choices are ordered and repetitions
take as much as they can; neither is reconsidered later. Between the parts of a sequence and
between repetitions, blanks may stand, unless an atomic rule is being matched.

A rule that matches yields a node with the text it took. Inside an atomic rule no nodes are
made; inside a compound rule nodes are made but no blanks are skipped.

While matching, the rules that failed farthest into the text are remembered, because they
describe best what is missing there. A failing rule replaces the failures of the rules it
tried itself at the same place, unless there was exactly one of them.

Main definitions:

- `Expr.run`: matches an expression; a failure leaves the cursor to the caller, who still has it.
- `Attempts.note`: how a failing rule enters the record.
-/

namespace Storyboard.Grammar

/-! ## Cursors and nodes -/

/-- A place in a text: how many bytes and line feeds lie before it, and the text after it. -/
structure Cursor where
  offset : Nat
  lineFeeds : Nat
  rest : List Char
  deriving DecidableEq, Repr

/-- The front of a text. -/
def Cursor.start (text : List Char) : Cursor := ⟨0, 0, text⟩

/-- The place after one character. -/
def Cursor.advance (c : Cursor) (x : Char) (rest : List Char) : Cursor :=
  ⟨c.offset + x.utf8Size, if x = '\n' then c.lineFeeds + 1 else c.lineFeeds, rest⟩

/-- The text between a place and a later one. -/
def Cursor.upTo (c later : Cursor) : List Char := c.rest.take (c.rest.length - later.rest.length)

/-- A piece of text that a rule matched. -/
inductive Node where
  /-- The rule, the number of line feeds before its text, the text and the nodes inside. -/
  | mk (rule : Rule) (lineFeeds : Nat) (text : List Char) (children : List Node)
  deriving Repr

namespace Node

/-- The rule that matched. -/
def rule : Node → Rule
  | mk r _ _ _ => r

/-- The number of line feeds before the text. -/
def lineFeeds : Node → Nat
  | mk _ n _ _ => n

/-- The text that matched. -/
def text : Node → List Char
  | mk _ _ t _ => t

/-- The nodes inside. -/
def children : Node → List Node
  | mk _ _ _ cs => cs

end Node

/-! ## Failed attempts -/

/-- The farthest place where rules failed, and these rules in the order of their failures. -/
structure Attempts where
  offset : Nat
  rules : List Rule
  deriving DecidableEq, Repr

namespace Attempts

/-- Nothing has failed yet. -/
def none : Attempts := ⟨0, []⟩

/-- The number of failures at a place. -/
def countAt (a : Attempts) (offset : Nat) : Nat :=
  if offset = a.offset then a.rules.length else 0

/-- Enters a rule that failed at a place, given how many failures that place had before the
rule was tried. -/
def note (a : Attempts) (rule : Rule) (offset before : Nat) : Attempts :=
  if a.countAt offset - before = 1 then a
  else if a.offset < offset then ⟨offset, [rule]⟩
  else if offset = a.offset then ⟨offset, a.rules.take before ++ [rule]⟩
  else a

end Attempts

/-! ## Expressions -/

/-- How a rule treats blanks and the rules inside it. -/
inductive Style where
  /-- As the context does. -/
  | inherited
  /-- No blanks, no nodes inside. -/
  | atomic
  /-- No blanks, but nodes inside. -/
  | compound
  deriving DecidableEq, Repr

/-- The context in which an expression is matched. -/
inductive Mode where
  | spaced
  | compound
  | atomic
  deriving DecidableEq, Repr

/-- The context in which a rule stands. -/
def Style.outer (style : Style) (mode : Mode) : Mode :=
  if style = .compound then .compound else mode

/-- The context in which the body of a rule is matched. -/
def Style.inner (style : Style) (mode : Mode) : Mode :=
  if style = .atomic then .atomic else style.outer mode

/-- Classes of single characters. -/
inductive CharClass where
  | any
  | digit
  | hexDigit
  | letter
  | alphanumeric
  deriving DecidableEq, Repr

/-- Whether a character belongs to a class. All classes but the first are ASCII. -/
def CharClass.contains : CharClass → Char → Bool
  | any, _ => true
  | digit, c => c.isDigit
  | hexDigit, c => c.isDigit || ('a' ≤ c && c ≤ 'f') || ('A' ≤ c && c ≤ 'F')
  | letter, c => c.isAlpha
  | alphanumeric, c => c.isAlphanum

/-- A grammar expression. -/
inductive Expr where
  /-- The given text. -/
  | text (t : List Char)
  /-- The given lower-case text in any letter case. -/
  | folded (t : List Char)
  /-- One character of a class. -/
  | one (c : CharClass)
  /-- The end of the text. -/
  | finish
  | seq (a b : Expr)
  | alt (a b : Expr)
  | opt (a : Expr)
  | star (a : Expr)
  /-- Succeeds without taking text where the expression fails. -/
  | absent (a : Expr)
  /-- Succeeds without taking text where the expression succeeds. -/
  | ahead (a : Expr)
  | rule (r : Rule) (style : Style) (body : Expr)
  deriving Repr

namespace Expr

/-- A list of expressions in sequence. -/
def all : List Expr → Expr
  | [] => text []
  | [e] => e
  | e :: rest => seq e (all rest)

/-- The first of a list of expressions that matches. -/
def first : List Expr → Expr
  | [] => absent (text [])
  | [e] => e
  | e :: rest => alt e (first rest)

/-- One or more repetitions. -/
def plus (e : Expr) : Expr := seq e (star e)

/-- A fixed number of repetitions. -/
def times (n : Nat) (e : Expr) : Expr := all (List.replicate n e)

end Expr

/-! ## Matching -/

/-- The outcome of a match: the failures so far, and the place after the matched text with the
nodes in it. -/
abbrev Outcome := Attempts × Option (Cursor × List Node)

/-- Takes a given text, comparing characters after applying a function to those read. -/
def Cursor.take? (fold : Char → Char) : List Char → Cursor → Option Cursor
  | [], c => some c
  | x :: xs, c =>
      match c.rest with
      | y :: rest => if fold y = x then take? fold xs (c.advance y rest) else none
      | [] => none

/-- Skips spaces and tabs. -/
def Cursor.skipBlanks (c : Cursor) : Cursor :=
  let blank (x : Char) : Bool := x = ' ' || x = '\t'
  ⟨c.offset + (c.rest.takeWhile blank).length, c.lineFeeds, c.rest.dropWhile blank⟩

/-- Skips blanks where the context allows them. -/
def Mode.skip : Mode → Cursor → Cursor
  | .spaced, c => c.skipBlanks
  | _, c => c

/-- Repeats a matcher, skipping blanks before each further copy; `fuel` bounds the number of
copies tried. Each copy takes text, and only the last one tried fails. -/
def repeatMatch (f : Cursor → Attempts → Outcome) (skip : Cursor → Cursor) :
    Nat → Cursor → Attempts → Attempts × Cursor × List Node
  | 0, c, a => (a, c, [])
  | fuel + 1, c, a =>
      match f (skip c) a with
      | (a, none) => (a, c, [])
      | (a, some (c', nodes)) =>
          let (a, last, more) := repeatMatch f skip fuel c' a
          (a, last, nodes ++ more)

/-- Matches an expression at a cursor. -/
def Expr.run : Expr → Mode → Cursor → Attempts → Outcome
  | .text t, _, c, a => (a, (c.take? id t).map fun c' => (c', []))
  | .folded t, _, c, a => (a, (c.take? Char.toLower t).map fun c' => (c', []))
  | .one k, _, c, a =>
      match c.rest with
      | x :: rest => (a, if k.contains x then some (c.advance x rest, []) else none)
      | [] => (a, none)
  | .finish, _, c, a => (a, if c.rest.isEmpty then some (c, []) else none)
  | .seq e₁ e₂, mode, c, a =>
      match e₁.run mode c a with
      | (a, none) => (a, none)
      | (a, some (c₁, nodes₁)) =>
          match e₂.run mode (mode.skip c₁) a with
          | (a, none) => (a, none)
          | (a, some (c₂, nodes₂)) => (a, some (c₂, nodes₁ ++ nodes₂))
  | .alt e₁ e₂, mode, c, a =>
      match e₁.run mode c a with
      | (a, some result) => (a, some result)
      | (a, none) => e₂.run mode c a
  | .opt e, mode, c, a =>
      match e.run mode c a with
      | (a, some result) => (a, some result)
      | (a, none) => (a, some (c, []))
  | .star e, mode, c, a =>
      match e.run mode c a with
      | (a, none) => (a, some (c, []))
      | (a, some (c', nodes)) =>
          let (a, last, more) := repeatMatch (e.run mode) mode.skip (c'.rest.length + 1) c' a
          (a, some (last, nodes ++ more))
  | .absent e, mode, c, a =>
      match e.run mode c a with
      | (_, some _) => (a, none)
      | (_, none) => (a, some (c, []))
  | .ahead e, mode, c, a =>
      match e.run mode c a with
      | (_, some _) => (a, some (c, []))
      | (_, none) => (a, none)
  | .rule r style body, mode, c, a =>
      let before := a.countAt c.offset
      match body.run (style.inner mode) c a with
      | (a, none) => (if style.outer mode = .atomic then a else a.note r c.offset before, none)
      | (a, some (c', nodes)) =>
          if style.outer mode = .atomic then (a, some (c', []))
          else (a, some (c', [.mk r c.lineFeeds (c.upTo c') nodes]))

end Storyboard.Grammar
