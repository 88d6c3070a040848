import Storyboard.Scene.Defaults
import Storyboard.Session.Colors
import Storyboard.Session.Positions

/-!
# Operands

The operands of a statement are read from the front of its argument list, one slot after the
other. A slot that has to be filled fails if no argument is left; any other takes its default.
What is left after the last slot is refused. A reader answers with the arguments it has not
consumed also when it fails.
-/

namespace Storyboard

/-- A reader of operands. -/
abbrev Operands := ExceptT Fault (StateM (List String))

namespace Operands

/-- Reads operands from a list of arguments. -/
def read {α : Type} (reader : Operands α) (args : List String) : Except Fault α × List String :=
  (ExceptT.run reader).run args

/-- The next argument, if there is one. -/
def next? : Operands (Option String) := do
  match ← get with
  | [] => return none
  | token :: rest =>
      set rest
      return some token

/-- The next argument, without consuming it. -/
def peek? : Operands (Option String) := do
  return (← get).head?

/-- The next argument, which has to be there; `what` says what it is. -/
def required (what : String) : Operands String := do
  match ← next? with
  | some token => return token
  | none => throw (.missing what)

/-- The number that a token spells. -/
def numberOf (token : String) : Except Fault Float :=
  match Number.ofToken? token with
  | some v => .ok v
  | none => .error (.badNumber token)

/-- A number. -/
def number (default : Float) : Operands Float := do
  match ← next? with
  | none => return default
  | some token => numberOf token

/-- Two coordinates, each with a default of its own. -/
def pair (s : Scene) (dx dy : Float) : Operands Point := do
  let x ← number dx
  let y ← number dy
  return s.expandPoint x y

/-- A position: the name of an object, or two coordinates. -/
def position (s : Scene) (dx dy : Float) : Operands Point := do
  match ← peek? with
  | none => return s.expandPoint dx dy
  | some token =>
      if Number.isNumber token then pair s dx dy
      else do
        discard next?
        s.expandReference token

/-- A position that has to be there. -/
def requiredPosition (s : Scene) (what : String) : Operands Point := do
  let first ← required what
  if Number.isNumber first then do
    let second ← required what
    s.expandPosition first (some second)
  else s.expandPosition first none

/-- A colour. -/
def color (p : Palette) (default : String) : Operands ColorSpec := do
  p.parseColor ((← next?).getD default)

/-- A text. -/
def text (default : String) : Operands String := do
  return (← next?).getD default

/-- Refuses what is left. -/
def finish : Operands Unit := do
  match ← peek? with
  | none => return ()
  | some token => throw (.extra token)

/-- Reads all operands of a statement. -/
def readAll {α : Type} (reader : Operands α) (args : List String) : Except Fault α :=
  (read (do let a ← reader; finish; return a) args).1

end Operands

end Storyboard
