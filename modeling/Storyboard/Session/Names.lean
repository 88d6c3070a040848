import Storyboard.Regex.Match
import Storyboard.Regex.Parser
import Storyboard.Scene.Basic
import Storyboard.Script.Number
import Storyboard.Script.Statement
import Storyboard.Session.Fault

/-!
# Names in arguments

An argument that selects objects is a pattern. A lone minus sign selects nothing, two of them
the object referenced last, an expression between slashes every object whose name it matches,
in order of creation, and any other token the object of that name. Numbers pass as they are,
so that an argument list may mix names with coordinates.

Main definitions:

- `Scene.expandName`, `Scene.expandNames`: the names that one argument, or a list of them,
  stands for.
-/

namespace Storyboard

/-- What an argument may stand for besides the names in use. -/
structure NameMode where
  /-- A name that is not in use stands for itself. -/
  allowCreate : Bool
  /-- An expression may match nothing. -/
  allowNoMatch : Bool
  deriving DecidableEq, Repr

namespace NameMode

/-- Names in use only. -/
def existing : NameMode := ⟨false, false⟩

/-- The name of an object that is going to be created. -/
def create : NameMode := ⟨true, false⟩

/-- Names in use, or none. -/
def noMatch : NameMode := ⟨false, true⟩

end NameMode

namespace Scene

/-- The names that an expression matches, in order of creation. -/
def matchingNames (s : Scene) (r : Regex) : List String :=
  s.liveNames.filter fun name => r.isMatch name.toList

/-- Reads an expression and matches it with the names in use. -/
def expandRegex (s : Scene) (mode : NameMode) (token expression : String) :
    Except Fault (List String) :=
  match Regex.parse expression.toList with
  | .error e => .error (.badRegex expression e token)
  | .ok r =>
      let found := s.matchingNames r
      if found.isEmpty && !mode.allowNoMatch then .error (.noMatch expression token)
      else .ok found

/-- Whether a plain token may stand for itself. -/
def acceptsName (s : Scene) (mode : NameMode) (name : String) : Bool :=
  Number.isNumber name || s.contains name || mode.allowCreate

/-- The names that an argument stands for. -/
def expandName (s : Scene) (mode : NameMode) (token : String) : Except Fault (List String) :=
  match Pattern.ofToken token with
  | .nothing => .ok []
  | .last =>
      match s.lastName with
      | some name => .ok [name]
      | none => .error (.noLastName token)
  | .regex expression => s.expandRegex mode token expression
  | .literal name => if s.acceptsName mode name then .ok [name] else .error (.unknownName name)

/-- The names that a list of arguments stands for, one argument after the other. -/
def expandNames (s : Scene) (mode : NameMode) : List String → Except Fault (List String)
  | [] => .ok []
  | token :: rest => do
      let names ← s.expandName mode token
      let others ← s.expandNames mode rest
      .ok (names ++ others)

/-- The name under which a definition creates its object; none stands for a generated one. -/
def definedName (s : Scene) (token : String) : Except Fault (Option String) :=
  if Pattern.ofToken token = .nothing then .ok none
  else do
    match ← s.expandName .create token with
    | name :: _ => .ok (some name)
    | [] => .error (.namesNothing token)

end Scene

end Storyboard
