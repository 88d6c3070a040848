import Storyboard.Decimal.Shortest
import Storyboard.Grammar.Parse
import Storyboard.Layout.Graph
import Storyboard.Regex.Error
import Storyboard.Script.Lexer
import Storyboard.Script.Options

/-!
# Faults

Everything that can go wrong with a statement, by cause. A cause determines the kind of the
error, its wording, and the place of the line it points at; which line that is comes in only
when the fault is reported.
-/

namespace Storyboard

/-- A coarse classification of faults. -/
inductive ErrorKind where
  /-- A malformed verb, pattern, geometry or text. -/
  | malformed
  /-- A name that stands for nothing. -/
  | reference
  /-- An operand that is missing, superfluous or not allowed. -/
  | argument
  /-- A missing file. -/
  | resource
  /-- A layout that failed. -/
  | externalTool
  deriving DecidableEq, Repr

/-- What a fault points at in its line. -/
inductive Anchoring where
  /-- The whole line. -/
  | line
  /-- The first occurrence of a text. -/
  | token (text : String)
  /-- The first word that differs from a text only in letter case. -/
  | word (text : String)
  /-- A number of bytes at an offset. -/
  | bytes (offset length : Nat)
  deriving DecidableEq, Repr

/-- Why a number of seconds is no duration. -/
inductive DurationError where
  | negative
  | tooBigOrNaN
  deriving DecidableEq, Repr

/-- The wording of a rejected duration. -/
def DurationError.message : DurationError → String
  | negative => "cannot convert float seconds to Duration: value is negative"
  | tooBigOrNaN => "cannot convert float seconds to Duration: value is either too big or NaN"

/-- Everything that can go wrong with a statement. -/
inductive Fault where
  | lexical (e : LexError)
  | mismatch (m : Grammar.Mismatch)
  /-- `--` before any object was referenced. -/
  | noLastName (token : String)
  | badRegex (expression : String) (e : Regex.Error) (token : String)
  | noMatch (expression token : String)
  | unknownName (name : String)
  /-- A position names an object that does not exist. -/
  | noObject (name token : String)
  /-- A position names a link with a missing end. -/
  | noPosition (name token : String)
  | badCoordinate (token : String)
  | missingCoordinate (token : String)
  | badNumber (token : String)
  | badComponent (token : String)
  | badPackedColor (token : String)
  | colorCount (count : Nat)
  | badColor (token : String)
  | undefinedColor (token : String)
  | missing (operand : String)
  | extra (token : String)
  | usage (text : String)
  | namesNothing (token : String)
  | unknownShape (word : String)
  | badOption (e : OptionError) (first : Option String)
  | missingFile (file : String)
  | missingSound (file : String)
  | undefinedEnd (name : String)
  | tooFewSides (sides : Float)
  | badRotation (token : String)
  | badDuration (seconds : Float) (e : DurationError) (token : String)
  | scene (e : SceneError)
  | layout (e : LayoutError)
  deriving DecidableEq, Repr

/-- The kind of a refused scene operation. -/
def SceneError.kind : SceneError → ErrorKind
  | unknownObject _ => .reference
  | attachedMove _ | attachedAnimate _ | attachCycle _ _ | nothingToFit => .argument

/-- The kind of a layout failure. -/
def LayoutError.kind : LayoutError → ErrorKind
  | scene e => e.kind
  | _ => .externalTool

namespace Fault

/-- The kind of a fault. -/
def kind : Fault → ErrorKind
  | lexical _ | mismatch _ | badRegex .. | badCoordinate _ | missingCoordinate _ | badNumber _
  | badComponent _ | badColor _ | unknownShape _ | badRotation _ => .malformed
  | noLastName _ | noMatch .. | unknownName _ | noObject .. | noPosition .. | undefinedColor _
  | namesNothing _ | undefinedEnd _ => .reference
  | badPackedColor _ | colorCount _ | missing _ | extra _ | usage _ | badOption ..
  | tooFewSides _ | badDuration .. => .argument
  | missingFile _ | missingSound _ => .resource
  | scene e => e.kind
  | layout e => e.kind

/-- The wording of a fault. -/
def message : Fault → String
  | lexical e => e.message
  | mismatch m => m.message
  | noLastName _ => "no object has been referenced yet"
  | badRegex expression e _ => "invalid regexp '" ++ expression ++ "': " ++ e.message
  | noMatch expression _ => "non-matching regexp '" ++ expression ++ "'"
  | unknownName name => "invalid name '" ++ name ++ "'"
  | noObject name _ => "object '" ++ name ++ "' not found"
  | noPosition name _ => "object '" ++ name ++ "' has no position"
  | badCoordinate token => "invalid positional parameter '" ++ token ++ "'"
  | missingCoordinate _ => "missing y coordinate"
  | badNumber token => "invalid number '" ++ token ++ "'"
  | badComponent token => "invalid colour component '" ++ token ++ "'"
  | badPackedColor token => "invalid packed colour '" ++ token ++ "'"
  | colorCount count => "palette needs 1, 3 or 4 colour values, got " ++ toString count
  | badColor token => "invalid colour '" ++ token ++ "'"
  | undefinedColor token => "undefined color '" ++ token ++ "'"
  | missing operand => "missing " ++ operand
  | extra token => "unexpected extra argument '" ++ token ++ "'"
  | usage text => "wrong number of arguments, usage: " ++ text
  | namesNothing token => "'" ++ token ++ "' does not name an object"
  | unknownShape word => "unknown object type '" ++ word ++ "'"
  | badOption e _ => e.message
  | missingFile file => "'" ++ file ++ "' not found"
  | missingSound file => "play: '" ++ file ++ "' not found"
  | undefinedEnd name => "undefined object '" ++ name ++ "'"
  | tooFewSides sides => "polygon needs at least 3 sides, got " ++ Decimal.shortest sides
  | badRotation token => "invalid rotation '" ++ token ++ "'"
  | badDuration seconds e _ =>
      "cannot sleep for " ++ Decimal.shortest seconds ++ " seconds: " ++ e.message
  | scene e => e.message
  | layout e => e.message

/-- What a lexical error points at. -/
def lexicalAnchor : LexError → Anchoring
  | .unterminatedQuote column => .bytes (column - 1) 1
  | .unknownVerb word | .ambiguousVerb word _ => .word word

/-- What a refused scene operation points at. -/
def sceneAnchor (e : SceneError) : Anchoring :=
  match e.object? with
  | some name => .token name
  | none => .line

/-- What a fault points at. -/
def anchor : Fault → Anchoring
  | lexical e => lexicalAnchor e
  | mismatch m => .bytes m.offset 1
  | noLastName token | badRegex _ _ token | noMatch _ token | unknownName token
  | noObject _ token | noPosition _ token | badCoordinate token | missingCoordinate token
  | badNumber token | badComponent token | badPackedColor token | badColor token
  | undefinedColor token | extra token | namesNothing token | unknownShape token
  | missingFile token | missingSound token | undefinedEnd token | badRotation token
  | badDuration _ _ token | badOption _ (some token) => .token token
  | colorCount _ | missing _ | usage _ | badOption _ none | tooFewSides _ => .line
  | scene e => sceneAnchor e
  | layout (.scene e) => sceneAnchor e
  | layout _ => .line

end Fault

end Storyboard
