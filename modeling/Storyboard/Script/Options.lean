import Storyboard.Table

/-!
# Options

Arguments may begin with option tokens: a minus sign followed by letters. A template lists
the accepted letters; a colon after a letter marks it as taking a value. Letters without
value may share a token, and a value is either the rest of the token or the next argument.
A lone minus sign, two of them, or a negative number ends the options.
-/

namespace Storyboard

/-- What was given for an option letter. -/
inductive OptionValue where
  | present
  | value (text : String)
  deriving DecidableEq, Repr

/-- The options read from an argument list, by letter; a repeated letter keeps its last value. -/
abbrev Options := Table Char OptionValue

/-- Why options cannot be read. -/
inductive OptionError where
  | unknown (flag : Char)
  | missingValue (flag : Char)
  deriving DecidableEq, Repr

/-- The wording of an option error. -/
def OptionError.message : OptionError → String
  | unknown flag => "unrecognized option '-" ++ String.ofList [flag] ++ "'"
  | missingValue flag => "option '-" ++ String.ofList [flag] ++ "' requires a value"

/-- The letter that an option error is about. -/
def OptionError.flag : OptionError → Char
  | unknown flag => flag
  | missingValue flag => flag

namespace Options

/-- Whether a letter was given. -/
def has (o : Options) (flag : Char) : Bool := o.contains flag

/-- The value given with a letter. -/
def value? (o : Options) (flag : Char) : Option String :=
  match o.get? flag with
  | some (.value text) => some text
  | _ => none

/-- How a template uses a letter. -/
inductive Usage where
  | bare
  | valued
  deriving DecidableEq, Repr

/-- The use of a letter in a template. -/
def usage? (flag : Char) : List Char → Option Usage
  | [] => none
  | c :: ':' :: rest => if c = flag then some .valued else usage? flag rest
  | c :: rest => if c = flag then some .bare else usage? flag rest

/-- The letters of an option token, or nothing for any other token. -/
def body? (token : String) : Option (List Char) :=
  match token.toList with
  | '-' :: c :: rest => if c.isAlpha then some (c :: rest) else none
  | _ => none

/-- Reads the letters of one token. The answer tells whether the last letter still waits for
its value. -/
def readBundle (template : List Char) (o : Options) :
    List Char → Except OptionError (Options × Option Char)
  | [] => .ok (o, none)
  | flag :: rest =>
      match usage? flag template with
      | some .bare => readBundle template (o.insert flag .present) rest
      | some .valued =>
          if rest.isEmpty then .ok (o, some flag)
          else .ok (o.insert flag (.value (String.ofList rest)), none)
      | none => .error (.unknown flag)

/-- Reads option tokens from the front of an argument list, with a letter that may be waiting
for its value. -/
def readFrom (template : List Char) (o : Options) :
    Option Char → List String → Except OptionError (Options × List String)
  | some flag, [] => .error (.missingValue flag)
  | some flag, value :: rest => readFrom template (o.insert flag (.value value)) none rest
  | none, [] => .ok (o, [])
  | none, token :: rest =>
      match body? token with
      | none => .ok (o, token :: rest)
      | some body =>
          match readBundle template o body with
          | .error e => .error e
          | .ok (o', waiting) => readFrom template o' waiting rest

/-- The options at the front of an argument list, and the arguments after them. -/
def read (template : String) (args : List String) : Except OptionError (Options × List String) :=
  readFrom template.toList Table.empty none args

end Options

end Storyboard
