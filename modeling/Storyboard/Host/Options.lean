/-!
# Options of a command line

The programs of a host share the way in which options are written. Letters follow a dash and
may be joined; words follow two dashes and may be cut short as long as they stay clear. An
argument stands after an equals sign, in the rest of a group of letters, or in the next word.
What is found is listed in the order of the command line, because a program acts on one option
after the other and stops at the first that is wrong.
-/

namespace Storyboard

/-- Whether an option takes an argument. -/
inductive Parameter where
  | none
  | required
  | optional
  deriving DecidableEq, Repr

/-- The options of a program. -/
structure OptionTable where
  letters : List (Char × Parameter)
  /-- Each word with the letter that it stands for. -/
  words : List (String × Char × Parameter)
  /-- Whether options may follow operands. -/
  mixed : Bool := true

/-- What is wrong with an option. -/
inductive ArgumentError where
  | unknownLetter (letter : Char)
  | letterWithoutArgument (letter : Char)
  | unknownWord (word : String)
  | ambiguousWord (word : String) (candidates : List String)
  | wordWithArgument (word : String)
  | wordWithoutArgument (word : String)
  deriving DecidableEq, Repr

/-- A letter in a message. Of a letter beyond ASCII only the first byte is shown, which is no
text. -/
def ArgumentError.shown (letter : Char) : String :=
  if letter.toNat < 128 then String.ofList [letter] else "\ufffd"

/-- The wording of a wrong option. -/
def ArgumentError.message : ArgumentError → String
  | unknownLetter c => "invalid option -- '" ++ shown c ++ "'"
  | letterWithoutArgument c => "option requires an argument -- '" ++ shown c ++ "'"
  | unknownWord word => "unrecognized option '--" ++ word ++ "'"
  | ambiguousWord word candidates =>
      "option '--" ++ word ++ "' is ambiguous; possibilities:"
        ++ String.join (candidates.map fun c => " '--" ++ c ++ "'")
  | wordWithArgument word => "option '--" ++ word ++ "' doesn't allow an argument"
  | wordWithoutArgument word => "option '--" ++ word ++ "' requires an argument"

/-- An option in a command line, by its letter, or what is wrong with it. -/
abbrev FoundOption := Except ArgumentError (Char × Option String)

namespace OptionTable

/-- The letters that a group of letters holds, and the words after it that are left. -/
def readLetters (t : OptionTable) (next : List String) :
    List Char → List FoundOption × List String
  | [] => ([], next)
  | c :: rest =>
      match t.letters.lookup c with
      | some .required =>
          if rest.isEmpty then
            match next with
            | [] => ([.error (.letterWithoutArgument c)], [])
            | argument :: next => ([.ok (c, some argument)], next)
          else ([.ok (c, some (String.ofList rest))], next)
      | some .optional =>
          ([.ok (c, if rest.isEmpty then Option.none else some (String.ofList rest))], next)
      | some .none =>
          let (found, next) := t.readLetters next rest
          (.ok (c, Option.none) :: found, next)
      | Option.none => ([.error (.unknownLetter c)], next)

/-- The words of the table that a word may be short for. -/
def candidates (t : OptionTable) (word : String) : List (String × Char × Parameter) :=
  match t.words.find? (·.1 = word) with
  | some entry => [entry]
  | Option.none => t.words.filter fun entry => word.toList.isPrefixOf entry.1.toList

/-- What a word after two dashes stands for, and the words after it that are left. -/
def readWord (t : OptionTable) (word : String) (next : List String) :
    FoundOption × List String :=
  let cs := word.toList
  let name := String.ofList (cs.takeWhile (· ≠ '='))
  let argument := match cs.dropWhile (· ≠ '=') with
    | [] => Option.none
    | _ :: rest => some (String.ofList rest)
  match t.candidates name with
  | [] => (.error (.unknownWord word), next)
  | (full, letter, parameter) :: others =>
      if others.any (·.2 ≠ (letter, parameter)) then
        (.error (.ambiguousWord word (full :: others.map Prod.fst)), next)
      else
        match parameter, argument, next with
        | .none, some _, _ => (.error (.wordWithArgument full), next)
        | .required, Option.none, [] => (.error (.wordWithoutArgument full), next)
        | .required, Option.none, argument :: next => (.ok (letter, some argument), next)
        | _, argument, next => (.ok (letter, argument), next)

/-- Reads a command line; `fuel` bounds the number of its words. -/
def readFrom (t : OptionTable) : Nat → List String → List FoundOption × List String
  | 0, words => ([], words)
  | _, [] => ([], [])
  | fuel + 1, word :: rest =>
      match word.toList with
      | ['-', '-'] => ([], rest)
      | '-' :: '-' :: name =>
          let (found, rest) := t.readWord (String.ofList name) rest
          let (more, operands) := t.readFrom fuel rest
          (found :: more, operands)
      | '-' :: c :: letters =>
          let (found, rest) := t.readLetters rest (c :: letters)
          let (more, operands) := t.readFrom fuel rest
          (found ++ more, operands)
      | _ =>
          if t.mixed then
            let (found, operands) := t.readFrom fuel rest
            (found, word :: operands)
          else ([], word :: rest)

/-- The options and the operands of a command line. -/
def read (t : OptionTable) (words : List String) : List FoundOption × List String :=
  t.readFrom (words.length + 1) words

end OptionTable

end Storyboard
