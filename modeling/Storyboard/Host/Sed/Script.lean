import Storyboard.Host.Sed.Notation

/-!
# Editing scripts

A script is a list of commands, each with the lines it applies to. Blocks and jumps name the
place of another command in the list. A refusal is reported with the place of the script that
had been reached.
-/

namespace Storyboard.Sed

/-! ## Commands -/

/-- A line. -/
inductive Address where
  | line (n : Nat)
  /-- A line and every so many lines after it. -/
  | step (first every : Nat)
  | last
  /-- A line with a match; without a pattern that of the last search. -/
  | matching (s : Option Search)
  deriving Repr

/-- Where a range ends. -/
inductive RangeEnd where
  | at (a : Address)
  /-- A number of lines after its start. -/
  | after (lines : Nat)
  /-- The next line whose number is a multiple. -/
  | multiple (of : Nat)
  deriving Repr

/-- The lines that a command applies to. -/
inductive Selection where
  | every
  | one (a : Address)
  | range (start : Address) (finish : RangeEnd)
  deriving Repr

/-- How letter case is changed in a piece of a replacement. -/
inductive CaseChange where
  | keep
  | upper
  | lower
  deriving DecidableEq, Repr

/-- How the case of a piece of a replacement is changed: of all of it, and of its first
character. -/
structure CaseStyle where
  all : CaseChange := .keep
  first : CaseChange := .keep
  deriving DecidableEq, Repr

/-- A piece of a replacement: a text, then perhaps that of a group, of which zero is the whole
match. -/
structure ReplacementPiece where
  text : List Char
  group : Option Nat
  style : CaseStyle
  deriving DecidableEq, Repr

/-- Where lines are written beside the output. -/
inductive Target where
  | output
  | elsewhere
  /-- The input of the program, which cannot be written to. -/
  | input
  deriving DecidableEq, Repr

/-- What is read beside the input. -/
inductive Source where
  | input
  | nothing
  | unreadable (file reason : String)
  deriving DecidableEq, Repr

/-- A substitution. Without a pattern that of the last search is meant. -/
structure Substitution where
  search : Option Search
  replacement : List ReplacementPiece
  /-- The greatest group that the replacement mentions. -/
  greatest : Nat
  /-- The first match that is replaced. -/
  first : Nat
  /-- Whether later matches are replaced as well. -/
  everywhere : Bool
  print : Bool
  /-- Whether the text is run as a command afterwards. -/
  run : Bool
  target : Option Target
  deriving Repr

/-- When a jump is made. -/
inductive JumpKind where
  | always
  | ifReplaced
  | unlessReplaced
  deriving DecidableEq, Repr

/-- What a command does. -/
inductive Edit where
  /-- The commands up to a place form a block. -/
  | block (finish : Nat)
  /-- The end of a block or a label. -/
  | mark
  | jump (kind : JumpKind) (place : Nat)
  | append (text : List Char)
  | insert (text : List Char)
  | change (text : List Char)
  | substitute (s : Substitution)
  | transliterate (pairs : List (Char × Char))
  | print
  | printFirst
  | delete
  | deleteFirst
  | next
  | join
  | hold
  | holdMore
  | recall
  | recallMore
  | exchange
  | clear
  | number
  | fileName
  | list (width : Option Nat)
  | quit (status : Nat)
  | quitSilently (status : Nat)
  | readFile (s : Source)
  | readLine (s : Source)
  | write (t : Target)
  | writeFirst (t : Target)
  /-- Runs a command; without one, the current text is the command. -/
  | run (command : List Char)
  /-- A command that is accepted and cannot be carried out. -/
  | unsupported (c : Char)
  deriving Repr

/-- A command with the lines it applies to. -/
structure Command where
  selection : Selection
  negated : Bool
  edit : Edit
  deriving Repr

/-! ## Refusals -/

/-- Why a script is refused. -/
inductive ScriptError where
  | unterminated (command : Char)
  | unterminatedAddress
  | badDelimiter
  | unknownCommand (c : Char)
  | unexpected (c : Char)
  | unmatchedBlock
  | addressOnBlockEnd
  | addressOnLabel
  | addressOnComment
  | missingLabel
  | missingText
  | missingFile
  | unknownFlag
  | repeatedFlag (c : Char)
  | repeatedCount
  | zeroCount
  | flagsWithoutPattern
  | repeatedNegation
  | missingCommand
  | extraCharacters
  | twoAddresses
  | unequalLengths
  | repeatedControl
  | badReference (number : Nat)
  | badFirstAddress
  | lineZero
  | newerVersion
  | forbidden
  | noPattern
  | pattern (e : PatternError)
  | missingTarget (label : String)
  | cannotOpen (file reason : String)
  | cannotRead (file reason : String)
  | cannotWrite (bytes : Nat)
  | cannotEdit (file : String)
  | noFiles
  | unsupported (c : Char)
  deriving DecidableEq, Repr

/-- A character in a refusal. Of a character beyond ASCII only the first byte is shown, which is
no text. -/
def shownChar (c : Char) : String :=
  if c.toNat < 128 then String.ofList [c] else "\ufffd"

/-- The wording of a refusal. -/
def ScriptError.message : ScriptError → String
  | unterminated c => "unterminated \x60" ++ shownChar c ++ "' command"
  | unterminatedAddress => "unterminated address regex"
  | badDelimiter => "delimiter character is not a single-byte character"
  | unknownCommand c => "unknown command: \x60" ++ shownChar c ++ "'"
  | unexpected c => "unexpected \x60" ++ shownChar c ++ "'"
  | unmatchedBlock => "unmatched \x60\x7b'"
  | addressOnBlockEnd => "\x60\x7d' doesn't want any addresses"
  | addressOnLabel => ": doesn't want any addresses"
  | addressOnComment => "comments don't accept any addresses"
  | missingLabel => "\x22:\x22 lacks a label"
  | missingText => "expected \\ after \x60a', \x60c' or \x60i'"
  | missingFile => "missing filename in r/R/w/W commands"
  | unknownFlag => "unknown option to \x60s'"
  | repeatedFlag c =>
      "multiple \x60" ++ shownChar c ++ "' options to \x60s' command"
  | repeatedCount => "multiple number options to \x60s' command"
  | zeroCount => "number option to \x60s' command may not be zero"
  | flagsWithoutPattern => "cannot specify modifiers on empty regexp"
  | repeatedNegation => "multiple \x60!'s"
  | missingCommand => "missing command"
  | extraCharacters => "extra characters after command"
  | twoAddresses => "command only uses one address"
  | unequalLengths => "strings for \x60y' command are different lengths"
  | repeatedControl => "recursive escaping after \\c not allowed"
  | badReference n => "invalid reference \\" ++ toString n ++ " on \x60s' command's RHS"
  | badFirstAddress => "invalid usage of +N or ~N as first address"
  | lineZero => "invalid usage of line address 0"
  | newerVersion => "expected newer version of sed"
  | forbidden => "e/r/w commands disabled in sandbox mode"
  | noPattern => "no previous regular expression"
  | pattern e => e.message
  | missingTarget label => "can't find label for jump to \x60" ++ label ++ "'"
  | cannotOpen file reason => "couldn't open file " ++ file ++ ": " ++ reason
  | cannotRead file reason => "read error on " ++ file ++ ": " ++ reason
  | cannotWrite n =>
      "couldn't write " ++ toString n ++ (if n = 1 then " item" else " items")
        ++ " to stdin: Bad file descriptor"
  | cannotEdit file => "couldn't edit " ++ file ++ ": not a regular file"
  | noFiles => "no input files"
  | unsupported c => "INTERNAL ERROR: Bad cmd " ++ shownChar c

/-- Whether a refusal names a place of the script. -/
def ScriptError.hasPlace : ScriptError → Bool
  | pattern .bareClass | missingTarget _ | cannotOpen _ _ | cannotRead _ _ | cannotWrite _
  | cannotEdit _ | noFiles | unsupported _ => false
  | _ => true

/-- A refusal with the text after the place that had been reached. -/
structure Refusal where
  error : ScriptError
  rest : List Char
  deriving DecidableEq, Repr

/-- The text after the first byte of a character. -/
def afterFirstByte (c : Char) (rest : List Char) : List Char :=
  ((Characters.bytesOf c).drop 1).map Characters.stray ++ rest

/-- Why a run fails: a refusal, with the place of the script if it names one. -/
structure Failure where
  place : String
  error : ScriptError
  deriving DecidableEq, Repr

/-- The wording of a failure. -/
def Failure.message (f : Failure) : String :=
  if f.error.hasPlace then f.place ++ ": " ++ f.error.message else f.error.message

/-- The status that a failure ends with. -/
def Failure.status (f : Failure) : Nat := if f.error.hasPlace then 1 else 4

end Storyboard.Sed
