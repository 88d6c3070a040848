import Storyboard.Host.Path
import Storyboard.Host.Sed.Escapes
import Storyboard.Host.Sed.Script

/-!
# Reading scripts

A script is read command by command, and several scripts make one list of commands: a text that
a script leaves open goes on in the next one, and blocks and labels belong to them all. A block
learns its end when the end is read, and a jump its target when everything has been read.
-/

namespace Storyboard.Sed

/-- How the places of a script are called in refusals, given the text after a place. -/
structure Naming where
  /-- While the script is being read. -/
  now : List Char → String
  /-- After the script has been read. -/
  later : List Char → String

/-- How scripts are read. -/
structure Reading where
  extended : Bool := false
  /-- Whether a line feed ends the lines of the input. -/
  lineFeeds : Bool := true
  /-- Whether commands that reach other files are refused. -/
  sandbox : Bool := false
  strict : Bool := true
  deriving Repr

/-- What has been read. -/
structure Draft where
  commands : Array Command := #[]
  /-- The blocks that are open, each with the place at which a refusal finds it. -/
  blocks : List (Nat × String) := []
  labels : List (String × Nat) := []
  jumps : List (Nat × String) := []
  /-- A command whose text goes on in the next script, with its text so far. -/
  openText : Option (Nat × List Char) := none
  quiet : Bool := false
  deriving Repr

/-- Skips blanks. -/
def skipBlanks (cs : List Char) : List Char := cs.dropWhile fun c => c = ' ' || c = '\t'

/-- A decimal number at the front of a text, or zero. -/
def readDecimal (cs : List Char) : Nat × List Char :=
  ((cs.takeWhile Char.isDigit).foldl (fun n c => n * 10 + (c.toNat - 48)) 0,
    cs.dropWhile Char.isDigit)

/-! ## Delimited texts -/

/-- What a bracket expression is inside of, while its end is looked for. -/
inductive BracketState where
  | outside
  /-- After a bracket that may open a class name or the like. -/
  | afterBracket
  | inside (mark : Char)
  /-- After the mark that may close it. -/
  | afterMark (mark : Char)
  deriving DecidableEq

/-- What a bracket expression is inside of after a further character that does not end it. -/
def BracketState.next (c : Char) : BracketState → BracketState
  | outside => if c = '[' then afterBracket else outside
  | afterBracket =>
      if c = '.' || c = ':' || c = '=' then inside c
      else if c = '[' then afterBracket
      else outside
  | inside mark => if c = mark then afterMark mark else inside mark
  | afterMark mark =>
      if c = ']' then outside else if c = '[' then afterMark mark else inside mark

/-- Whether a closing bracket ends a bracket expression. -/
def BracketState.isOpen : BracketState → Bool
  | outside | afterBracket => true
  | _ => false

/-- The text of a bracket expression up to and with its closing bracket. -/
def bracketTail? (state : BracketState) : List Char → Option (List Char × List Char)
  | [] => none
  | c :: rest =>
      if c = '\n' then none
      else if c = ']' && state.isOpen then some ([c], rest)
      else (bracketTail? (state.next c) rest).map fun (t, rest) => (c :: t, rest)

/-- The text of a bracket expression after its opening bracket, closing bracket included. -/
def bracketText? (cs : List Char) : Option (List Char × List Char) :=
  let (front, cs) := match cs with
    | '^' :: ']' :: rest => (['^', ']'], rest)
    | '^' :: rest => (['^'], rest)
    | ']' :: rest => ([']'], rest)
    | _ => ([], cs)
  (bracketTail? .outside cs).map fun (t, rest) => (front ++ t, rest)

/-- The text up to a delimiter, in which an escaped delimiter stands for itself. In an
expression a delimiter between brackets does not count, and an escaped `n` is a line feed.
`fuel` bounds the length. -/
def upTo? (expression : Bool) (delimiter : Char) :
    Nat → List Char → Option (List Char × List Char)
  | 0, _ => none
  | _, [] => none
  | fuel + 1, '\\' :: c :: rest =>
      if delimiter = '\\' then some ([], c :: rest)
      else
        (upTo? expression delimiter fuel rest).map fun (t, rest) =>
          if c = delimiter then (if !expression && c = '&' then '\\' :: c :: t else c :: t, rest)
          else if expression && c = 'n' then ('\n' :: t, rest)
          else if c = '\n' then (c :: t, rest)
          else ('\\' :: c :: t, rest)
  | fuel + 1, c :: rest =>
      if c = delimiter then some ([], rest)
      else if c = '\n' then none
      else if expression && c = '[' then
        match bracketText? rest with
        | none => none
        | some (inside, rest) =>
            (upTo? expression delimiter fuel rest).map fun (t, rest) => ('[' :: inside ++ t, rest)
      else (upTo? expression delimiter fuel rest).map fun (t, rest) => (c :: t, rest)

/-- Reads a text up to its delimiter, or refuses with the given error at the end of the
script. -/
def readUpTo (expression : Bool) (delimiter : Char) (e : ScriptError) (cs : List Char) :
    Except Refusal (List Char × List Char) :=
  match upTo? expression delimiter (cs.length + 1) cs with
  | some result => .ok result
  | none => .error ⟨e, cs.dropWhile (· ≠ '\n')⟩

/-- Reads a delimiter, which has to be one byte. -/
def readDelimiter (e : ScriptError) : List Char → Except Refusal (Char × List Char)
  | [] => .error ⟨e, []⟩
  | c :: rest =>
      if c = '\n' then .error ⟨e, c :: rest⟩
      else if c.toNat < 128 then .ok (c, rest)
      else .error ⟨.badDelimiter, afterFirstByte c rest⟩

/-! ## Searches -/

/-- An expression as it has been read: what to search for, and whether it has a class name
without its outer brackets. -/
structure ReadSearch where
  /-- Nothing stands for the last search. -/
  search : Option Search
  hasBareClass : Bool := false

/-- Reads an expression that has been cut out of a script; an empty one means the last search. -/
def readSearch (r : Reading) (caseless byLines : Bool) (text rest : List Char) :
    Except Refusal ReadSearch :=
  if text.isEmpty then
    if caseless || byLines then .error ⟨.flagsWithoutPattern, rest⟩ else .ok { search := none }
  else
    match replaceEscapes? .expression text with
    | none => .error ⟨.repeatedControl, rest⟩
    | some text =>
        match Pattern.read ⟨r.extended, caseless, r.strict⟩ text with
        | .error e => .error ⟨.pattern e, rest⟩
        | .ok (p, found) =>
            let mode : Mode := ⟨caseless, byLines, r.lineFeeds⟩
            .ok { search := some ⟨p, found.groups, mode⟩, hasBareClass := found.hasBareClass }

/-- Accepts a search unless it has a class name without its outer brackets. -/
def ReadSearch.accept (s : ReadSearch) (rest : List Char) : Except Refusal (Option Search) :=
  if s.hasBareClass then .error ⟨.pattern .bareClass, rest⟩ else .ok s.search

/-! ## Addresses -/

/-- Reads the flags of an address that is an expression. -/
def readAddressFlags (caseless byLines : Bool) : List Char → Bool × Bool × List Char
  | 'I' :: rest => readAddressFlags true byLines rest
  | 'M' :: rest => readAddressFlags caseless true rest
  | c :: rest =>
      if c = ' ' || c = '\t' then readAddressFlags caseless byLines rest
      else (caseless, byLines, c :: rest)
  | [] => (caseless, byLines, [])

/-- Reads an address that is an expression after its opening delimiter. -/
def readMatching (r : Reading) (delimiter : Char) (cs : List Char) :
    Except Refusal (Address × List Char) := do
  let (text, rest) ← readUpTo true delimiter .unterminatedAddress cs
  let (caseless, byLines, rest) := readAddressFlags false false rest
  let s ← readSearch r caseless byLines text rest
  let s ← s.accept rest
  .ok (.matching s, rest)

/-- Reads an address, if there is one. -/
def readAddress (r : Reading) (cs : List Char) : Except Refusal (Option RangeEnd × List Char) :=
  match cs with
  | '$' :: rest => .ok (some (.at .last), rest)
  | '/' :: rest => (readMatching r '/' rest).map fun (a, rest) => (some (.at a), rest)
  | '\\' :: rest => do
      let (delimiter, rest) ← readDelimiter .unterminatedAddress rest
      let (a, rest) ← readMatching r delimiter rest
      .ok (some (.at a), rest)
  | '+' :: rest =>
      let (n, rest) := readDecimal (skipBlanks rest)
      .ok (some (.after n), rest)
  | '~' :: rest =>
      let (n, rest) := readDecimal (skipBlanks rest)
      .ok (some (.multiple n), rest)
  | c :: _ =>
      if c.isDigit then
        let (n, rest) := readDecimal cs
        match skipBlanks rest with
        | '~' :: rest =>
            let (every, rest) := readDecimal (skipBlanks rest)
            .ok (some (.at (if every = 0 then .line n else .step n every)), rest)
        | rest => .ok (some (.at (.line n)), rest)
      else .ok (none, cs)
  | [] => .ok (none, [])

/-- The text after the next character, or its end. -/
def afterNext (cs : List Char) : List Char :=
  match cs with
  | c :: rest => afterFirstByte c rest
  | [] => []

/-- Whether a selection may name line zero: only as the start of a range that ends with a match,
and before a file that is read. -/
def zeroAllowed (next : Option Char) : Selection → Bool
  | .one (.line 0) => next == some 'r'
  | .range (.line 0) (.at (.matching _)) => true
  | .range (.line 0) _ => false
  | _ => true

/-- The first address of a selection. A number of lines can only follow another address; without
the number, every line is named. -/
def RangeEnd.asFirst? : RangeEnd → Option Address
  | .at a => some a
  | .after n | .multiple n => if n = 0 then some (.step 0 1) else none

/-- Reads the lines that a command applies to. -/
def readSelection (r : Reading) (cs : List Char) : Except Refusal (Selection × List Char) := do
  match ← readAddress r cs with
  | (none, rest) => .ok (.every, rest)
  | (some first, rest) => do
      let some a := first.asFirst? | .error ⟨.badFirstAddress, rest⟩
      let (selection, rest) ← (match skipBlanks rest with
        | ',' :: more => do
            match ← readAddress r (skipBlanks more) with
            | (some finish, rest) => .ok (.range a finish, skipBlanks rest)
            | (none, rest) => .error ⟨.unexpected ',', afterNext rest⟩
        | rest => .ok (.one a, rest))
      if zeroAllowed rest.head? selection then .ok (selection, rest)
      else .error ⟨.lineZero, afterNext rest⟩

/-- Reads the marks that negate a selection. -/
def readNegation (cs : List Char) : Except Refusal (Bool × List Char) :=
  match cs with
  | '!' :: rest =>
      match skipBlanks rest with
      | '!' :: rest => .error ⟨.repeatedNegation, rest⟩
      | rest => .ok (true, rest)
  | rest => .ok (false, rest)

/-! ## Replacements -/

/-- The pieces of a replacement, given the text of the current piece, last character first, and
the style of the current piece and of the pieces after the next. -/
def piecesOf (text : List Char) (style saved : CaseStyle) : List Char → List ReplacementPiece
  | [] => if text.isEmpty then [] else [⟨text.reverse, none, style⟩]
  | '&' :: rest => ⟨text.reverse, some 0, style⟩ :: piecesOf [] saved saved rest
  | '\\' :: c :: rest =>
      let piece (group : Option Nat) : ReplacementPiece := ⟨text.reverse, group, style⟩
      if c.isDigit then piece (some (c.toNat - 48)) :: piecesOf [] saved saved rest
      else
        match c with
        | 'L' => piece none :: piecesOf [] ⟨.lower, .keep⟩ ⟨.lower, .keep⟩ rest
        | 'U' => piece none :: piecesOf [] ⟨.upper, .keep⟩ ⟨.upper, .keep⟩ rest
        | 'E' => piece none :: piecesOf [] {} {} rest
        | 'l' => piece none :: piecesOf [] { saved with first := .lower } saved rest
        | 'u' => piece none :: piecesOf [] { saved with first := .upper } saved rest
        | c => ⟨(c :: text).reverse, none, style⟩ :: piecesOf [] saved saved rest
  | c :: rest => piecesOf (c :: text) style saved rest

/-- The greatest group that a replacement mentions. -/
def greatestGroup (pieces : List ReplacementPiece) : Nat :=
  pieces.foldl (fun n piece => max n (piece.group.getD 0)) 0

/-! ## Files -/

/-- Reads the name of a file, which takes the rest of the line. -/
def readFileName (r : Reading) (cs : List Char) : Except Refusal (String × List Char) :=
  if r.sandbox then .error ⟨.forbidden, cs⟩
  else
    let cs := skipBlanks cs
    let name := cs.takeWhile (· ≠ '\n')
    let rest := (cs.dropWhile (· ≠ '\n')).drop 1
    if name.isEmpty then .error ⟨.missingFile, rest⟩ else .ok (String.ofList name, rest)

/-- Opens a file for writing: one that does not exist is made in its directory, unless its name
ends like that of a directory. -/
def openTarget (file : String) : Except String Target :=
  if file = "/dev/stdout" then .ok .output
  else if file = "/dev/stdin" then .ok .input
  else
    match Path.locate file with
    | .ok place => if place.isDirectory then .error "Is a directory" else .ok .elsewhere
    | .error .notFound =>
        let back := file.toList.reverse
        let name := back.dropWhile (· = '/')
        let directory := (name.dropWhile (· ≠ '/')).reverse
        match Path.locate (if directory.isEmpty then "." else String.ofList directory) with
        | .ok _ =>
            if back.head? == some '/' then .error "Is a directory" else .ok .elsewhere
        | .error e => .error e.message
    | .error e => .error e.message

/-- Reads the name of a file to write to, and opens it. -/
def readTarget (r : Reading) (cs : List Char) : Except Refusal (Target × List Char) := do
  let (file, rest) ← readFileName r cs
  match openTarget file with
  | .ok target => .ok (target, rest)
  | .error reason => .error ⟨.cannotOpen file reason, rest⟩

/-- What a file holds for a command that reads it. -/
def sourceOf (file : String) : Source :=
  match Path.locate file with
  | .ok .inputDevice => .input
  | .ok place => if place.isDirectory then .unreadable file "Is a directory" else .nothing
  | .error _ => .nothing

/-- What a file holds for a command that reads it line by line. -/
def lineSourceOf (file : String) : Source :=
  if file = "/dev/stdout" then .unreadable "stdout" "Bad file descriptor" else sourceOf file

/-! ## Edits -/

/-- The flags of a substitution. -/
structure Flags where
  everywhere : Bool := false
  print : Bool := false
  run : Bool := false
  caseless : Bool := false
  byLines : Bool := false
  count : Option Nat := none
  target : Option Target := none

/-- Reads the flags of a substitution up to the end of the command; `fuel` bounds their
number. -/
def readFlags (r : Reading) (f : Flags) : Nat → List Char → Except Refusal (Flags × List Char)
  | 0, cs => .ok (f, cs)
  | _, [] => .ok (f, [])
  | fuel + 1, c :: rest =>
      match c with
      | ';' | '\n' => .ok (f, rest)
      | '}' | '#' => .ok (f, c :: rest)
      | 'g' =>
          if f.everywhere then .error ⟨.repeatedFlag 'g', rest⟩
          else readFlags r { f with everywhere := true } fuel rest
      | 'p' =>
          if f.print then .error ⟨.repeatedFlag 'p', rest⟩
          else readFlags r { f with print := true } fuel rest
      | 'i' | 'I' => readFlags r { f with caseless := true } fuel rest
      | 'm' | 'M' => readFlags r { f with byLines := true } fuel rest
      | 'e' => readFlags r { f with run := true } fuel rest
      | 'w' => (readTarget r rest).map fun (t, rest) => ({ f with target := some t }, rest)
      | ' ' => readFlags r f fuel rest
      | c =>
          if c.isDigit then
            if f.count.isSome then .error ⟨.repeatedCount, rest⟩
            else
              let (n, rest) := readDecimal (c :: rest)
              if n = 0 then .error ⟨.zeroCount, rest⟩
              else readFlags r { f with count := some n } fuel rest
          else .error ⟨.unknownFlag, afterFirstByte c rest⟩

/-- Reads a substitution after its command letter. -/
def readSubstitution (r : Reading) (cs : List Char) : Except Refusal (Edit × List Char) := do
  let (delimiter, rest) ← readDelimiter (.unterminated 's') cs
  let (text, rest) ← readUpTo true delimiter (.unterminated 's') rest
  let (new, rest) ← readUpTo false delimiter (.unterminated 's') rest
  let some new := replaceEscapes? .replacement new | .error ⟨.repeatedControl, rest⟩
  let pieces := piecesOf [] {} {} new
  let (f, rest) ← readFlags r {} (rest.length + 1) rest
  let s ← readSearch r f.caseless f.byLines text rest
  let greatest := greatestGroup pieces
  if s.search.any (·.groups < greatest) then .error ⟨.badReference greatest, rest⟩
  let s ← s.accept rest
  if f.run && r.sandbox then .error ⟨.forbidden, rest⟩
  .ok (.substitute ⟨s, pieces, greatest, f.count.getD 1, f.everywhere, f.print, f.run, f.target⟩, rest)

/-- Accepts an edit at the end of a command. -/
def atEnd (e : Edit) (cs : List Char) : Except Refusal (Edit × List Char) :=
  match skipBlanks cs with
  | [] => .ok (e, [])
  | c :: rest =>
      if c = ';' || c = '\n' then .ok (e, rest)
      else if c = '}' || c = '#' then .ok (e, c :: rest)
      else .error ⟨.extraCharacters, afterFirstByte c rest⟩

/-- Reads a transliteration after its command letter. -/
def readTransliteration (cs : List Char) : Except Refusal (Edit × List Char) := do
  let e := ScriptError.unterminated 'y'
  let (delimiter, rest) ← readDelimiter e cs
  let (a, rest) ← readUpTo false delimiter e rest
  let some a := replaceEscapes? .plain a | .error ⟨.repeatedControl, rest⟩
  let (b, rest) ← readUpTo false delimiter e rest
  let some b := replaceEscapes? .plain b | .error ⟨.repeatedControl, rest⟩
  let source := dropBackslashes a
  let target := dropBackslashes b
  if source.length ≠ target.length then .error ⟨.unequalLengths, rest⟩
  else atEnd (.transliterate (source.zip target)) rest

/-- Reads a label. -/
def readLabel (cs : List Char) : String × List Char :=
  let isEnd (c : Char) : Bool := c.isWhitespace || c = ';' || c = '#' || c = '\x7d'
  let cs := skipBlanks cs
  (String.ofList (cs.takeWhile (!isEnd ·)), cs.dropWhile (!isEnd ·))

/-- Reads a text, given what has been read of it, up to the end of its line; a text whose last
line ends in a backslash is left open. -/
def readText (text : List Char) : List Char → List Char × Bool × List Char
  | [] => (text ++ ['\n'], false, [])
  | ['\\'] => (text ++ ['\n'], true, [])
  | '\\' :: c :: rest => readText (text ++ ['\\', c]) rest
  | c :: rest => if c = '\n' then (text ++ ['\n'], false, rest) else readText (text ++ [c]) rest

/-- The text that a command adds. While it is open, its escapes stand as they are. -/
def finishText (isOpen : Bool) (text rest : List Char) : Except Refusal (List Char) :=
  if isOpen then .ok text
  else
    match replaceEscapes? .plain text with
    | some text => .ok (dropBackslashes text)
    | none => .error ⟨.repeatedControl, rest⟩

/-- Gives a command its text. -/
def Edit.withText (text : List Char) : Edit → Edit
  | append _ => append text
  | insert _ => insert text
  | change _ => change text
  | e => e

/-- The edits of a letter alone. -/
def plainEdit? : Char → Option Edit
  | '=' => some .number
  | 'd' => some .delete
  | 'D' => some .deleteFirst
  | 'F' => some .fileName
  | 'g' => some .recall
  | 'G' => some .recallMore
  | 'h' => some .hold
  | 'H' => some .holdMore
  | 'n' => some .next
  | 'N' => some .join
  | 'p' => some .print
  | 'P' => some .printFirst
  | 'x' => some .exchange
  | 'z' => some .clear
  | _ => none

/-- Whether a version is later than another: numbers in them count by their values. `fuel` bounds
the length. -/
def isLater : Nat → List Char → List Char → Bool
  | fuel + 1, x :: xs, y :: ys =>
      if x.isDigit && y.isDigit then
        let (m, xs) := readDecimal (x :: xs)
        let (n, ys) := readDecimal (y :: ys)
        if m = n then isLater fuel xs ys else n < m
      else if x = y then isLater fuel xs ys
      else y < x
  | _, xs, [] => !xs.isEmpty
  | _, _, _ => false

/-- The version of this program. -/
def version : String := "4.9"

/-- Whether a version is later than that of this program. -/
def isNewer (other : String) : Bool := isLater other.length other.toList version.toList

/-- Reads a command letter with its operands, if the command stands by itself. -/
def readEdit (r : Reading) (selection : Selection) (c : Char) (rest : List Char) :
    Except Refusal (Edit × List Char) :=
  match plainEdit? c with
  | some e => atEnd e rest
  | none =>
      let status (rest : List Char) : Option Nat × List Char :=
        match skipBlanks rest with
        | d :: more =>
            if d.isDigit then
              let (n, rest) := readDecimal (d :: more)
              (some n, rest)
            else (none, d :: more)
        | [] => (none, [])
      let isRange := match selection with
        | .range _ _ => true
        | _ => false
      match c with
      | 'q' | 'Q' =>
          if isRange then .error ⟨.twoAddresses, rest⟩
          else
            let (n, rest) := status rest
            let n := n.getD 0 % 256
            atEnd (if c = 'q' then .quit n else .quitSilently n) rest
      | 'l' =>
          let (n, rest) := status rest
          atEnd (.list n) rest
      | 'L' =>
          let (_, rest) := status rest
          atEnd (.unsupported 'L') rest
      | 'r' => (readFileName r rest).map fun (file, rest) => (.readFile (sourceOf file), rest)
      | 'R' => (readFileName r rest).map fun (file, rest) => (.readLine (lineSourceOf file), rest)
      | 'w' => (readTarget r rest).map fun (t, rest) => (.write t, rest)
      | 'W' => (readTarget r rest).map fun (t, rest) => (.writeFirst t, rest)
      | 'e' =>
          if r.sandbox then .error ⟨.forbidden, rest⟩
          else
            let rest := skipBlanks rest
            .ok (.run (rest.takeWhile (· ≠ '\n')), (rest.dropWhile (· ≠ '\n')).drop 1)
      | 's' => readSubstitution r rest
      | 'y' => readTransliteration rest
      | c => .error ⟨.unknownCommand c, afterFirstByte c rest⟩

/-! ## Commands -/

/-- Adds a command. -/
def Draft.push (d : Draft) (c : Command) : Draft := { d with commands := d.commands.push c }

/-- Changes the edit of a command. -/
def Draft.adjust (d : Draft) (i : Nat) (f : Edit → Edit) : Draft :=
  { d with commands := d.commands.modify i fun c => { c with edit := f c.edit } }

/-- Adds a command with a text, of which the given part has been read. -/
def Draft.pushText (d : Draft) (c : Command) (text cs : List Char) :
    Except Refusal (Draft × List Char) := do
  let (text, isOpen, rest) := readText text cs
  let finished ← finishText isOpen text rest
  let i := d.commands.size
  let d := d.push { c with edit := c.edit.withText finished }
  .ok (if isOpen then { d with openText := some (i, text) } else d, rest)

/-- Goes on with the text that the last script left open. -/
def Draft.continueText (d : Draft) (cs : List Char) : Except Refusal (Draft × List Char) :=
  match d.openText with
  | none => .ok (d, cs)
  | some (i, text) => do
      let (text, isOpen, rest) := readText text cs
      let finished ← finishText isOpen text rest
      let d := d.adjust i (Edit.withText finished)
      .ok ({ d with openText := if isOpen then some (i, text) else none }, rest)

/-- Reads a command that adds a text, after its letter. A backslash in front of the text sets it
off from the letter, and the first character after it is taken as it is. -/
def Draft.readTextCommand (d : Draft) (c : Command) (cs : List Char) :
    Except Refusal (Draft × List Char) :=
  match skipBlanks cs with
  | [] => .error ⟨.missingText, []⟩
  | ['\\'] => .ok ({ d.push c with openText := some (d.commands.size, []) }, [])
  | '\\' :: x :: rest => d.pushText c (if x = '\n' then [] else [x]) rest
  | rest => d.pushText c [] rest

/-- Ends the innermost block at the end of the list. -/
def Draft.endBlock (d : Draft) (addressed : Bool) (rest : List Char) :
    Except Refusal (Draft × List Char) := do
  match d.blocks with
  | [] => .error ⟨.unexpected '\x7d', rest⟩
  | (start, _) :: outer =>
      if addressed then .error ⟨.addressOnBlockEnd, rest⟩
      let (e, rest) ← atEnd .mark rest
      let place := d.commands.size
      let d := { d with blocks := outer }.adjust start fun _ => .block place
      .ok (d.push ⟨.every, false, e⟩, rest)

/-- Reads a command after its selection; `place` is where a block that it opens is found. -/
def Draft.readCommand (d : Draft) (r : Reading) (place : String) (selection : Selection)
    (negated : Bool) (cs : List Char) : Except Refusal (Draft × List Char) :=
  let addressed := match selection with
    | .every => false
    | _ => true
  let command (e : Edit) : Command := ⟨selection, negated, e⟩
  let jump (kind : JumpKind) (rest : List Char) : Except Refusal (Draft × List Char) :=
    let (label, rest) := readLabel rest
    let d := { d with jumps := (d.commands.size, label) :: d.jumps }
    .ok (d.push (command (.jump kind 0)), rest)
  match cs with
  | [] => .error ⟨.missingCommand, []⟩
  | c :: rest =>
      match c with
      | '#' =>
          if addressed then .error ⟨.addressOnComment, rest⟩
          else .ok (d, rest.dropWhile (· ≠ '\n'))
      | ':' =>
          if addressed then .error ⟨.addressOnLabel, rest⟩
          else
            let (label, rest) := readLabel rest
            if label.isEmpty then .error ⟨.missingLabel, rest⟩
            else
              let d := { d with labels := (label, d.commands.size) :: d.labels }
              .ok (d.push (command .mark), rest)
      | '{' =>
          let d := { d with blocks := (d.commands.size, place) :: d.blocks }
          .ok (d.push (command (.block 0)), rest)
      | '}' => d.endBlock addressed rest
      | 'a' => d.readTextCommand (command (.append [])) rest
      | 'i' => d.readTextCommand (command (.insert [])) rest
      | 'c' => d.readTextCommand (command (.change [])) rest
      | 'b' => jump .always rest
      | 't' => jump .ifReplaced rest
      | 'T' => jump .unlessReplaced rest
      | 'v' =>
          let (needed, rest) := readLabel rest
          if isNewer needed then .error ⟨.newerVersion, rest⟩ else .ok (d, rest)
      | c => do
          let (e, rest) ← readEdit r selection c rest
          .ok (d.push (command e), rest)

/-- Reads the commands of a script; `fuel` bounds their number. -/
def Draft.readCommands (d : Draft) (r : Reading) (naming : Naming) :
    Nat → List Char → Except Refusal Draft
  | 0, _ => .ok d
  | fuel + 1, cs =>
      match cs.dropWhile fun c => c = ';' || c.isWhitespace with
      | [] => .ok d
      | cs => do
          let (selection, rest) ← readSelection r cs
          let (negated, rest) ← readNegation rest
          let (d, rest) ← d.readCommand r (naming.later rest) selection negated rest
          d.readCommands r naming fuel rest

/-- Reads a script into a list of commands. A first script that begins with a certain comment
turns automatic printing off. -/
def Draft.read (d : Draft) (r : Reading) (isFirst : Bool) (naming : Naming)
    (script : List Char) : Except Failure Draft :=
  let quiet := d.quiet || (isFirst && ['#', 'n'].isPrefixOf script)
  let result := do
    let (d, rest) ← { d with quiet := quiet }.continueText script
    d.readCommands r naming (script.length + 1) rest
  result.mapError fun refusal => ⟨naming.now refusal.rest, refusal.error⟩

/-- Gives every jump its target, beginning with the last one: the last label of its name, or the
end of the list. -/
def Draft.resolve (d : Draft) : Except Failure (Array Command) :=
  match d.blocks with
  | (_, place) :: _ => .error ⟨place, .unmatchedBlock⟩
  | [] =>
      d.jumps.foldlM (fun commands (i, label) =>
        let target :=
          if label.isEmpty then some d.commands.size else d.labels.lookup label
        match target with
        | none => .error ⟨"", .missingTarget label⟩
        | some place =>
            .ok (commands.modify i fun c =>
              { c with edit := match c.edit with
                | .jump kind _ => .jump kind place
                | e => e })) d.commands

end Storyboard.Sed
