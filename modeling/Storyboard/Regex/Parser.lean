import Storyboard.Regex.Error
import Storyboard.Regex.Size
import Storyboard.Text.Alphanumeric
import Storyboard.Text.Blank

/-!
# Reading regular expressions

An expression is read from left to right with an explicit stack of open groups. Each group
remembers the flags in force where it was opened, and they return when it closes; a flag
directive without a colon changes the flags for the rest of its group. While the `x` flag is
set, blanks and comments between items are skipped.

Depth is limited twice: at most fifty groups may be open inside one another, and the nesting
of the expression read, in which every repetition counts as well, may not exceed fifty. An
expression that passes both may still be too large.
-/

namespace Storyboard.Regex

/-- The flags that change how the rest of an expression is read. -/
structure Flags where
  caseInsensitive : Bool := false
  multiLine : Bool := false
  dotMatchesNewLine : Bool := false
  swapGreed : Bool := false
  crlf : Bool := false
  ignoreBlanks : Bool := false
  deriving DecidableEq, Repr

/-- The deepest nesting that is accepted. -/
def nestLimit : Nat := 50

/-- What an escape or a class item denotes. -/
inductive Atom where
  | char (c : Char)
  | set (s : CharSet)
  | anchor (a : Anchor)
  deriving Repr

/-! ## Blanks -/

/-- Skips blanks and comments. -/
def skipBlanks (inComment : Bool) : List Char → List Char
  | [] => []
  | c :: rest =>
      if inComment then skipBlanks (c != '\n') rest
      else if Text.isBlank c then skipBlanks false rest
      else if c = '#' then skipBlanks true rest
      else c :: rest

/-- Skips blanks and comments if the flags ask for it. -/
def Flags.skip (f : Flags) (cs : List Char) : List Char :=
  if f.ignoreBlanks then skipBlanks false cs else cs

/-- Drops one character and the blanks after it. -/
def Flags.advance (f : Flags) (cs : List Char) : List Char := f.skip (cs.drop 1)

/-- The character that follows the first one, blanks aside. -/
def Flags.peek? (f : Flags) : List Char → Option Char
  | [] => none
  | _ :: rest =>
      if f.ignoreBlanks then
        match rest.dropWhile Text.isBlank with
        | '#' :: more => (more.dropWhile Text.isBlank).head?.or rest.head?
        | visible => visible.head?.or rest.head?
      else rest.head?

/-! ## Characters and escapes -/

/-- What a literal character denotes. -/
def Flags.literal (f : Flags) (c : Char) : Atom :=
  if f.caseInsensitive && c.isAlpha then .set (.folded (.single c)) else .char c

/-- The characters with a meaning of their own, which an escape turns into literals. -/
def isMeta (c : Char) : Bool :=
  ['\\', '.', '+', '*', '?', '(', ')', '|', '[', ']', '{', '}', '^', '$', '#', '&', '-',
    '~'].contains c

/-- The other ASCII characters that may be escaped without need. -/
def isEscapable (c : Char) : Bool :=
  c.toNat < 128 && !c.isAlphanum && c != '<' && c != '>'

/-- The value of a hexadecimal digit. -/
def hexValue? (c : Char) : Option Nat :=
  if c.isDigit then some (c.toNat - '0'.toNat)
  else if 'a' ≤ c && c ≤ 'f' then some (c.toNat - 'a'.toNat + 10)
  else if 'A' ≤ c && c ≤ 'F' then some (c.toNat - 'A'.toNat + 10)
  else none

/-- The character with a code point. -/
def charOf? (n : Nat) : Option Char := if n.isValidChar then some (Char.ofNat n) else none

/-- Reads a given number of hexadecimal digits. -/
def readFixedHex (f : Flags) (value : Nat) : Nat → List Char → Except Error (Nat × List Char)
  | 0, cs => .ok (value, cs)
  | _ + 1, [] => .error .fixedHexUnclosed
  | n + 1, c :: rest =>
      match hexValue? c with
      | some d => readFixedHex f (value * 16 + d) n (f.advance (c :: rest))
      | none => .error .fixedHexDigit

/-- Reads hexadecimal digits up to a closing brace; `fuel` bounds their number. -/
def readBracedHex (f : Flags) (value : Option Nat) :
    Nat → List Char → Except Error (Option Nat × List Char)
  | 0, _ => .error .bracedHexUnclosed
  | _ + 1, [] => .error .bracedHexUnclosed
  | fuel + 1, c :: rest =>
      if c = '}' then .ok (value, f.advance (c :: rest))
      else
        match hexValue? c with
        | some d => readBracedHex f (some (value.getD 0 * 16 + d)) fuel (f.advance (c :: rest))
        | none => .error .bracedHexDigit

/-- Reads a character given by its code point, from the letter after the backslash on. -/
def readHex (f : Flags) (width : Nat) (cs : List Char) : Except Error (Char × List Char) :=
  match f.advance cs with
  | [] => .error .hexUnclosed
  | '{' :: rest => do
      let (value, rest) ← readBracedHex f none (rest.length + 1) (f.skip rest)
      match value with
      | none => .error .bracedHexEmpty
      | some n =>
          match charOf? n with
          | some c => .ok (c, rest)
          | none => .error .bracedHexValue
  | cs => do
      let (n, rest) ← readFixedHex f 0 width cs
      match charOf? n with
      | some c => .ok (c, rest)
      | none => .error .fixedHexValue

/-- The letters of a named word boundary. -/
def isBoundaryChar (c : Char) : Bool := c.isAlpha || c = '-'

/-- Reads the name of a word boundary; `fuel` bounds its length. -/
def readBoundaryName (f : Flags) (name : List Char) : Nat → List Char → List Char × List Char
  | 0, cs => (name.reverse, cs)
  | _ + 1, [] => (name.reverse, [])
  | fuel + 1, c :: rest =>
      if isBoundaryChar c then readBoundaryName f (c :: name) fuel (f.advance (c :: rest))
      else (name.reverse, c :: rest)

/-- Reads a named word boundary in braces. A brace that starts no name is left for a counted
repetition. -/
def readBoundary (f : Flags) (cs : List Char) : Except Error (Anchor × List Char) :=
  match cs with
  | '{' :: more =>
      match f.skip more with
      | [] => .error .boundaryOrCountUnclosed
      | c :: rest =>
          if !isBoundaryChar c then .ok (.wordBoundary, cs)
          else
            match readBoundaryName f [] (rest.length + 1) (c :: rest) with
            | (name, '}' :: rest) =>
                match String.ofList name with
                | "start" => .ok (.wordStart, rest)
                | "end" => .ok (.wordEnd, rest)
                | "start-half" => .ok (.wordStartHalf, rest)
                | "end-half" => .ok (.wordEndHalf, rest)
                | _ => .error .boundaryUnrecognized
            | _ => .error .boundaryUnclosed
  | _ => .ok (.wordBoundary, cs)

/-- The control characters that have letters of their own. -/
def controlChar? : Char → Option Char
  | 'a' => some '\x07'
  | 'f' => some '\x0c'
  | 't' => some '\t'
  | 'n' => some '\n'
  | 'r' => some '\r'
  | 'v' => some '\x0b'
  | _ => none

/-- The sets that have letters of their own. -/
def classLetter? : Char → Option CharSet
  | 'd' => some .digit
  | 's' => some .space
  | 'w' => some .word
  | 'D' => some (.complement .digit)
  | 'S' => some (.complement .space)
  | 'W' => some (.complement .word)
  | _ => none

/-- Reads an escape after its backslash. -/
def readEscape (f : Flags) (cs : List Char) : Except Error (Atom × List Char) :=
  match cs with
  | [] => .error .escapeUnclosed
  | c :: rest =>
      if c.isDigit then .error .backreference
      else if c = 'p' || c = 'P' then .error .unicodeClass
      else if c = 'x' || c = 'u' || c = 'U' then do
        let width := if c = 'x' then 2 else if c = 'u' then 4 else 8
        let (ch, rest) ← readHex f width cs
        .ok (f.literal ch, rest)
      else
        match classLetter? c, controlChar? c with
        | some s, _ => .ok (.set s, rest)
        | none, some ch => .ok (f.literal ch, rest)
        | none, none =>
            if isMeta c || isEscapable c then .ok (f.literal c, rest)
            else
              match c with
              | 'A' => .ok (.anchor .textStart, rest)
              | 'z' => .ok (.anchor .textEnd, rest)
              | 'b' => (readBoundary f rest).map fun (a, rest) => (.anchor a, rest)
              | 'B' => .ok (.anchor .notWordBoundary, rest)
              | '<' => .ok (.anchor .wordStart, rest)
              | '>' => .ok (.anchor .wordEnd, rest)
              | _ => .error .unrecognizedEscape

/-! ## Character classes -/

/-- Reads a named class such as `[:alpha:]` after its opening bracket, if there is one. -/
def readNamedClass? : List Char → Option (CharSet × List Char)
  | ':' :: cs =>
      let (negated, cs) := match cs with
        | '^' :: more => (true, more)
        | _ => (false, cs)
      let name := cs.takeWhile (· != ':')
      match cs.dropWhile (· != ':') with
      | ':' :: ']' :: rest =>
          (CharSet.ofClassName? (String.ofList name)).map fun s =>
            (if negated then .complement s else s, rest)
      | _ => none
  | _ => none

/-- Reads one item of a class. -/
def readClassItem (f : Flags) : List Char → Except Error (Atom × List Char)
  | [] => .error .classUnclosedItem
  | '\\' :: rest => readEscape f rest
  | c :: rest => .ok (.char c, rest)

/-- The character at an end of a range. -/
def rangeEnd : Atom → Except Error Char
  | .char c => .ok c
  | _ => .error .classRangeItem

/-- The ranges of a class item that stands alone. -/
def itemRanges : Atom → Except Error (List CodeRange)
  | .char c => .ok [⟨c.toNat, c.toNat⟩]
  | .set s => .ok s.ranges
  | .anchor _ => .error .classItem

/-- Reads an item or a range of items. -/
def readClassRange (f : Flags) (cs : List Char) :
    Except Error (List CodeRange × List Char) := do
  let (first, rest) ← readClassItem f cs
  let rest := f.skip rest
  if rest.isEmpty then .error .classUnclosedItem
  else if rest.head? != some '-' || f.peek? rest == some ']' || f.peek? rest == some '-' then do
    let ranges ← itemRanges first
    .ok (ranges, rest)
  else
    let rest := f.advance rest
    if rest.isEmpty then .error .classUnclosedDash
    else do
      let (last, rest) ← readClassItem f rest
      let a ← rangeEnd first
      let b ← rangeEnd last
      if b < a then .error .classRange else .ok ([⟨a.toNat, b.toNat⟩], rest)

/-- Reads the items of a class up to its closing bracket; `fuel` bounds their number. -/
def readClassItems (f : Flags) (ranges : List CodeRange) :
    Nat → List Char → Except Error (List CodeRange × List Char)
  | 0, _ => .error .classUnclosed
  | fuel + 1, cs =>
      match f.skip cs with
      | [] => .error .classUnclosed
      | '[' :: rest =>
          match readNamedClass? rest with
          | some (named, rest) => readClassItems f (named.ranges ++ ranges) fuel rest
          | none => .error .classNested
      | ']' :: rest => .ok (ranges, rest)
      | '&' :: '&' :: _ => .error .classIntersection
      | '-' :: '-' :: _ => .error .classDifference
      | '~' :: '~' :: _ => .error .classSymmetricDifference
      | cs => do
          let (item, rest) ← readClassRange f cs
          readClassItems f (item ++ ranges) fuel rest

/-- Reads the dashes that may begin a class; `fuel` bounds their number. -/
def readDashes (f : Flags) (found : Bool) : Nat → List Char → Except Error (Bool × List Char)
  | fuel + 1, '-' :: rest =>
      match f.skip rest with
      | [] => .error .classUnclosedDash
      | more => readDashes f true fuel more
  | _, cs => .ok (found, cs)

/-- Reads a class after its opening bracket. The case flag acts before a negation. -/
def readClass (f : Flags) (cs : List Char) : Except Error (CharSet × List Char) := do
  let cs := f.skip cs
  if cs.isEmpty then .error .classUnclosed
  else
    let negated := cs.head? == some '^'
    let cs := if negated then f.advance cs else cs
    if cs.isEmpty then .error .classUnclosedNegation
    else
      let (dashes, cs) ← readDashes f false (cs.length + 1) cs
      let bracket := !dashes && cs.head? == some ']'
      let cs := if bracket then f.advance cs else cs
      if bracket && cs.isEmpty then .error .classUnclosedBracket
      else
        let start := if dashes then (CharSet.single '-').ranges
          else if bracket then (CharSet.single ']').ranges else []
        let (ranges, rest) ← readClassItems f start (cs.length + 1) cs
        let s := CharSet.ofRanges ranges
        let s := if f.caseInsensitive then s.folded else s
        .ok (if negated then s.complement else s, rest)

/-! ## Repetitions -/

/-- Skips the mark that makes a repetition lazy; which match is preferred does not matter. -/
def skipLazy : List Char → List Char
  | '?' :: rest => rest
  | cs => cs

/-- Reads decimal digits; `fuel` bounds their number. -/
def readDigits (f : Flags) (value : Option Nat) : Nat → List Char → Option Nat × List Char
  | fuel + 1, c :: rest =>
      if c.isDigit then
        readDigits f (some (value.getD 0 * 10 + (c.toNat - '0'.toNat))) fuel (f.advance (c :: rest))
      else (value, c :: rest)
  | _, cs => (value, cs)

/-- Reads a count, with blanks around it. -/
def readCount (f : Flags) (cs : List Char) : Except Error (Nat × List Char) :=
  let cs := cs.dropWhile Text.isBlank
  match readDigits f none (cs.length + 1) cs with
  | (none, _) => .error .noDigits
  | (some n, rest) =>
      if n < 0x100000000 then .ok (n, f.skip (rest.dropWhile Text.isBlank)) else .error .badDecimal

/-- Reads the bounds of a counted repetition after its opening brace. -/
def readBounds (f : Flags) (cs : List Char) : Except Error (Nat × Option Nat × List Char) := do
  let cs := f.skip cs
  if cs.isEmpty then .error .countUnclosed
  else
    let (least, cs) ← readCount f cs
    match cs with
    | [] => .error .countMinUnclosed
    | ',' :: rest =>
        match f.skip rest with
        | [] => .error .countCommaUnclosed
        | '}' :: rest => .ok (least, none, skipLazy (f.skip rest))
        | more => do
            let (most, more) ← readCount f more
            match more with
            | [] => .error .countMaxUnclosed
            | '}' :: rest =>
                if most < least then .error .countRange
                else .ok (least, some most, skipLazy (f.skip rest))
            | _ => .error .countInvalid
    | '}' :: rest => .ok (least, some least, skipLazy (f.skip rest))
    | _ => .error .countInvalid

/-! ## Groups -/

/-- What a group captures under: its number and perhaps a name. -/
structure Capture where
  index : Nat
  name : Option String
  deriving Repr

/-- A group that has been opened: the alternatives and the parts read before it in the
enclosing group, the flags to return to, and what it captures under, if it does. -/
structure Frame where
  alternatives : List Regex
  parts : List Regex
  flags : Flags
  capture : Option Capture
  deriving Repr

/-- What the opening of a group announces. -/
inductive Opening where
  | capture
  | named (name : String)
  | plain (flags : Flags)
  /-- A directive that changes the flags and has no content. -/
  | directive (flags : Flags)
  deriving Repr

/-- Sets the flag of a letter. -/
def Flags.set? (f : Flags) (c : Char) (on : Bool) : Option Flags :=
  match c with
  | 'i' => some { f with caseInsensitive := on }
  | 'm' => some { f with multiLine := on }
  | 's' => some { f with dotMatchesNewLine := on }
  | 'U' => some { f with swapGreed := on }
  | 'R' => some { f with crlf := on }
  | 'x' => some { f with ignoreBlanks := on }
  | 'u' => some f
  | _ => none

/-- Reads flag letters up to a colon or closing parenthesis, which stays. -/
def readFlags (f : Flags) (seen : List Char) (negate : Bool) :
    List Char → Except Error (Flags × List Char)
  | [] => .error .unclosedFlags
  | c :: rest =>
      if c = ':' || c = ')' then
        if seen.head? == some '-' then .error .danglingNegation else .ok (f, c :: rest)
      else if c = '-' then
        if negate then .error .repeatedNegation else readFlags f ('-' :: seen) true rest
      else
        match f.set? c (!negate) with
        | none => .error .unrecognizedFlag
        | some f' =>
            if seen.contains c then .error .duplicateFlag else readFlags f' (c :: seen) negate rest

/-- Whether a character may stand in a group name. -/
def isNameChar (first : Bool) (c : Char) : Bool :=
  if first then c = '_' || Text.isAlphabetic c
  else c = '_' || c = '.' || c = '[' || c = ']' || Text.isAlphanumeric c

/-- Reads a group name up to its closing angle bracket. -/
def readGroupName (name : List Char) : List Char → Except Error (String × List Char)
  | [] => if name.isEmpty then .error .missingGroupName else .error .unclosedGroupName
  | c :: rest =>
      if c = '>' then
        if name.isEmpty then .error .emptyGroupName else .ok (String.ofList name.reverse, rest)
      else if isNameChar name.isEmpty c then readGroupName (c :: name) rest
      else .error .invalidGroupName

/-- Reads the opening of a group after its parenthesis. -/
def readOpening (f : Flags) (cs : List Char) : Except Error (Opening × List Char) :=
  match f.skip cs with
  | '?' :: '=' :: _ => .error .lookAround
  | '?' :: '!' :: _ => .error .lookAround
  | '?' :: '<' :: '=' :: _ => .error .lookAround
  | '?' :: '<' :: '!' :: _ => .error .lookAround
  | '?' :: 'P' :: '<' :: rest => (readGroupName [] rest).map fun (n, rest) => (.named n, rest)
  | '?' :: '<' :: rest => (readGroupName [] rest).map fun (n, rest) => (.named n, rest)
  | '?' :: rest =>
      if rest.isEmpty then .error .unclosedGroupQuestion
      else
        match readFlags f [] false rest with
        | .error e => .error e
        | .ok (flags, ')' :: more) =>
            if rest.head? == some ')' then .error .emptyFlags else .ok (.directive flags, ')' :: more)
        | .ok (flags, more) => .ok (.plain flags, more.drop 1)
  | rest => .ok (.capture, rest)

/-! ## The reader -/

/-- What has been read: the alternatives and parts of the innermost open group, last first,
the enclosing groups, the flags in force, the number of capturing groups and the group names
in use. -/
structure Progress where
  alternatives : List Regex := []
  parts : List Regex := []
  frames : List Frame := []
  flags : Flags := {}
  groups : Nat := 0
  names : List String := []
  deriving Repr

/-- Adds a part to the innermost group. -/
def Progress.push (p : Progress) (r : Regex) : Progress := { p with parts := r :: p.parts }

/-- Opens a group inside the current one. -/
def Progress.openGroup (p : Progress) (capture : Option Capture) (flags : Flags) :
    Except Error Progress :=
  if nestLimit ≤ p.frames.length then .error .tooMuchNesting
  else
    .ok { p with
      alternatives := []
      parts := []
      frames := ⟨p.alternatives, p.parts, p.flags, capture⟩ :: p.frames
      flags := flags }

/-- Opens a capturing group inside the current one. -/
def Progress.openCapture (p : Progress) (name : Option String) : Except Error Progress :=
  { p with groups := p.groups + 1 }.openGroup (some ⟨p.groups + 1, name⟩) p.flags

/-- Ends an alternative of the innermost group. -/
def Progress.endAlternative (p : Progress) : Progress :=
  { p with alternatives := Regex.ofParts p.parts.reverse :: p.alternatives, parts := [] }

/-- The content of the innermost group. -/
def Progress.content (p : Progress) : Regex :=
  Regex.ofAlternatives p.endAlternative.alternatives.reverse

/-- Closes the innermost group. -/
def Progress.closeGroup (p : Progress) : Except Error Progress :=
  match p.frames with
  | [] => .error .unopenedGroup
  | frame :: outer =>
      let inner := match frame.capture with
        | some c => .group c.index c.name p.content
        | none => p.content
      .ok { p with
        alternatives := frame.alternatives
        parts := inner :: frame.parts
        frames := outer
        flags := frame.flags }

/-- Repeats the part read last. -/
def Progress.repeatLast (p : Progress) (missing : Error) (least : Nat) (most : Option Nat) :
    Except Error Progress :=
  match p.parts with
  | [] => .error missing
  | r :: rest => .ok { p with parts := Regex.repeated least most r :: rest }

/-- The expression of an atom. -/
def Atom.regex : Atom → Regex
  | .char c => .char c
  | .set s => .set s
  | .anchor a => .anchor a

/-- The set that a dot stands for. -/
def Flags.dot (f : Flags) : CharSet :=
  if f.dotMatchesNewLine then .any
  else if f.crlf then .complement (.ofPairs [('\n', '\n'), ('\r', '\r')])
  else .complement (.single '\n')

/-- The condition that a caret stands for. -/
def Flags.caret (f : Flags) : Anchor :=
  if !f.multiLine then .textStart else if f.crlf then .lineStartCrlf else .lineStart

/-- The condition that a dollar sign stands for. -/
def Flags.dollar (f : Flags) : Anchor :=
  if !f.multiLine then .textEnd else if f.crlf then .lineEndCrlf else .lineEnd

/-- Reads the opening of a group after its parenthesis. -/
def Progress.readGroup (p : Progress) (cs : List Char) : Except Error (Progress × List Char) := do
  match ← readOpening p.flags cs with
  | (.capture, rest) => .ok (← p.openCapture none, rest)
  | (.named name, rest) =>
      if p.names.contains name then .error .duplicateGroupName
      else
        let q ← p.openCapture (some name)
        .ok ({ q with names := name :: q.names }, rest)
  | (.plain flags, rest) => .ok (← p.openGroup none flags, rest)
  | (.directive flags, rest) => .ok ({ p with flags := flags }, rest.drop 1)

/-- Reads one item, operator or delimiter, of which the first character is given. -/
def Progress.step (p : Progress) (c : Char) (rest : List Char) :
    Except Error (Progress × List Char) :=
  match c with
  | '(' => p.readGroup rest
  | ')' => (p.closeGroup).map fun q => (q, rest)
  | '|' => .ok (p.endAlternative, rest)
  | '[' => (readClass p.flags rest).map fun (s, rest) => (p.push (.set s), rest)
  | '?' => (p.repeatLast .nothingToRepeat 0 (some 1)).map fun q => (q, skipLazy rest)
  | '*' => (p.repeatLast .nothingToRepeat 0 none).map fun q => (q, skipLazy rest)
  | '+' => (p.repeatLast .nothingToRepeat 1 none).map fun q => (q, skipLazy rest)
  | '{' =>
      if p.parts.isEmpty then .error .nothingToCount
      else do
        let (least, most, rest) ← readBounds p.flags rest
        let q ← p.repeatLast .nothingToCount least most
        .ok (q, rest)
  | '\\' => (readEscape p.flags rest).map fun (a, rest) => (p.push a.regex, rest)
  | '.' => .ok (p.push (.set p.flags.dot), rest)
  | '^' => .ok (p.push (.anchor p.flags.caret), rest)
  | '$' => .ok (p.push (.anchor p.flags.dollar), rest)
  | c => .ok (p.push (p.flags.literal c).regex, rest)

/-- Reads an expression to its end; `fuel` bounds the number of steps. -/
def Progress.run (p : Progress) : Nat → List Char → Except Error Progress
  | 0, _ => .ok p
  | fuel + 1, cs =>
      match p.flags.skip cs with
      | [] => .ok p
      | c :: rest => do
          let (q, rest) ← p.step c rest
          q.run fuel rest

/-- Reads a regular expression. Every step takes at least one character. -/
def parse (cs : List Char) : Except Error Regex := do
  let p ← Progress.run {} (cs.length + 1) cs
  if !p.frames.isEmpty then .error .unclosedGroup
  else
    let r := p.content
    if nestLimit < r.depth then .error .tooMuchNesting
    else if sizeLimit < r.size then .error .tooLarge
    else .ok r

end Storyboard.Regex
