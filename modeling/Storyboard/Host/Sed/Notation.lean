import Storyboard.Host.Sed.Pattern

/-!
# How patterns are written

Patterns are written as basic or as extended expressions. In a basic expression the marks for
groups, alternatives and most repetitions need a backslash; in an extended one a backslash
takes their meaning away. Where nothing stands that could be repeated, the mark of a repetition
stands for itself in a basic expression and is refused in an extended one.
-/

namespace Storyboard.Sed

/-- Why an expression is refused. -/
inductive PatternError where
  | incomplete
  | trailingBackslash
  | unmatchedOpening
  | unmatchedClosing
  | nothingToRepeat
  | unmatchedBrace
  | badInterval
  | tooBig
  | badReference
  | unmatchedBracket
  | badRange
  | badClass
  | badCollation
  /-- A class name that lacks the outer brackets. -/
  | bareClass
  deriving DecidableEq, Repr

/-- The wording of a refusal. -/
def PatternError.message : PatternError → String
  | incomplete => "Invalid regular expression"
  | trailingBackslash => "Trailing backslash"
  | unmatchedOpening => "Unmatched ( or \\("
  | unmatchedClosing => "Unmatched ) or \\)"
  | nothingToRepeat => "Invalid preceding regular expression"
  | unmatchedBrace => "Unmatched \\\x7b"
  | badInterval => "Invalid content of \\\x7b\\\x7d"
  | tooBig => "Regular expression too big"
  | badReference => "Invalid back reference"
  | unmatchedBracket => "Unmatched [, [^, [:, [., or [="
  | badRange => "Invalid range end"
  | badClass => "Invalid character class name"
  | badCollation => "Invalid collation character"
  | bareClass => "character class syntax is [[:space:]], not [:space:]"

/-- How expressions are read. -/
structure Dialect where
  extended : Bool := false
  caseless : Bool := false
  /-- Whether a closing mark without opening one is refused. -/
  strict : Bool := true

/-! ## Bracket expressions -/

/-- A piece of a bracket expression, as it is written. -/
inductive Piece where
  | char (c : Char)
  | symbol (text : List Char)
  | equivalent (text : List Char)
  | named (text : List Char)
  deriving DecidableEq, Repr

/-- The text up to a mark and a closing bracket, and what follows them, if the text has less than
the given number of bytes. -/
def upToMark (mark : Char) (limit : Nat) :
    List Char → Except PatternError (List Char × List Char)
  | c :: d :: rest =>
      let size := (Characters.bytesOf c).length
      if limit < size then .error .unmatchedBracket
      else if c = mark && d = ']' then .ok ([], rest)
      else (upToMark mark (limit - size) (d :: rest)).map fun (t, rest) => (c :: t, rest)
  | _ => .error .unmatchedBracket

/-- The number of bytes that a name between brackets does not reach. -/
def nameLimit : Nat := 32

/-- The only character of a collating symbol. -/
def onlyChar : List Char → Except PatternError Char
  | [c] => if c.toNat < 128 then .ok c else .error .badCollation
  | _ => .error .badCollation

/-- The form in which a character of an expression is compared. -/
def Dialect.fold (d : Dialect) (c : Char) : Char := if d.caseless then Text.toUpper c else c

/-- Reads a piece of a bracket expression. -/
def readPiece (d : Dialect) : List Char → Except PatternError (Piece × List Char)
  | [] => .error .unmatchedBracket
  | '[' :: ':' :: rest =>
      (upToMark ':' nameLimit rest).map fun (text, rest) => (.named text, rest)
  | '[' :: '=' :: rest =>
      (upToMark '=' nameLimit rest).map fun (text, rest) => (.equivalent text, rest)
  | '[' :: '.' :: rest =>
      (upToMark '.' nameLimit rest).map fun (text, rest) => (.symbol text, rest)
  | c :: rest => .ok (.char (d.fold c), rest)

/-- Whether a piece can stand at an end of a range. -/
def Piece.canEndRange : Piece → Bool
  | char _ | symbol _ => true
  | _ => false

/-- The character of a piece. -/
def Piece.single (d : Dialect) : Piece → Except PatternError Char
  | char c => .ok c
  | symbol text | equivalent text | named text => (onlyChar text).map d.fold

/-- The member that a piece stands for. Without regard to case the classes of one case hold all
letters. -/
def Piece.member (d : Dialect) (p : Piece) : Except PatternError Member :=
  match p with
  | .named text =>
      let name := String.ofList text
      if (ByteText.classOf? name).isNone then .error .badClass
      else .ok (.named (if d.caseless && (name = "upper" || name = "lower") then "alpha" else name))
  | p => (p.single d).map fun c => .range c c

/-- The range between two pieces. -/
def rangeMember (d : Dialect) (p q : Piece) : Except PatternError Member :=
  if !p.canEndRange || !q.canEndRange then .error .badRange
  else do
    let a ← p.single d
    let b ← q.single d
    if 128 ≤ a.toNat || 128 ≤ b.toNat then .error .badCollation
    else if b < a then .error .badRange
    else .ok (.range a b)

/-- Reads the members of a bracket expression up to its end; `fuel` bounds their number. -/
def readMembers (d : Dialect) (members : List Member) (first : Bool) :
    Nat → List Char → Except PatternError (List Member × List Char)
  | 0, _ => .error .unmatchedBracket
  | fuel + 1, cs => do
      let (piece, rest) ← readPiece d cs
      if piece = .char '-' && !first && rest.head? ≠ some ']' then .error .badRange
      let (member, rest) ← (match piece.canEndRange, rest with
        | true, ['-'] => .error .unmatchedBracket
        | true, '-' :: c :: more =>
            if c = ']' then (piece.member d).map fun m => (m, rest)
            else do
              let (last, more) ← readPiece d (c :: more)
              let m ← rangeMember d piece last
              .ok (m, more)
        | _, _ => (piece.member d).map fun m => (m, rest))
      match rest with
      | [] => .error .unmatchedBracket
      | ']' :: rest => .ok (member :: members, rest)
      | rest => readMembers d (member :: members) false fuel rest

/-- Reads a bracket expression after its opening bracket. -/
def readBracket (d : Dialect) (cs : List Char) : Except PatternError (Bracket × List Char) :=
  let (negated, cs) := match cs with
    | '^' :: rest => (true, rest)
    | _ => (false, cs)
  if cs.isEmpty then .error .incomplete
  else
    (readMembers d [] true (cs.length + 1) cs).map fun (members, rest) => (⟨negated, members⟩, rest)

/-- Whether members, last one first, spell a class name without its outer brackets. -/
def isBareClass (members : List Member) : Bool :=
  let colon := Member.range ':' ':'
  let isChar (m : Member) : Bool := match m with
    | .range a b => a == b
    | .named _ => false
  members.head? == some colon && members.getLast? == some colon
    && members.any (· ≠ colon) && members.all isChar

/-! ## Marks -/

/-- A mark of an expression. -/
inductive Mark where
  | one (p : Pattern)
  | condition (c : Condition)
  | star
  | plus
  | question
  | count
  | endOfCount
  | bar
  | opening
  | closing
  deriving Repr

/-- The condition or the item that an escape letter stands for. -/
def escapeLetter? : Char → Option Mark
  | 'b' => some (.condition .wordEdge)
  | 'B' => some (.condition .notWordEdge)
  | '<' => some (.condition .wordStart)
  | '>' => some (.condition .wordEnd)
  | '\x60' => some (.condition .bufferStart)
  | '\x27' => some (.condition .bufferEnd)
  | 'w' => some (.one (.word false))
  | 'W' => some (.one (.word true))
  | 's' => some (.one (.blank false))
  | 'S' => some (.one (.blank true))
  | _ => none

/-- The mark that a character is where it has a meaning. -/
def special? : Char → Option Mark
  | '(' => some .opening
  | ')' => some .closing
  | '|' => some .bar
  | '+' => some .plus
  | '?' => some .question
  | '{' => some .count
  | '}' => some .endOfCount
  | _ => none

/-- Whether a dollar sign before a text stands for the end of a line in a basic expression. -/
def endsPart : List Char → Bool
  | [] => true
  | '\\' :: ')' :: _ => true
  | '\\' :: '|' :: _ => true
  | _ => false

/-- Reads one mark. At the front of a part a caret stands for the start of a line. -/
def readMark (d : Dialect) (front : Bool) :
    List Char → Except PatternError (Option (Mark × List Char))
  | [] => .ok none
  | ['\\'] => .error .trailingBackslash
  | '\\' :: c :: rest =>
      match escapeLetter? c, special? c with
      | some mark, _ => .ok (some (mark, rest))
      | none, some mark => .ok (some (if d.extended then .one (.char c) else mark, rest))
      | none, none =>
          if '1' ≤ c && c ≤ '9' then .ok (some (.one (.again (c.toNat - 48)), rest))
          else .ok (some (.one (.char c), rest))
  | '[' :: rest => do
      let (b, rest) ← readBracket d rest
      .ok (some (.one (.bracket b), rest))
  | '.' :: rest => .ok (some (.one .dot, rest))
  | '*' :: rest => .ok (some (.star, rest))
  | '^' :: rest =>
      .ok (some (if d.extended || front then .condition .lineStart else .one (.char '^'), rest))
  | '$' :: rest =>
      .ok (some (if d.extended || endsPart rest then .condition .lineEnd else .one (.char '$'), rest))
  | c :: rest =>
      match d.extended, special? c with
      | true, some mark => .ok (some (mark, rest))
      | _, _ => .ok (some (.one (.char c), rest))

/-- The character that the mark of a repetition or the end of a count is by itself. -/
def Mark.ownChar : Mark → Char
  | star => '*'
  | plus => '+'
  | question => '?'
  | count => '{'
  | endOfCount => '}'
  | _ => ')'

/-! ## Counts -/

/-- What ends a number in a count. -/
inductive CountStop where
  | comma
  | brace
  | nothing
  deriving DecidableEq, Repr

/-- A number in a count. -/
inductive CountNumber where
  | missing
  | invalid
  | value (n : Nat)
  deriving DecidableEq, Repr

/-- The greatest number of copies. -/
def greatestCount : Nat := 32767

/-- A number in a count with a further digit. -/
def CountNumber.add (digit : Nat) : CountNumber → CountNumber
  | missing => value digit
  | invalid => invalid
  | value n => value (min (greatestCount + 1) (n * 10 + digit))

/-- Reads a number in a count and what ends it. A backslash takes nothing away from a comma or a
zero. -/
def readCountNumber (d : Dialect) (n : CountNumber) :
    List Char → CountNumber × CountStop × List Char
  | [] => (n, .nothing, [])
  | '\\' :: c :: rest =>
      if c = '}' && !d.extended then (n, .brace, rest)
      else if c = ',' then (n, .comma, rest)
      else readCountNumber d (if c = '0' then n.add 0 else .invalid) rest
  | ',' :: rest => (n, .comma, rest)
  | c :: rest =>
      if c = '}' && d.extended then (n, .brace, rest)
      else readCountNumber d (if c.isDigit then n.add (c.toNat - 48) else .invalid) rest

/-- Reads a count after its opening brace. -/
def readCount (d : Dialect) (cs : List Char) :
    Except PatternError (Nat × Option Nat × List Char) :=
  let (first, stop, rest) := readCountNumber d .missing cs
  let wrong (stop : CountStop) : PatternError :=
    if stop = .nothing then .unmatchedBrace else .badInterval
  let check (least : Nat) (most : Option Nat) (rest : List Char) :
      Except PatternError (Nat × Option Nat × List Char) :=
    if most.any (· < least) then .error .badInterval
    else if greatestCount < most.getD least then .error .tooBig
    else .ok (least, most, rest)
  match first, stop with
  | .missing, .brace => .error .badInterval
  | .missing, .nothing => .error .unmatchedBrace
  | .invalid, stop => .error (wrong stop)
  | .value _, .nothing => .error .unmatchedBrace
  | .value n, .brace => check n (some n) rest
  | first, .comma =>
      let least := match first with
        | .value n => n
        | _ => 0
      match readCountNumber d .missing rest with
      | (.invalid, stop, _) => .error (wrong stop)
      | (_, .nothing, _) => .error .unmatchedBrace
      | (.value m, .brace, rest) => check least (some m) rest
      | (.missing, .brace, rest) => check least none rest
      | (_, .comma, _) => .error .badInterval

/-! ## Patterns -/

/-- What remains to be read of an expression, and what has been found in it. -/
structure Remaining where
  rest : List Char
  /-- Whether it is the front of an alternative. -/
  front : Bool := true
  /-- How many groups have been opened. -/
  groups : Nat := 0
  /-- The groups that can be mentioned. -/
  closed : List Nat := []
  /-- Whether some bracket expression spells a class name without its outer brackets. -/
  hasBareClass : Bool := false

/-- The next mark. -/
def Remaining.next (d : Dialect) (r : Remaining) :
    Except PatternError (Option (Mark × List Char)) :=
  readMark d r.front r.rest

/-- Whether a mark ends a branch inside a number of groups. -/
def Mark.endsBranch (inside : Bool) : Mark → Bool
  | bar => true
  | closing => inside
  | _ => false

/-- The bounds of a repetition, if a mark is one, and what follows it. -/
def Mark.bounds (d : Dialect) (rest : List Char) :
    Mark → Except PatternError (Option (Nat × Option Nat × List Char))
  | star => .ok (some (0, none, rest))
  | plus => .ok (some (1, none, rest))
  | question => .ok (some (0, some 1, rest))
  | count => (readCount d rest).map some
  | _ => .ok none

/-- Whether a mark may not follow a repetition in a basic expression. -/
def Mark.isSecondRepetition : Mark → Bool
  | star | count => true
  | _ => false

/-- Reads the repetitions of a pattern; `fuel` bounds their number. -/
def readRepetitions (d : Dialect) (p : Pattern) (r : Remaining) :
    Nat → Except PatternError (Pattern × Remaining)
  | 0 => .ok (p, r)
  | fuel + 1 => do
      match ← r.next d with
      | none => .ok (p, r)
      | some (mark, rest) =>
          match ← mark.bounds d rest with
          | none => .ok (p, r)
          | some (least, most, rest) =>
              let r := { r with rest := rest }
              match ← r.next d with
              | some (mark, _) =>
                  if !d.extended && mark.isSecondRepetition then .error .nothingToRepeat
                  else readRepetitions d (.repeated least most p) r fuel
              | none => .ok (.repeated least most p, r)

mutual

/-- Reads alternatives, inside a group or not; `fuel` bounds the work. -/
def readAlternatives (d : Dialect) (inside : Bool) (r : Remaining) :
    Nat → Except PatternError (Pattern × Remaining)
  | 0 => .error .tooBig
  | fuel + 1 => do
      let (p, after) ← readBranch d inside r fuel
      readMoreAlternatives d inside r.closed p after fuel

/-- Reads the alternatives after the first one. Groups of one alternative cannot be mentioned
in another. -/
def readMoreAlternatives (d : Dialect) (inside : Bool) (closed : List Nat) (p : Pattern)
    (r : Remaining) : Nat → Except PatternError (Pattern × Remaining)
  | 0 => .error .tooBig
  | fuel + 1 => do
      match ← r.next d with
      | some (.bar, rest) =>
          let start : Remaining := { r with rest := rest, front := true, closed := closed }
          let (q, after) ← readBranch d inside start fuel
          let after := { after with closed := r.closed ++ after.closed }
          readMoreAlternatives d inside closed (.alt p q) after fuel
      | _ => .ok (p, r)

/-- Reads the parts of one alternative. -/
def readBranch (d : Dialect) (inside : Bool) (r : Remaining) :
    Nat → Except PatternError (Pattern × Remaining)
  | 0 => .error .tooBig
  | fuel + 1 => do
      match ← r.next d with
      | none => .ok (.empty, r)
      | some (mark, _) =>
          if mark.endsBranch inside then .ok (.empty, r)
          else
            let (p, r) ← readPart d r fuel
            let (q, r) ← readBranch d inside r fuel
            .ok (match q with
              | .empty => p
              | q => .seq p q, r)

/-- Reads one part with its repetitions. -/
def readPart (d : Dialect) (r : Remaining) : Nat → Except PatternError (Pattern × Remaining)
  | 0 => .error .tooBig
  | fuel + 1 => do
      match ← r.next d with
      | none => .ok (.empty, r)
      | some (.condition c, rest) => .ok (.condition c, { r with rest := rest, front := false })
      | some (.opening, rest) =>
          let number := r.groups + 1
          let start : Remaining := { r with rest := rest, front := true, groups := number }
          let (p, after) ← readAlternatives d true start fuel
          match ← after.next d with
          | some (.closing, rest) =>
              let after : Remaining :=
                { after with rest := rest, front := false, closed := number :: after.closed }
              readRepetitions d (.group number false p) after (rest.length + 1)
          | _ => .error .unmatchedOpening
      | some (.one (.again n), rest) =>
          if r.closed.contains n then
            readRepetitions d (.again n) { r with rest := rest, front := false } (rest.length + 1)
          else .error .badReference
      | some (.one p, rest) =>
          let isBare := match p with
            | .bracket b => isBareClass b.members
            | _ => false
          let r : Remaining :=
            { r with rest := rest, front := false, hasBareClass := r.hasBareClass || isBare }
          readRepetitions d p r (rest.length + 1)
      | some (.closing, rest) =>
          if d.strict then .error .unmatchedClosing
          else
            readRepetitions d (.char ')') { r with rest := rest, front := false } (rest.length + 1)
      | some (.endOfCount, rest) =>
          readRepetitions d (.char '}') { r with rest := rest, front := false } (rest.length + 1)
      | some (mark, rest) =>
          let isCount := match mark with
            | .count => true
            | _ => false
          if d.extended || isCount then .error .nothingToRepeat
          else
            readRepetitions d (.char mark.ownChar) { r with rest := rest, front := false }
              (rest.length + 1)

end

namespace Pattern

/-- The pattern that an expression writes, and what has been found in it. -/
def read (d : Dialect) (cs : List Char) : Except PatternError (Pattern × Remaining) :=
  readAlternatives d false { rest := cs } (4 * cs.length + 8)

end Pattern

end Storyboard.Sed
