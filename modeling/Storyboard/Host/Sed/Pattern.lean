import Std.Data.HashSet
import Storyboard.Host.ByteText
import Storyboard.Host.Characters
import Storyboard.Text.Alphanumeric
import Storyboard.Text.Blank
import Storyboard.Text.Case
import Storyboard.Text.Printable

/-!
# Patterns with groups

Patterns that the line editor searches for. A group remembers the text it matched, which a
later part of the pattern and the replacement can mention again. Of the matches that begin at
the first possible place the longest one counts, and of the ways to reach its end the one that
prefers earlier alternatives and more copies.

Main definitions:

- `Pattern.ends`: the places where matches can end, the preferred way to each.
- `Search.find?`: the first and longest match from a place on.
-/

namespace Storyboard.Sed

/-! ## Bracket expressions -/

/-- A member of a bracket expression. -/
inductive Member where
  | range (first last : Char)
  /-- A class by its name, such as `alpha`. -/
  | named (name : String)
  deriving DecidableEq, Repr

/-- A bracket expression. -/
structure Bracket where
  negated : Bool
  members : List Member
  deriving DecidableEq, Repr

/-- Whether a character beyond ASCII belongs to a class. -/
def isInWideClass (name : String) (c : Char) : Bool :=
  match name with
  | "alnum" => Text.isAlphanumeric c
  | "alpha" => Text.isAlphabetic c
  | "lower" => Text.isLower c
  | "upper" => Text.isUpper c
  | "graph" => Text.isPrintable c
  | "print" => Text.isPrintable c || Text.isBlank c
  | "punct" => Text.isPrintable c && !Text.isAlphanumeric c
  | "space" => Text.isBlank c
  | _ => false

/-- Whether a character belongs to a class. -/
def isInClass (name : String) (c : Char) : Bool :=
  if c.toNat < 128 then (ByteText.classOf? name).any (·.contains c)
  else !Characters.isStray c && isInWideClass name c

/-- Whether a character is a member. -/
def Member.contains (c : Char) : Member → Bool
  | range first last => first ≤ c && c ≤ last
  | named name => isInClass name c

/-- Whether a character belongs to the set of a bracket expression. -/
def Bracket.contains (b : Bracket) (c : Char) : Bool :=
  !Characters.isStray c && b.members.any (Member.contains c) != b.negated

/-- Whether a character can stand in a word. -/
def isWordChar (c : Char) : Bool := c = '_' || isInClass "alnum" c

/-! ## Patterns -/

/-- A condition on the place between two characters. -/
inductive Condition where
  | lineStart
  | lineEnd
  | bufferStart
  | bufferEnd
  | wordStart
  | wordEnd
  | wordEdge
  | notWordEdge
  deriving DecidableEq, Repr

/-- A pattern. -/
inductive Pattern where
  | empty
  | char (c : Char)
  | dot
  | bracket (b : Bracket)
  | word (negated : Bool)
  | blank (negated : Bool)
  | condition (c : Condition)
  /-- A group; one that is repeated as a whole may be left out. -/
  | group (number : Nat) (optional : Bool) (p : Pattern)
  /-- The text that a group matched. -/
  | again (number : Nat)
  | seq (p q : Pattern)
  | alt (p q : Pattern)
  | star (p : Pattern)
  deriving Repr

namespace Pattern

/-- Whether the pattern mentions the text of a group. -/
def mentionsGroup : Pattern → Bool
  | group _ _ p => p.mentionsGroup
  | again _ => true
  | seq p q => p.mentionsGroup || q.mentionsGroup
  | alt p q => p.mentionsGroup || q.mentionsGroup
  | star p => p.mentionsGroup
  | _ => false

/-- Marks a group as one that may be left out. -/
def asOptional : Pattern → Pattern
  | group n _ p => group n true p
  | p => p

/-- A number of copies, one after the other. -/
def copies (p : Pattern) : Nat → Pattern
  | 0 => empty
  | 1 => p
  | n + 1 => seq (p.copies n) p

/-- At most a number of copies: each one may be left out together with those before it. -/
def upTo (p : Pattern) : Nat → Pattern
  | 0 => empty
  | 1 => alt p empty
  | n + 1 => alt (seq (p.upTo n) p) empty

/-- A repetition. -/
def repeated (least : Nat) (most : Option Nat) (p : Pattern) : Pattern :=
  let more := match most with
    | none => some (star p.asOptional)
    | some n => if n ≤ least then none else some (p.asOptional.upTo (n - least))
  match least, more with
  | 0, none => empty
  | 0, some q => q
  | n, none => p.copies n
  | n, some q => seq (p.copies n) q

end Pattern

/-- Whether a bracket expression lists nothing but ASCII characters that it accepts. -/
def Bracket.isPlain (b : Bracket) : Bool :=
  !b.negated && b.members.all fun m => match m with
    | .range first last => first = last && first.toNat < 128
    | .named _ => false

/-- Whether a condition looks at words. -/
def Condition.isOnWords : Condition → Bool
  | wordStart | wordEnd | wordEdge | notWordEdge => true
  | _ => false

/-- Whether the pattern can be matched byte by byte, because it does not ask what kind of
character it meets. -/
def Pattern.isBytewise : Pattern → Bool
  | bracket b => b.isPlain
  | word _ | blank _ => false
  | condition c => !c.isOnWords
  | group _ _ p => p.isBytewise
  | seq p q => p.isBytewise && q.isBytewise
  | alt p q => p.isBytewise && q.isBytewise
  | star p => p.isBytewise
  | _ => true

/-! ## Matching -/

/-- How a pattern is searched for. -/
structure Mode where
  caseless : Bool := false
  /-- Whether the marks for the ends of a line also match inside a text of several lines. -/
  byLines : Bool := false
  /-- Whether a line feed ends the lines of the input. -/
  lineFeeds : Bool := true
  deriving DecidableEq, Repr

/-- A place in a text: the character before it, the text after it and the length of that. -/
structure Place where
  before : Option Char
  after : List Char
  left : Nat
  deriving DecidableEq, Repr

namespace Place

/-- The front of a text. -/
def front (text : List Char) : Place := ⟨none, text, text.length⟩

/-- The place after the next character, given what follows it. -/
def past (p : Place) (c : Char) (rest : List Char) : Place := ⟨some c, rest, p.left - 1⟩

/-- The place after one byte of the next character, given the byte and what follows the
character. -/
def overByte (p : Place) (c : Char) (rest : List Char) : Char × Place :=
  match Characters.bytesOf c with
  | b :: b' :: bytes =>
      let others := (b' :: bytes).map Characters.stray
      (Characters.stray b, ⟨some (Characters.stray b), others ++ rest, p.left + bytes.length⟩)
  | _ => (c, p.past c rest)

/-- The text between a place and a later one. -/
def upTo (p q : Place) : List Char := p.after.take (p.left - q.left)

end Place

/-- Whether a condition holds at a place. -/
def holds (m : Mode) (c : Condition) (p : Place) : Bool :=
  let next := p.after.head?
  let inside := m.byLines && m.lineFeeds
  let wordBefore := p.before.any isWordChar
  let wordAfter := next.any isWordChar
  match c with
  | .lineStart => p.before.isNone || (inside && p.before == some '\n')
  | .lineEnd => next.isNone || (inside && next == some '\n')
  | .bufferStart => p.before.isNone
  | .bufferEnd => next.isNone
  | .wordStart => !wordBefore && wordAfter
  | .wordEnd => wordBefore && !wordAfter
  | .wordEdge => wordBefore != wordAfter
  | .notWordEdge => wordBefore == wordAfter

/-- The texts of groups, each with the text that is left where the group ends. -/
abbrev Groups := List (Nat × List Char)

/-- A place that a match has reached, with the texts of the groups so far, last one first, and
as they were when a group last matched some text. -/
structure Spot where
  place : Place
  groups : Groups
  settled : Groups
  deriving DecidableEq, Repr

/-- The form of a character that is compared. -/
def Mode.fold (m : Mode) (c : Char) : Char := if m.caseless then Text.toUpper c else c

/-- The place after a given text. -/
def follow? (m : Mode) : List Char → Place → Option Place
  | [], p => some p
  | x :: xs, p =>
      match p.after with
      | c :: rest => if m.fold c = m.fold x then follow? m xs (p.past c rest) else none
      | [] => none

/-- Sets the text of a group that began at a place. An empty text of a group that may be left
out does not replace an earlier one. -/
def Spot.close (s : Spot) (number : Nat) (optional : Bool) (start : Place) : Spot :=
  let groups := (number, start.upTo s.place) :: s.groups
  if start.left ≠ s.place.left then { s with groups, settled := groups }
  else if optional && (s.settled.lookup number).isSome then { s with groups := s.settled }
  else { s with groups }

/-- A place by what is left after it, with the texts of groups. -/
abbrev Key := Nat × List (Nat × String)

/-- What matters of a spot to what follows. Without mentions of groups, that is its place. -/
def Spot.key (mentions : Bool) (s : Spot) : Key :=
  (s.place.left, if mentions then s.groups.map fun g => (g.1, String.ofList g.2) else [])

/-- Drops the spots that are worse than an earlier one. -/
def prune (mentions : Bool) (seen : Std.HashSet Key) : List Spot → List Spot
  | [] => []
  | s :: rest =>
      let key := s.key mentions
      if seen.contains key then prune mentions seen rest
      else s :: prune mentions (seen.insert key) rest

/-- The spots that a repetition has reached, last one first, and what matters of those from
which it has gone on. -/
structure Trail where
  reached : List Spot := []
  seen : Std.HashSet Key := {}

/-- Goes on with a repetition from a spot. A further copy is preferred to the end of the
repetition, and a copy that reads nothing is the last. `fuel` bounds the number of copies. -/
def Trail.follow (mentions : Bool) (step : Spot → List Spot) : Nat → Trail → Spot → Trail
  | 0, trail, _ => trail
  | fuel + 1, trail, s =>
      if trail.seen.contains (s.key mentions) then trail
      else
        let start : Trail := { trail with seen := trail.seen.insert (s.key mentions) }
        let onward := (step s).foldl (fun trail t =>
          if t.place.left = s.place.left then
            { trail with reached := t :: trail.reached }
          else Trail.follow mentions step fuel trail t) start
        { onward with reached := s :: onward.reached }

namespace Pattern

/-- The spot after one character of a kind. -/
def readOne (s : Spot) (accepts : Char → Bool) : List Spot :=
  match s.place.after with
  | c :: rest => if accepts c then [{ s with place := s.place.past c rest }] else []
  | [] => []

/-- The spots where a match that begins at a spot can end, the preferred way first. -/
def ends (m : Mode) (mentions : Bool) : Pattern → Spot → List Spot
  | empty, s => [s]
  | char c, s => readOne s fun d => m.fold d = m.fold c
  | dot, s => readOne s fun c => !Characters.isStray c && !(m.byLines && c = '\n')
  | bracket b, s =>
      readOne s fun c => b.contains (m.fold c) && !(b.negated && m.byLines && c = '\n')
  | word negated, s => readOne s fun c => !Characters.isStray c && isWordChar c != negated
  | blank negated, s => readOne s fun c => !Characters.isStray c && isInClass "space" c != negated
  | condition c, s => if holds m c s.place then [s] else []
  | group n optional p, s => (p.ends m mentions s).map (·.close n optional s.place)
  | again n, s =>
      match s.groups.lookup n with
      | none => []
      | some text =>
          match follow? m text s.place with
          | some place => [{ s with place := place }]
          | none => []
  | seq p q, s => prune mentions {} ((p.ends m mentions s).flatMap (q.ends m mentions))
  | alt p q, s => prune mentions {} (p.ends m mentions s ++ q.ends m mentions s)
  | star p, s =>
      let trail := Trail.follow mentions (p.ends m mentions) (s.place.left + 1) {} s
      prune mentions {} trail.reached.reverse

end Pattern

/-- A pattern to search for, with the number of its groups. -/
structure Search where
  pattern : Pattern
  groups : Nat
  mode : Mode
  deriving Repr

namespace Search

/-- Whether the search goes byte by byte, so that it can find an empty match inside a
character. -/
def isBytewise (s : Search) : Bool := !s.mode.caseless && s.pattern.isBytewise

/-- The longest match that begins at a place. -/
def longest? (s : Search) (start : Place) : Option Spot :=
  (s.pattern.ends s.mode s.pattern.mentionsGroup ⟨start, [], []⟩).foldl
    (fun best t => match best with
      | none => some t
      | some b => if t.place.left < b.place.left then some t else best) none

/-- The first and longest match that begins at a place with a given text after it, or later:
where it begins and where it ends. -/
def findFrom (s : Search) (before : Option Char) (left : Nat) : List Char → Option (Place × Spot)
  | [] =>
      let p : Place := ⟨before, [], left⟩
      (s.longest? p).map fun t => (p, t)
  | c :: rest =>
      let p : Place := ⟨before, c :: rest, left⟩
      match s.longest? p with
      | some t => some (p, t)
      | none => s.findFrom (some c) (left - 1) rest

/-- The first and longest match from a place on. -/
def find? (s : Search) (p : Place) : Option (Place × Spot) := s.findFrom p.before p.left p.after

/-- Whether a text has a match. -/
def occurs (s : Search) (text : List Char) : Bool := (s.find? (.front text)).isSome

end Search

end Storyboard.Sed
