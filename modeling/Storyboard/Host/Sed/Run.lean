import Storyboard.Host.Sed.Feed
import Storyboard.Host.Sed.Substitution

/-!
# Running scripts

A run reads a line, carries out the commands on it, prints what has become of it, and goes on
with the next line. A second text is held beside the current one, and texts can be put off until
the line is finished. Commands are carried out in order except for jumps and blocks; since a
script may jump for ever, a run is cut off after a great number of steps.

Main definitions:

- `Machine`: what a run remembers.
- `perform`: one command.
- `runFrom`: the commands from a place on, and the lines after the current one.
-/

namespace Storyboard.Sed

/-! ## State -/

/-- A script that is ready to run, with what has been said about it on the command line. -/
structure Job where
  commands : Array Command
  quiet : Bool := false
  /-- Whether the rules of the standard are kept to the letter. -/
  strict : Bool := false
  feed : FeedMode := {}
  /-- The length at which listed lines are folded. -/
  width : Nat := 70
  /-- The place that a refusal during the run names. -/
  place : String := ""

/-- A text with the mark whether its line was ended by a delimiter. -/
structure Line where
  text : List Char := []
  ended : Bool := true
  deriving DecidableEq, Repr

/-- What is put off until a line is finished. -/
inductive Deferred where
  | text (t : List Char)
  | file (s : Source)
  deriving DecidableEq, Repr

/-- How far the range of a command has come. -/
inductive RangeState where
  | waiting
  /-- The range is open, up to a line with a number if that is known. -/
  | opened (limit : Nat)
  | closed
  deriving DecidableEq, Repr

/-- What a run remembers. -/
structure Machine where
  feed : Feed
  line : Line := {}
  held : Line := {}
  replaced : Bool := false
  lastSearch : Option Search := none
  /-- Whether the last search was that of an address, so that its groups have not been used. -/
  lastIsAddress : Bool := false
  ranges : Array RangeState
  /-- What has been put off, last one first. -/
  deferred : List Deferred := []
  /-- What has been printed, last piece first. -/
  printed : List (List Char) := []
  /-- Whether the output lacks the delimiter of its last line. -/
  owed : Bool := false
  /-- The same of the output as a file of the script. -/
  owedBeside : Bool := false
  deriving Repr

/-- An action of a run, which may fail. -/
abbrev Editing := EStateM Failure Machine

namespace Job

/-- Fails at the place of the script that refusals during the run name. -/
def refuse {α : Type} (j : Job) (e : ScriptError) : Editing α := throw ⟨j.place, e⟩

/-- An action on the input. -/
def feeding {α : Type} (j : Job) (act : Feeding α) : Editing α := fun m =>
  match act m.feed with
  | .ok a f => .ok a { m with feed := f }
  | .error e f => .error ⟨j.place, e⟩ { m with feed := f }

/-- The delimiter of lines. -/
def delimiter (j : Job) : Char := Char.ofNat j.feed.delimiter.toNat

/-! ## Printing -/

/-- Adds a delimiter that is owed. -/
def settle (j : Job) (m : Machine) : Machine :=
  if m.owed then { m with printed := [j.delimiter] :: m.printed, owed := false } else m

/-- Prints a text as it is. -/
def printText (j : Job) (text : List Char) : Editing Unit :=
  modify fun m =>
    let m := j.settle m
    { m with printed := text :: m.printed }

/-- Prints a line. -/
def printLine (j : Job) (line : Line) : Editing Unit := do
  j.printText (if line.ended then line.text ++ [j.delimiter] else line.text)
  modify fun m => { m with owed := !line.ended }

/-- Writes a line to a file. -/
def writeLine (j : Job) (t : Target) (line : Line) : Editing Unit :=
  match t with
  | .elsewhere => pure ()
  | .input => do
      if !line.text.isEmpty || line.ended then
        j.refuse (.cannotWrite (max 1 (Characters.length line.text)))
  | .output =>
      modify fun m =>
        let front := if m.owedBeside then [j.delimiter] else []
        let back := if line.ended then [j.delimiter] else []
        { m with
          printed := (front ++ line.text ++ back) :: m.printed
          owedBeside := !line.ended }

/-- Prints the current line at its end. -/
def printAtEnd (j : Job) : Editing Unit := do
  if !j.quiet then j.printLine (← get).line

/-- The first part of the current text, up to a delimiter. -/
def firstPart (j : Job) (line : Line) : Line :=
  if line.text.contains j.delimiter then ⟨line.text.takeWhile (· ≠ j.delimiter), true⟩ else line

/-- Prints one thing that has been put off. -/
def printDeferred (j : Job) : Deferred → Editing Unit
  | .text t => j.printText t
  | .file .nothing => j.printText []
  | .file .input => do
      let bytes ← j.feeding Feed.takeRest
      j.printText (Characters.decode bytes)
  | .file (.unreadable file reason) => j.refuse (.cannotRead file reason)

/-- Prints what has been put off. -/
def flush (j : Job) : Editing Unit := do
  let waiting := (← get).deferred.reverse
  modify fun m => { m with deferred := [] }
  waiting.forM j.printDeferred

/-- A character in a listing. -/
def listed (c : Char) : List Char :=
  match c with
  | '\\' => ['\\', '\\']
  | '\x07' => ['\\', 'a']
  | '\x08' => ['\\', 'b']
  | '\x0c' => ['\\', 'f']
  | '\n' => ['\\', 'n']
  | '\r' => ['\\', 'r']
  | '\t' => ['\\', 't']
  | '\x0b' => ['\\', 'v']
  | c => if ' ' ≤ c && c ≤ '~' then [c] else []

/-- A byte in a listing. -/
def listedByte (b : UInt8) : List Char :=
  let n := b.toNat
  match listed (Char.ofNat n) with
  | [] => '\\' :: [n / 64, n / 8 % 8, n % 8].map fun d => Char.ofNat (d + 48)
  | cs => cs

/-- Folds a listing, given the number of characters in the current row. A row has one character
less than the width, which is left to the mark of folding; a width of zero folds nothing. -/
def fold (j : Job) (width column : Nat) : List (List Char) → List Char
  | [] => ['$', j.delimiter]
  | cs :: rest =>
      if 0 < width && width - 1 < column + cs.length then
        '\\' :: j.delimiter :: cs ++ j.fold width cs.length rest
      else cs ++ j.fold width (column + cs.length) rest

/-- A line in which everything can be seen. -/
def listing (j : Job) (width : Nat) (line : Line) : List Char :=
  j.fold width 0 ((Characters.encode line.text).map listedByte)

/-! ## Reading -/

/-- Reads the next line into the current text, or behind it. -/
def readLine (j : Job) (behind : Bool) : Editing Bool := do
  j.flush
  modify fun m => { m with replaced := false }
  match ← j.feeding (Feed.next j.feed) with
  | none => return false
  | some (bytes, ended) =>
      let text := Characters.decode bytes
      modify fun m => { m with line := ⟨if behind then m.line.text ++ text else text, ended⟩ }
      return true

/-- Whether no more line is left. -/
def atEnd (j : Job) : Editing Bool := j.feeding (Feed.atEnd j.feed)

/-! ## Selecting lines -/

/-- The search that is meant: without a pattern, the last one. -/
def search (j : Job) (s : Option Search) (isAddress : Bool) : Editing Search := do
  match s, (← get).lastSearch with
  | some s, _ =>
      modify fun m => { m with lastSearch := some s, lastIsAddress := isAddress }
      return s
  | none, some s => return s
  | none, none => j.refuse .noPattern

/-- Whether an address names the current line. -/
def isNamed (j : Job) (a : Address) : Editing Bool := do
  let number := (← get).feed.number
  match a with
  | .line n => return n == number
  | .step first every =>
      return if every = 0 then first == number
        else first ≤ number && (number - first) % every == 0
  | .last => j.atEnd
  | .matching s => do
      let s ← j.search s true
      return s.occurs (← get).line.text

/-- Sets the range state of a command. -/
def setRange (i : Nat) (r : RangeState) : Editing Unit :=
  modify fun m => { m with ranges := m.ranges.setIfInBounds i r }

/-- Whether a range that is not open starts at the current line. A range that starts at a line
with a number starts once, and later if that line has not been met. -/
def startsRange (j : Job) (state : RangeState) (start : Address) (finish : RangeEnd) :
    Editing Bool := do
  let number := (← get).feed.number
  match start with
  | .line n =>
      let isMissed := match finish with
        | .at (.line last) => n < number && last < number
        | _ => false
      return n ≤ number && state != .closed && !isMissed
  | a => j.isNamed a

/-- The state of a range that has started at the current line. -/
def rangeAfterStart (j : Job) (finish : RangeEnd) : Editing RangeState := do
  let number := (← get).feed.number
  match finish with
  | .at (.line n) => return if n ≤ number then .closed else .opened n
  | .after n => return if n = 0 then .closed else .opened (number + n)
  | .multiple n => return if n = 0 then .closed else .opened ((number / n + 1) * n)
  | .at (.matching _) => return .opened 0
  | .at a => return if ← j.isNamed a then .closed else .opened 0

/-- Whether a range takes in the current line. -/
def isInRange (j : Job) (i : Nat) (start : Address) (finish : RangeEnd) : Editing Bool := do
  let m ← get
  let number := m.feed.number
  match (m.ranges[i]?).getD .waiting with
  | .opened limit =>
      match finish with
      | .at (.line n) =>
          if n ≤ number then setRange i .closed
          return number ≤ n
      | .after _ | .multiple _ =>
          if limit ≤ number then setRange i .closed
          return true
      | .at a =>
          if ← j.isNamed a then setRange i .closed
          return true
  | state =>
      if ← j.startsRange state start finish then
        setRange i (← j.rangeAfterStart finish)
        return true
      else return false

/-- Whether a command applies to the current line. -/
def isSelected (j : Job) (i : Nat) (c : Command) : Editing Bool := do
  let inside ← match c.selection with
    | .every => pure true
    | .one (.line 0) => pure ((← get).feed.number == 1)
    | .one a => j.isNamed a
    | .range start finish => j.isInRange i start finish
  return inside != c.negated

/-! ## Commands -/

/-- What happens after a command. -/
inductive Flow where
  | goOn
  | jump (place : Nat)
  /-- The line is finished. -/
  | finish (print : Bool)
  /-- The commands begin again without another line. -/
  | restart
  | quit (status : Nat) (print : Bool)
  deriving DecidableEq, Repr

/-- Substitutes in the current text. -/
def substitute (j : Job) (t : Substitution) : Editing Unit := do
  let s ← j.search t.search false
  if (← get).lastIsAddress && s.groups < t.greatest then j.refuse (.badReference t.greatest)
  modify fun m => { m with lastIsAddress := false }
  match t.replace? s (← get).line.text with
  | none => pure ()
  | some text => do
      let text := if t.run then [] else text
      modify fun m => { m with line := { m.line with text := text }, replaced := true }
      if t.print then j.printLine (← get).line
      match t.target with
      | some target => j.writeLine target (← get).line
      | none => pure ()

/-- Puts something off until the line is finished. -/
def defer (d : Deferred) : Editing Unit :=
  modify fun m => { m with deferred := d :: m.deferred }

/-- Reads a line beside the input, and puts it off. -/
def deferLine (j : Job) : Source → Editing Unit
  | .nothing => pure ()
  | .unreadable file reason => j.refuse (.cannotRead file reason)
  | .input => do
      match ← j.feeding (Feed.takeBeside j.feed) with
      | none => pure ()
      | some (bytes, ended) =>
          let text := Characters.decode bytes
          defer (.text (if ended then text ++ [j.delimiter] else text))

/-- Text that ends in a line feed, with the delimiter of lines instead. -/
def delimited (j : Job) (text : List Char) : List Char :=
  if text.isEmpty then [] else text.dropLast ++ [j.delimiter]

/-- Carries out a command. -/
def perform (j : Job) (i : Nat) (c : Command) : Editing Flow := do
  let m ← get
  match c.edit with
  | .block _ | .mark => return .goOn
  | .jump .always place => return .jump place
  | .jump .ifReplaced place =>
      set { m with replaced := false }
      return if m.replaced then .jump place else .goOn
  | .jump .unlessReplaced place =>
      set { m with replaced := false }
      return if m.replaced then .goOn else .jump place
  | .append text =>
      defer (.text text)
      return .goOn
  | .insert text =>
      j.printText (j.delimited text)
      return .goOn
  | .change text =>
      let isOpen := match m.ranges[i]? with
        | some (.opened _) => true
        | _ => false
      if !isOpen then j.printText (j.delimited text)
      return .finish false
  | .substitute t =>
      j.substitute t
      return .goOn
  | .transliterate pairs =>
      let text := m.line.text.map fun x => (pairs.lookup x).getD x
      set { m with line := { m.line with text := text } }
      return .goOn
  | .print =>
      j.printLine m.line
      return .goOn
  | .printFirst =>
      j.printLine (j.firstPart m.line)
      return .goOn
  | .delete => return .finish false
  | .deleteFirst =>
      if m.line.text.contains j.delimiter then
        let text := (m.line.text.dropWhile (· ≠ j.delimiter)).drop 1
        set { m with line := { m.line with text := text } }
        return .restart
      else return .finish false
  | .next =>
      if ← j.atEnd then return .finish !j.strict
      else
        j.printAtEnd
        return if ← j.readLine false then .goOn else .finish false
  | .join =>
      if ← j.atEnd then return .finish !j.strict
      else
        modify fun m =>
          { m with line := { m.line with text := m.line.text ++ [j.delimiter] } }
        return if ← j.readLine true then .goOn else .finish false
  | .hold =>
      set { m with held := m.line }
      return .goOn
  | .holdMore =>
      set { m with held := ⟨m.held.text ++ j.delimiter :: m.line.text, m.line.ended⟩ }
      return .goOn
  | .recall =>
      set { m with line := m.held }
      return .goOn
  | .recallMore =>
      set { m with line := ⟨m.line.text ++ j.delimiter :: m.held.text, m.held.ended⟩ }
      return .goOn
  | .exchange =>
      set { m with line := m.held, held := m.line }
      return .goOn
  | .clear =>
      set { m with line := { m.line with text := [] } }
      return .goOn
  | .number =>
      j.printText ((toString m.feed.number).toList ++ [j.delimiter])
      return .goOn
  | .fileName =>
      j.printText (m.feed.name.toList ++ [j.delimiter])
      return .goOn
  | .list width =>
      j.printText (j.listing (width.getD j.width) m.line)
      return .goOn
  | .quit status => return .quit status true
  | .quitSilently status => return .quit status false
  | .readFile s =>
      match c.selection with
      | .one (.line 0) => j.printDeferred (.file s)
      | _ => defer (.file s)
      return .goOn
  | .readLine s =>
      j.deferLine s
      return .goOn
  | .write t =>
      j.writeLine t m.line
      return .goOn
  | .writeFirst t =>
      j.writeLine t (j.firstPart m.line)
      return .goOn
  | .run command =>
      if command.isEmpty then set { m with line := { m.line with text := [] } }
      return .goOn
  | .unsupported c => j.refuse (.unsupported c)

/-- What happens after a command that does not apply to the current line. -/
def pass (c : Command) : Flow :=
  match c.edit with
  | .block finish => .jump finish
  | _ => .goOn

/-! ## Runs -/

/-- Carries out the commands from a place on, then goes on with the next lines; the answer is
the status. `fuel` bounds the steps. -/
def runFrom (j : Job) : Nat → Nat → Editing Nat
  | 0, _ => return 0
  | fuel + 1, place => do
      let flow ← match j.commands[place]? with
        | none => pure (.finish true)
        | some c =>
            if ← j.isSelected place c then j.perform place c else pure (pass c)
      match flow with
      | .goOn => j.runFrom fuel (place + 1)
      | .jump place => j.runFrom fuel place
      | .restart =>
          j.flush
          j.runFrom fuel 0
      | .finish print =>
          if print then j.printAtEnd
          if ← j.readLine false then j.runFrom fuel 0 else return 0
      | .quit status print =>
          if print then
            j.printAtEnd
            modify j.settle
            j.flush
          return status

/-- The greatest number of steps of a run. -/
def stepLimit : Nat := 10000000

/-- Runs a script on an input. -/
def run (j : Job) : Editing Nat := do
  if ← j.readLine false then j.runFrom stepLimit 0 else return 0

/-- The state before a run: a range that starts at line zero is open. -/
def start (j : Job) (feed : Feed) : Machine :=
  let ranges := j.commands.map fun c =>
    match c.selection with
    | .range (.line 0) _ => .opened 0
    | _ => .waiting
  { feed, ranges }

end Job

end Storyboard.Sed
