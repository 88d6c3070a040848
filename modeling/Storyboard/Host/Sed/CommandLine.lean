import Storyboard.Host.Basic
import Storyboard.Host.Options
import Storyboard.Host.Sed.Reader
import Storyboard.Host.Sed.Run

/-!
# Calling the line editor

The options of a call are carried out in their order: a script is read as soon as it is met,
with the options before it in force. Without a script among the options the first operand is
one; the other operands are files.
-/

namespace Storyboard.Sed

/-- The options of the program. Options without a letter are given capital ones that no letter
stands for. -/
def options : OptionTable where
  letters :=
    [('b', .none), ('s', .none), ('n', .none), ('r', .none), ('z', .none), ('u', .none),
     ('E', .none), ('e', .required), ('f', .required), ('l', .required), ('i', .optional),
     ('V', .required)]
  words :=
    [("binary", 'b', .none), ("regexp-extended", 'r', .none), ("debug", 'D', .none),
     ("expression", 'e', .required), ("file", 'f', .required), ("in-place", 'i', .optional),
     ("line-length", 'l', .required), ("null-data", 'z', .none), ("zero-terminated", 'z', .none),
     ("quiet", 'n', .none), ("posix", 'P', .none), ("silent", 'n', .none),
     ("sandbox", 'S', .none), ("separate", 's', .none), ("unbuffered", 'u', .none),
     ("version", 'H', .none), ("help", 'H', .none), ("follow-symlinks", 'b', .none)]

/-- Why a call does not come to a run. -/
inductive CallError where
  | option (e : ArgumentError)
  | noScript
  /-- Information about the program is asked for. -/
  | information
  | script (f : Failure)
  deriving DecidableEq, Repr

/-- How the program is to be called. -/
def usage : String := "Usage: sed [OPTION]... \x7bscript-only-if-no-other-script\x7d [input-file]..."

/-- What the program leaves if a call does not come to a run. -/
def CallError.result : CallError → ProgramResult
  | option e => ⟨1, [], "sed: " ++ e.message ++ "\n" ++ usage⟩
  | noScript => ⟨1, [], usage⟩
  | information => ⟨0, [], ""⟩
  | script f => ⟨f.status, [], "sed: " ++ f.message⟩

/-- What has been said on a command line. -/
structure Call where
  /-- What has not been read of the input. -/
  input : List UInt8
  reading : Reading := {}
  draft : Draft := {}
  /-- How many expressions have been read. -/
  expressions : Nat := 0
  hasScript : Bool := false
  place : String := ""
  quiet : Bool := false
  width : Nat := 70
  feed : FeedMode := {}

namespace Call

/-- Reads a script. -/
def readScript (c : Call) (naming : Naming) (script : List Char) : Except CallError Call :=
  match c.draft.read c.reading (!c.hasScript) naming script with
  | .ok draft => .ok { c with draft := draft, hasScript := true, place := naming.later [] }
  | .error f => .error (.script f)

/-- Reads an expression. Places in it are numbers of bytes; after it has been read, it is
mentioned without a place. -/
def readExpression (c : Call) (text : String) : Except CallError Call :=
  let number := c.expressions + 1
  let script := Characters.decode text.toUTF8.toList
  let size := Characters.length script
  let place (n : Nat) : String :=
    "-e expression #" ++ toString number ++ ", char " ++ toString n
  { c with expressions := number }.readScript
    ⟨fun rest => place (size - Characters.length rest), fun _ => place 0⟩ script

/-- Reads a script from a file. Places in it are lines. -/
def readFile (c : Call) (file : String) : Except CallError Call :=
  let refuse (e : PathError) : Except CallError Call :=
    .error (.script ⟨"", .cannotOpen file e.message⟩)
  let read (c : Call) (bytes : List UInt8) : Except CallError Call :=
    let script := Characters.decode bytes
    let breaks (cs : List Char) : Nat := cs.count '\n'
    let place (rest : List Char) : String :=
      "file " ++ file ++ " line " ++ toString (breaks script - breaks rest + 1)
    c.readScript ⟨place, place⟩ script
  if file = "-" then read { c with input := [] } c.input
  else
    match Path.locate file with
    | .error e => refuse e
    | .ok .inputDevice => read { c with input := [] } c.input
    | .ok _ => read c []

/-- The number at the front of an argument; one that is negative counts as zero. -/
def widthOf (argument : String) : Nat := (readDecimal (skipBlanks argument.toList)).1

/-- Carries out an option. -/
def obey (c : Call) : FoundOption → Except CallError Call
  | .error e => .error (.option e)
  | .ok (letter, argument) =>
      let argument := argument.getD ""
      match letter with
      | 'e' => c.readExpression argument
      | 'f' => c.readFile argument
      | 'n' => .ok { c with quiet := true }
      | 'E' | 'r' => .ok { c with reading := { c.reading with extended := true } }
      | 'S' => .ok { c with reading := { c.reading with sandbox := true } }
      | 'P' => .ok { c with reading := { c.reading with strict := false } }
      | 'l' => .ok { c with width := widthOf argument }
      | 's' => .ok { c with feed := { c.feed with separate := true } }
      | 'i' => .ok { c with feed := { c.feed with separate := true, inPlace := true } }
      | 'u' => .ok { c with feed := { c.feed with unbuffered := true } }
      | 'z' =>
          .ok { c with
            reading := { c.reading with lineFeeds := false }
            feed := { c.feed with delimiter := 0 } }
      | 'V' => .error .noScript
      | 'H' => .error .information
      | _ => .ok c

/-- Reads a command line: what it says, and its files. -/
def read (args : List String) (input : List UInt8) : Except CallError (Call × List String) := do
  let (found, operands) := options.read args
  let c ← found.foldlM obey { input }
  if c.hasScript then .ok (c, operands)
  else
    match operands with
    | [] => .error .noScript
    | text :: files => do
        let c ← c.readExpression text
        .ok (c, files)

/-- The script of a call, ready to run. -/
def job (c : Call) : Except CallError Job :=
  match c.draft.resolve with
  | .error f => .error (.script f)
  | .ok commands =>
      .ok {
        commands
        quiet := c.quiet || c.draft.quiet
        strict := !c.reading.strict
        feed := c.feed
        width := c.width
        place := c.place }

end Call

/-- Runs the program. -/
def run : Program := fun args input =>
  let ready := do
    let (c, files) ← Call.read args input
    let j ← c.job
    if files.isEmpty && c.feed.inPlace then .error (.script ⟨"", .noFiles⟩)
    .ok (j, j.start { input := c.input, waiting := if files.isEmpty then ["-"] else files })
  match ready with
  | .error e => e.result
  | .ok (j, m) =>
      let (status, m, messages) := match j.run m with
        | .ok status m => (status, m, [])
        | .error f m => (f.status, m, [f.message])
      let complaints := m.feed.complaints.reverse
      let status := if messages.isEmpty && !complaints.isEmpty then 2 else status
      let errors := (complaints ++ messages).map fun e => "sed: " ++ e
      ⟨status, Characters.encode m.printed.reverse.flatten, "\n".intercalate errors⟩

end Storyboard.Sed
