import Storyboard.Host.Basic
import Storyboard.Host.Options
import Storyboard.Host.Quotation

/-!
# The program that concatenates files

The operands are copied to the output one after another; a dash, or no operand at all, stands
for the input, which can be read once. Options number the lines, squeeze blank ones and make
line ends and unprintable bytes visible. An operand that cannot be read is reported and
skipped.
-/

namespace Storyboard.Cat

/-! ## Options -/

/-- How the output is marked up. -/
structure Marks where
  /-- Whether lines are numbered, blank ones included. -/
  number : Bool := false
  /-- Whether lines that are not blank are numbered. -/
  numberFilled : Bool := false
  /-- Whether repeated blank lines are squeezed. -/
  squeeze : Bool := false
  showEnds : Bool := false
  showTabs : Bool := false
  showControls : Bool := false
  deriving DecidableEq, Repr

/-- The options of the program. -/
def options : OptionTable where
  letters := "AbeEnstTuv".toList.map fun c => (c, .none)
  words :=
    [("number-nonblank", 'b', .none), ("number", 'n', .none), ("squeeze-blank", 's', .none),
     ("show-nonprinting", 'v', .none), ("show-ends", 'E', .none), ("show-tabs", 'T', .none),
     ("show-all", 'A', .none), ("help", 'h', .none), ("version", 'h', .none)]

/-- Why a call does not come to copying. -/
inductive CallError where
  | option (e : ArgumentError)
  /-- Information about the program is asked for. -/
  | information
  deriving DecidableEq, Repr

/-- What the program leaves if a call does not come to copying. -/
def CallError.result : CallError → ProgramResult
  | option e => ⟨1, [], "cat: " ++ e.message ++ "\nTry 'cat --help' for more information."⟩
  | information => ⟨0, [], ""⟩

/-- Sets the option of a letter. -/
def Marks.set (m : Marks) : FoundOption → Except CallError Marks
  | .error e => .error (.option e)
  | .ok (letter, _) =>
      match letter with
      | 'A' => .ok { m with showControls := true, showEnds := true, showTabs := true }
      | 'b' => .ok { m with numberFilled := true }
      | 'e' => .ok { m with showControls := true, showEnds := true }
      | 'E' => .ok { m with showEnds := true }
      | 'h' => .error .information
      | 'n' => .ok { m with number := true }
      | 's' => .ok { m with squeeze := true }
      | 't' => .ok { m with showControls := true, showTabs := true }
      | 'T' => .ok { m with showTabs := true }
      | 'v' => .ok { m with showControls := true }
      | _ => .ok m

/-! ## Copying -/

/-- A complaint about an operand. -/
def complaint (file reason : String) : String :=
  "cat: " ++ Quotation.asWord file ++ ": " ++ reason

/-- Copies the operands, given the input that has not been read yet. -/
def copy (input : List UInt8) : List String → List UInt8 × List String
  | [] => ([], [])
  | file :: rest =>
      let place := if file = "-" then .ok .inputDevice else Path.locate file
      match place with
      | .error e =>
          let (output, errors) := copy input rest
          (output, complaint file e.message :: errors)
      | .ok .inputDevice =>
          let (output, errors) := copy [] rest
          (input ++ output, errors)
      | .ok place =>
          let (output, errors) := copy input rest
          if place.isDirectory then (output, complaint file "Is a directory" :: errors)
          else (output, errors)

/-- A byte as its number shows it: control bytes by a caret and a letter, bytes above ASCII by
`M-` and what the lower seven bits show. -/
def visible (b : UInt8) : List UInt8 :=
  let caret (b : UInt8) : List UInt8 :=
    if b = 127 then [94, 63] else if b < 32 then [94, b + 64] else [b]
  if b < 128 then caret b else [77, 45] ++ caret (b - 128)

/-- A line with its unprintable bytes made visible. -/
def showLine (m : Marks) (line : List UInt8) : List UInt8 :=
  line.flatMap fun b =>
    if b = 9 then (if m.showTabs then [94, 73] else [b])
    else if m.showControls then visible b
    else [b]

/-- The end of a line that has a line feed. A carriage return before it is made visible together
with it. -/
def showEnd (m : Marks) (line : List UInt8) : List UInt8 :=
  if !m.showEnds then line ++ [10]
  else if !m.showControls && line.getLast? == some 13 then line.dropLast ++ [94, 77, 36, 10]
  else line ++ [36, 10]

/-- The number of a line, set to the right of six columns. -/
def lineNumber (n : Nat) : List UInt8 :=
  let digits := (toString n).toUTF8.toList
  List.replicate (6 - digits.length) 32 ++ digits ++ [9]

/-- Marks up lines of which the last one, if it is not empty, has no line feed. -/
def markLines (m : Marks) (next : Nat) (afterBlank : Bool) : List (List UInt8) → List UInt8
  | [] => []
  | line :: rest =>
      let isLast := rest.isEmpty
      let blank := line.isEmpty && !isLast
      if isLast && line.isEmpty then []
      else if blank && afterBlank && m.squeeze then markLines m next true rest
      else
        let numbered := if m.numberFilled then !blank else m.number
        let front := if numbered then lineNumber next else []
        let shown := showLine m line
        front ++ (if isLast then shown else showEnd m shown)
          ++ markLines m (if numbered then next + 1 else next) blank rest

/-- The pieces of a text between line feeds. -/
def pieces : List UInt8 → List (List UInt8)
  | [] => [[]]
  | b :: rest =>
      if b = 10 then [] :: pieces rest
      else
        match pieces rest with
        | [] => [[b]]
        | p :: ps => (b :: p) :: ps

/-- Runs the program. -/
def run : Program := fun args input =>
  let (found, operands) := options.read args
  match found.foldlM Marks.set {} with
  | .error e => e.result
  | .ok m =>
      let (output, errors) := copy input (if operands.isEmpty then ["-"] else operands)
      ⟨if errors.isEmpty then 0 else 1, markLines m 1 false (pieces output),
        "\n".intercalate errors⟩

end Storyboard.Cat
