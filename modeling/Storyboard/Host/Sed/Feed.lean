import Storyboard.Host.Path
import Storyboard.Host.Sed.Script

/-!
# Reading input

The lines of an input come from the files of a call, one after the other. Whatever holds data
is the input of the program, which several readers can share: each takes blocks of bytes from
it, and what one has taken ahead is lost to the others.
-/

namespace Storyboard.Sed

/-! ## Readers -/

/-- A reader, with what it has taken from the input ahead of time. -/
structure Reader where
  ready : List UInt8 := []
  /-- How many bytes are taken at a time. -/
  block : Nat := 4096
  deriving DecidableEq, Repr

/-- The bytes up to a delimiter, and what follows it. -/
def splitLine? (delimiter : UInt8) : List UInt8 → Option (List UInt8 × List UInt8)
  | [] => none
  | b :: rest =>
      if b = delimiter then some ([], rest)
      else (splitLine? delimiter rest).map fun (line, rest) => (b :: line, rest)

namespace Reader

/-- Takes a block from an input unless something is ready. -/
def fill (r : Reader) (input : List UInt8) : Reader × List UInt8 :=
  if r.ready.isEmpty then ({ r with ready := input.take r.block }, input.drop r.block)
  else (r, input)

/-- Takes a line, which has no delimiter if the input ends first. `fuel` bounds the number of
blocks. -/
def takeLineFrom (r : Reader) (delimiter : UInt8) :
    Nat → List UInt8 → Option (List UInt8 × Bool) × Reader × List UInt8
  | 0, input => (none, r, input)
  | fuel + 1, input =>
      match splitLine? delimiter r.ready with
      | some (line, rest) => (some (line, true), { r with ready := rest }, input)
      | none =>
          if input.isEmpty then
            (if r.ready.isEmpty then none else some (r.ready, false), { r with ready := [] }, [])
          else
            { r with ready := r.ready ++ input.take r.block }.takeLineFrom delimiter fuel
              (input.drop r.block)

/-- Takes a line, which has no delimiter if the input ends first. -/
def takeLine (r : Reader) (delimiter : UInt8) (input : List UInt8) :
    Option (List UInt8 × Bool) × Reader × List UInt8 :=
  r.takeLineFrom delimiter (input.length + 2) input

end Reader

/-! ## Files -/

/-- A file that is being read. -/
inductive Opened where
  | nothing
  /-- The input of the program under its own name. -/
  | standard
  /-- The input of the program by the path of its device. -/
  | device
  | directory (file : String)
  deriving DecidableEq, Repr

/-- The input of a run. -/
structure Feed where
  /-- What no reader has taken. -/
  input : List UInt8
  standard : Reader := {}
  device : Reader := {}
  opened : Opened := .nothing
  /-- The files that have not been opened. -/
  waiting : List String
  name : String := "-"
  /-- How many lines have been read. -/
  number : Nat := 0
  /-- Complaints about files, last one first. -/
  complaints : List String := []
  deriving Repr

/-- How files are opened and read. -/
structure FeedMode where
  delimiter : UInt8 := 10
  /-- Whether every file has a last line of its own. -/
  separate : Bool := false
  /-- Whether files are to be changed, which none of them can. -/
  inPlace : Bool := false
  unbuffered : Bool := false
  deriving DecidableEq, Repr

/-- An action on the input of a run, which may fail. -/
abbrev Feeding := EStateM ScriptError Feed

namespace Feed

/-- Opens a file; one that cannot be opened is complained about. -/
def openFile (m : FeedMode) (file : String) : Feeding Unit := do
  let block (r : Reader) : Reader := if m.unbuffered then { r with block := 1 } else r
  modify fun f => { f with name := file, opened := .nothing }
  if file = "-" && !m.inPlace then
    modify fun f => { f with opened := .standard, standard := block f.standard }
  else
    match Path.locate file with
    | .error e =>
        modify fun f =>
          { f with complaints := ("can't read " ++ file ++ ": " ++ e.message) :: f.complaints }
    | .ok place =>
        if m.inPlace then throw (.cannotEdit file)
        else if place = .inputDevice then
          modify fun f => { f with opened := .device, device := block {} }
        else if place.isDirectory then modify fun f => { f with opened := .directory file }

/-- Makes sure that the open file has something ready if it holds data. -/
def fill (f : Feed) : Feed :=
  match f.opened with
  | .standard =>
      let (r, input) := f.standard.fill f.input
      { f with standard := r, input := input }
  | .device =>
      let (r, input) := f.device.fill f.input
      { f with device := r, input := input }
  | _ => f

/-- Whether the open file has something ready. -/
def isReady (f : Feed) : Bool :=
  match f.opened with
  | .standard => !f.standard.ready.isEmpty
  | .device => !f.device.ready.isEmpty
  | _ => false

/-- Opens files until one holds data, and tells whether there is none. -/
def seekData (m : FeedMode) : List String → Feeding Bool
  | [] => do
      modify fun f => { f with opened := .nothing, waiting := [] }
      return true
  | file :: rest => do
      modify fun f => { f with waiting := rest }
      openFile m file
      modify fill
      if (← get).isReady then return false else seekData m rest

/-- Whether the last line has been read. -/
def atEnd (m : FeedMode) : Feeding Bool := do
  modify fill
  let f ← get
  if f.isReady then return false
  else if m.separate then return true
  else seekData m f.waiting

/-- A line that has been taken, without its delimiter, and whether it had one. -/
abbrev Taken := Option (List UInt8 × Bool)

/-- Takes a line of the input beside the files. -/
def takeBeside (m : FeedMode) : Feeding Taken :=
  modifyGet fun f =>
    let (line, r, input) := f.standard.takeLine m.delimiter f.input
    (line, { f with standard := r, input := input })

/-- Takes a line of the open file. -/
def takeLine (m : FeedMode) : Feeding Taken := do
  match (← get).opened with
  | .nothing => return none
  | .standard => takeBeside m
  | .device =>
      modifyGet fun f =>
        let (line, r, input) := f.device.takeLine m.delimiter f.input
        (line, { f with device := r, input := input })
  | .directory file => throw (.cannotRead file "Is a directory")

/-- Reads the next line, given the files that have not been opened. -/
def readLine (m : FeedMode) : List String → Feeding Taken
  | [] => takeLine m
  | file :: rest => do
      match ← takeLine m with
      | some line => return some line
      | none =>
          modify fun f => { f with waiting := rest }
          openFile m file
          readLine m rest

/-- Reads the next line and counts it. -/
def next (m : FeedMode) : Feeding Taken := do
  let line ← readLine m (← get).waiting
  if line.isSome then modify fun f => { f with number := f.number + 1 }
  return line

/-- Takes what no reader has taken. -/
def takeRest : Feeding (List UInt8) := modifyGet fun f => (f.input, { f with input := [] })

end Feed

end Storyboard.Sed
