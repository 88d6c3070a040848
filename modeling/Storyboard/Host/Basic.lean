import Storyboard.Host.Path

/-!
# Hosts

A script reaches outside its scene in two ways: it names asset files, and it may have a graph
laid out by a tool. A host says which files exist and which programs can be run; a program is
a function from its arguments and its input to its output, so running one changes nothing else.
-/

namespace Storyboard

/-- What a program leaves when it ends. -/
structure ProgramResult where
  /-- Zero for success. -/
  status : Nat
  output : List UInt8
  errors : String
  deriving DecidableEq, Repr

/-- A program reads its arguments and its input. -/
abbrev Program := List String → List UInt8 → ProgramResult

/-- The files and programs that a script can reach. -/
structure Host where
  fileExists : String → Bool
  program? : String → Option Program

namespace Host

/-- Looks for a file as given, then in each directory. -/
def findAsset? (h : Host) (file : String) (dirs : List String) : Option String :=
  if h.fileExists file then some file
  else (dirs.map fun d => Path.join d file).find? h.fileExists

end Host

end Storyboard
