import Storyboard.Text.Bytes

/-!
# Paths

Asset files and the operands of programs are looked up by path. The places that any host
offers are the root directory with the usual directories below it, the device directory with
its devices, and the working directory with the directories above it; no other name is assumed
to exist. A path is resolved piece by piece, and both a piece and a whole path have a greatest
length.
-/

namespace Storyboard

/-- A place in the file system. -/
inductive Location where
  | root
  | devices
  | nullDevice
  /-- The device through which the input of a program is read. -/
  | inputDevice
  /-- A device whose content does not matter. -/
  | otherDevice
  /-- A directory below the root whose content does not matter. -/
  | directory
  /-- The working directory, or the directory a number of levels above it. -/
  | working (up : Nat)
  deriving DecidableEq, Repr

/-- Why a path denotes no place. -/
inductive PathError where
  | notFound
  | notDirectory
  | tooLong
  deriving DecidableEq, Repr

/-- The wording of a path that denotes no place. -/
def PathError.message : PathError → String
  | notFound => "No such file or directory"
  | notDirectory => "Not a directory"
  | tooLong => "File name too long"

namespace Location

/-- Whether the place can be entered. -/
def isDirectory : Location → Bool
  | nullDevice | inputDevice | otherDevice => false
  | _ => true

/-- The directory a number of levels above the working directory. Sixteen levels up there is
nothing but the root. -/
def above (up : Nat) : Location := if up < 16 then working up else root

/-- The directory above a directory. -/
def parent : Location → Location
  | working up => above (up + 1)
  | _ => root

/-- The usual directories below the root. -/
def isUsual (name : String) : Bool :=
  ["bin", "etc", "home", "lib", "media", "mnt", "opt", "proc", "root", "run", "sbin", "srv",
    "sys", "tmp", "usr", "var"].contains name

/-- The devices that any host has. -/
def device? (name : String) : Option Location :=
  match name with
  | "null" => some nullDevice
  | "stdin" => some inputDevice
  | "full" | "random" | "stderr" | "stdout" | "tty" | "urandom" | "zero" => some otherDevice
  | _ => none

/-- Follows one piece of a path. -/
def enter (l : Location) (piece : List Char) : Except PathError Location :=
  if !l.isDirectory then .error .notDirectory
  else if piece = [] ∨ piece = ['.'] then .ok l
  else if piece = ['.', '.'] then .ok l.parent
  else if 255 < Text.byteLength piece then .error .tooLong
  else
    let name := String.ofList piece
    match l with
    | root =>
        if name = "dev" then .ok devices
        else if isUsual name then .ok directory
        else .error .notFound
    | devices => ((device? name).map Except.ok).getD (.error .notFound)
    | _ => .error .notFound

end Location

namespace Path

/-- Whether a path starts at the root. -/
def isAbsolute (path : String) : Bool := path.toList.head? == some '/'

/-- The pieces of a path between slashes. -/
def pieces : List Char → List (List Char)
  | [] => [[]]
  | c :: cs =>
      if c = '/' then [] :: pieces cs
      else
        match pieces cs with
        | [] => [[c]]
        | p :: ps => (c :: p) :: ps

/-- The number of bytes from which on a path is too long. -/
def lengthLimit : Nat := 4096

/-- The place that a path denotes, or why there is none. -/
def locate (path : String) : Except PathError Location :=
  let cs := path.toList
  if cs.isEmpty || cs.contains '\x00' then .error .notFound
  else if lengthLimit ≤ Text.byteLength cs then .error .tooLong
  else
    let start := if isAbsolute path then Location.root else Location.working 0
    (pieces cs).foldlM Location.enter start

/-- Whether a path denotes a place. -/
def isPlace (path : String) : Bool := (locate path).isOk

/-- Appends a path to a directory; an absolute path stands alone. -/
def join (dir file : String) : String :=
  if isAbsolute file || dir.isEmpty then file
  else if dir.toList.getLast? == some '/' then dir ++ file
  else dir ++ "/" ++ file

end Path

end Storyboard
