import Storyboard.Host.Cat
import Storyboard.Host.Sed.CommandLine
import Storyboard.Host.Tr

/-!
# The standard host

A host with nothing but the paths that every host has and three text filters.
-/

namespace Storyboard.Host

/-- The standard host. -/
def standard : Host :=
  { fileExists := Path.isPlace
    program? := fun name => match name with
      | "cat" => some Cat.run
      | "sed" => some Sed.run
      | "tr" => some Tr.run
      | _ => none }

end Storyboard.Host
