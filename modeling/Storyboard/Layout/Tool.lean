import Storyboard.Host.Basic
import Storyboard.Layout.Dot

/-!
# Layout tools

A layout engine may be a program of the host: the graph is written to its input as DOT text,
and positions are read from its output. The command is split at blanks into the program and
its arguments. The tool has to end successfully, answer in UTF-8, and place every node.
-/

namespace Storyboard.LayoutEngine

/-- Positions in the output of a tool, which have to cover the nodes of the graph. -/
def readPositions (g : LayoutGraph) (output : List UInt8) : Except LayoutError Positions :=
  match String.fromUTF8? ⟨output.toArray⟩ with
  | none => .error .notUtf8
  | some text =>
      let positions := Dot.positions text
      match g.nodes.find? fun n => !positions.contains n with
      | some missing => .error (.missingNode missing)
      | none => .ok positions

/-- Lays out a graph with a program of the host. A command has no character zero, which would
end its text early. -/
def tool (host : Host) (command : String) : LayoutEngine := fun g =>
  match Text.words command.toList with
  | [] => .error .emptyCommand
  | program :: args =>
      if command.toList.contains '\x00' then
        .error (.cannotRun command "nul byte found in provided data")
      else
        match host.program? (String.ofList program) with
        | none => .error (.cannotRun command "No such file or directory (os error 2)")
        | some run =>
            let result := run (args.map String.ofList) g.toDot.toUTF8.toList
            if result.status = 0 then readPositions g result.output
            else
              .error (.failed command ("exit status: " ++ toString result.status)
                (String.ofList (Text.trim result.errors.toList)))

end Storyboard.LayoutEngine
