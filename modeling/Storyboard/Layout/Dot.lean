import Storyboard.Decimal.Numeral
import Storyboard.Layout.Graph
import Storyboard.Text.Blank

/-!
# Graphs as DOT text

Layout tools read a graph as DOT text and answer with DOT text in which every node has a `pos`
attribute. Names are written between quotes as they are. The reader looks only for attribute
lists: it cuts the text at closing brackets, takes the statement before each opening one, and
skips edges and default statements.
-/

namespace Storyboard

namespace LayoutGraph

/-- A name between quotes. -/
def dotName (name : String) : String := "\"" ++ name ++ "\""

/-- The statement of a node. -/
def dotNode (name : String) : String := "  " ++ dotName name ++ " [width=\"2\"];\n"

/-- The statement of an edge. -/
def dotEdge (edge : String × String) : String :=
  dotName edge.1 ++ " -- " ++ dotName edge.2 ++ ";\n"

/-- The graph as DOT text. -/
def toDot (g : LayoutGraph) : String :=
  "graph export \x7b\n" ++ String.join (g.nodes.map dotNode)
    ++ String.join (g.edges.map dotEdge) ++ "\x7d\n"

end LayoutGraph

namespace Dot

/-- Removes every occurrence of a text. -/
def removeAll (needle : List Char) : Nat → List Char → List Char
  | _, [] => []
  | 0, cs => cs
  | fuel + 1, c :: cs =>
      if needle.isPrefixOf (c :: cs) then removeAll needle fuel ((c :: cs).drop needle.length)
      else c :: removeAll needle fuel cs

/-- Joins lines that end in a backslash with the lines after them. -/
def joinLines (cs : List Char) : List Char :=
  let cs := removeAll ['\\', '\r', '\n'] cs.length cs
  removeAll ['\\', '\n'] cs.length cs

/-- The pieces of a text between characters that satisfy a test, empty ones included. -/
def splitAt (cut : Char → Bool) : List Char → List (List Char)
  | [] => [[]]
  | c :: cs => if cut c then [] :: splitAt cut cs else Text.growWord c (splitAt cut cs)

/-- The text before and after the last occurrence of a character. -/
def splitLast? (x : Char) (cs : List Char) : Option (List Char × List Char) :=
  let back := cs.reverse
  match back.dropWhile (· ≠ x) with
  | [] => none
  | _ :: front => some (front.reverse, (back.takeWhile (· ≠ x)).reverse)

/-- The text after the first occurrence of a text. -/
def after? (needle : List Char) : List Char → Option (List Char)
  | [] => if needle.isEmpty then some [] else none
  | c :: cs =>
      if needle.isPrefixOf (c :: cs) then some ((c :: cs).drop needle.length)
      else after? needle cs

/-- Whether a text occurs in another. -/
def mentions (needle cs : List Char) : Bool := (after? needle cs).isSome

/-- Drops a character from both ends as often as it occurs there. -/
def trimChar (x : Char) (cs : List Char) : List Char :=
  ((cs.dropWhile (· = x)).reverse.dropWhile (· = x)).reverse

/-- Reads one coordinate. -/
def coordinate? (cs : List Char) : Option Float := Decimal.numeral? (Text.trim cs)

/-- The position in an attribute list. -/
def position? (attributes : List Char) : Option Point := do
  let rest ← after? "pos=\"".toList attributes
  if !rest.contains '\x22' then none
  else
    let value := rest.takeWhile (· ≠ '\x22')
    let pinned := (value.reverse.dropWhile (· = '!')).reverse
    match splitAt (· = ',') pinned with
    | x :: y :: _ => do
        let x ← coordinate? x
        let y ← coordinate? y
        some ⟨x, y⟩
    | _ => none

/-- The last statement before an attribute list. -/
def statement (head : List Char) : List Char :=
  let ends (c : Char) : Bool := c = ';' || c = '{' || c = '\n'
  Text.trim ((splitAt ends head).getLast?.getD [])

/-- The node and position of a piece of text that ends at a closing bracket. -/
def node? (piece : List Char) : Option (String × Point) := do
  let (head, attributes) ← splitLast? '[' piece
  let s := statement head
  if mentions ['-', '-'] s || mentions ['-', '>'] s then none
  else
    let name := String.ofList (trimChar '\x22' s)
    if name = "" || name = "graph" || name = "node" || name = "edge" then none
    else do
      let pos ← position? attributes
      some (name, pos)

/-- The node positions in DOT text. A node mentioned again takes its later position. -/
def positions (dot : String) : Positions :=
  Table.ofList ((splitAt (· = ']') (joinLines dot.toList)).filterMap node?)

end Dot

end Storyboard
