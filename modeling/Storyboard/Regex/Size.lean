import Storyboard.Regex.Expr

/-!
# The size of an expression

An expression is rejected if the automaton that recognizes it would take more than ten
mebibytes. The size is computed and no automaton is built: every state takes 32 bytes, a branch
takes four more for each way out, and a set eight more for each of its ranges. A repetition
has its states once for every copy that its bounds ask for. Groups are listed apart from the
states: sixteen bytes for each up to the last one, and a name takes its length and four.
-/

namespace Storyboard.Regex

/-- The size of a state. -/
def stateSize : Nat := 32

/-- The size of a state that branches a number of ways. -/
def branchSize (ways : Nat) : Nat := stateSize + 4 * ways

/-- The size of a state that reads a character of a set. -/
def setSize (s : CharSet) : Nat := stateSize + 8 * s.ranges.length

/-- The size of the states of a repetition whose single copy has a given size. Copies that may
be left out each begin with a branch. -/
def repetitionSize (least : Nat) (most : Option Nat) (copy : Nat) (matchesEmpty : Bool) : Nat :=
  match most with
  | none =>
      if least = 0 then
        if matchesEmpty then copy + 2 * branchSize 2 + stateSize else copy + branchSize 2
      else least * copy + branchSize 2
  | some most =>
      let required := if least = 0 then stateSize else least * copy
      if least = 0 ∧ most = 1 then copy + branchSize 2 + stateSize
      else if least = most then required
      else required + stateSize + (most - least) * (copy + branchSize 2)

mutual

/-- The size of the states of an expression. -/
def statesSize : Regex → Nat
  | empty => stateSize
  | char _ => stateSize
  | set s => setSize s
  | anchor _ => stateSize
  | group _ _ content => content.statesSize + 2 * stateSize
  | sequence parts => statesSizeOfAll parts
  | choice alternatives =>
      statesSizeOfAll alternatives + branchSize alternatives.length + stateSize
  | repetition least most sub => repetitionSize least most sub.statesSize sub.matchesEmpty

/-- The size of the states of every expression of a list. -/
def statesSizeOfAll : List Regex → Nat
  | [] => 0
  | r :: rest => r.statesSize + statesSizeOfAll rest

end

mutual

/-- The greatest number of a group, or zero. -/
def lastGroup : Regex → Nat
  | empty => 0
  | char _ => 0
  | set _ => 0
  | anchor _ => 0
  | group index _ content => max index content.lastGroup
  | sequence parts => lastGroupOfAll parts
  | choice alternatives => lastGroupOfAll alternatives
  | repetition _ _ sub => sub.lastGroup

/-- The greatest number of a group in a list of expressions, or zero. -/
def lastGroupOfAll : List Regex → Nat
  | [] => 0
  | r :: rest => max r.lastGroup (lastGroupOfAll rest)

end

mutual

/-- The size of the names of all groups. -/
def namesSize : Regex → Nat
  | empty => 0
  | char _ => 0
  | set _ => 0
  | anchor _ => 0
  | group _ name content =>
      content.namesSize + match name with
        | some name => name.utf8ByteSize + 4
        | none => 0
  | sequence parts => namesSizeOfAll parts
  | choice alternatives => namesSizeOfAll alternatives
  | repetition _ _ sub => sub.namesSize

/-- The size of the names of all groups in a list of expressions. -/
def namesSizeOfAll : List Regex → Nat
  | [] => 0
  | r :: rest => r.namesSize + namesSizeOfAll rest

end

/-- The size of an expression: its states between those that begin, end and accept a match, the
list of groups, of which the whole match is the first, and the names. -/
def size (r : Regex) : Nat :=
  r.statesSize + 3 * stateSize + 16 * (r.lastGroup + 1) + r.namesSize

/-- The greatest size that is accepted. -/
def sizeLimit : Nat := 10485760

end Storyboard.Regex
