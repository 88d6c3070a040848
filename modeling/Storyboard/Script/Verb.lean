/-!
# Verbs

The twenty-one commands of the script language. A command word is a verb in full or any
abbreviation of it that is at least as long as the verb's shortest unambiguous one, in any
letter case.
-/

namespace Storyboard

/-- The commands of the script language. -/
inductive Verb where
  | alpha
  | animate
  | attach
  | color
  | define
  | display
  | fade
  | fix
  | hide
  | kill
  | move
  | palette
  | play
  | priority
  | resize
  | scale
  | shift
  | sleep
  | spring
  | unhide
  | wait
  deriving DecidableEq, Repr

namespace Verb

/-- The full spelling. -/
def name : Verb → String
  | alpha => "alpha"
  | animate => "animate"
  | attach => "attach"
  | color => "color"
  | define => "define"
  | display => "display"
  | fade => "fade"
  | fix => "fix"
  | hide => "hide"
  | kill => "kill"
  | move => "move"
  | palette => "palette"
  | play => "play"
  | priority => "priority"
  | resize => "resize"
  | scale => "scale"
  | shift => "shift"
  | sleep => "sleep"
  | spring => "spring"
  | unhide => "unhide"
  | wait => "wait"

/-- The shortest abbreviation that selects the verb. -/
def shortest : Verb → String
  | alpha => "al"
  | animate => "an"
  | attach => "at"
  | color => "c"
  | define => "de"
  | display => "di"
  | fade => "fa"
  | fix => "fi"
  | hide => "h"
  | kill => "k"
  | move => "m"
  | palette => "pa"
  | play => "pl"
  | priority => "pr"
  | resize => "r"
  | scale => "sc"
  | shift => "sh"
  | sleep => "sl"
  | spring => "sp"
  | unhide => "u"
  | wait => "w"

/-- Every verb, in alphabetical order. -/
def all : List Verb :=
  [alpha, animate, attach, color, define, display, fade, fix, hide, kill, move, palette,
   play, priority, resize, scale, shift, sleep, spring, unhide, wait]

/-- Whether a lower-case word abbreviates the verb at all. -/
def startsWith (v : Verb) (word : List Char) : Bool := word.isPrefixOf v.name.toList

/-- Whether a lower-case word selects the verb. -/
def selectedBy (v : Verb) (word : List Char) : Bool :=
  v.shortest.toList.length ≤ word.length && v.startsWith word

/-- The verbs that a word which selects none may have been meant for. -/
def candidates (word : List Char) : List Verb :=
  if word.isEmpty then [] else all.filter (·.startsWith word)

/-- The verb that a word selects, without regard to letter case. -/
def ofWord? (word : List Char) : Option Verb := all.find? (·.selectedBy (word.map Char.toLower))

end Verb

end Storyboard
