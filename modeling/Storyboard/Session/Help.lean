/-!
# The command summary

One line for each form of each command, then two remarks on arguments. In a form, slots in
brackets may be left out, a bar separates alternatives, and dots stand for repetition.
-/

namespace Storyboard.Help

/-- The forms of the commands. -/
def forms : List String :=
  ["alpha (name|regexp) alpha",
   "animate (name|regexp) (x y|name[(+|-)dx(+|-)dy])",
   "attach (name|regexp) parent [dx dy]",
   "color (name|regexp) color",
   "define name bitmap file [(x y|name[(+|-)dx(+|-)dy])]",
   "define name box [-f color] [width height [color [(x y|name[(+|-)dx(+|-)dy])]]]",
   "define name ellipse [-f color] [rx ry [color [(x y|name[(+|-)dx(+|-)dy])]]]",
   "define name line [-ht] [start [end [width [color]]]]",
   "define name link src dst [width [color]]",
   "define name polygon [-f color] [-r degree] [n [r [color [(x y|name[(+|-)dx(+|-)dy])]]]]",
   "define name spline [-ht] [start [control [end [width [color]]]]]",
   "define name text [-lcr] [string [size [color [(x y|name[(+|-)dx(+|-)dy])]]]]",
   "define name wire [-ht] [start [end [width [color]]]]",
   "display",
   "fade (name|regexp)...",
   "fix (name|regexp)...",
   "hide (name|regexp)...",
   "kill (name|regexp)...",
   "move (name|regexp) (x y|name[(+|-)dx(+|-)dy])",
   "palette name (r g b [a]|0xRRGGBBAA)",
   "play file",
   "priority (name|regexp) level",
   "resize (name|regexp) (width height|name)",
   "scale (name|regexp) ratio",
   "shift (name|regexp) dx dy",
   "sleep seconds",
   "spring [-f command] [-r degree] (name|regexp)... [x1 y1 x2 y2]",
   "unhide (name|regexp)...",
   "wait"]

/-- Remarks that hold for all commands. -/
def remarks : List String :=
  ["Coordinates in [-1, 1] are fractions of the canvas; `-` names nothing,",
   "`--` names the last referenced object."]

/-- The command summary. -/
def text : String := String.join ((forms ++ [""] ++ remarks).map (· ++ "\n"))

end Storyboard.Help
