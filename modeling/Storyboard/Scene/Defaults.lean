/-!
# Default settings

What a scene and the objects in it use where a script says nothing. Sizes are in pixels;
positions are fractions of the canvas.
-/

namespace Storyboard.Defaults

/-- The width of the canvas. -/
def canvasWidth : Float := 800.0

/-- The height of the canvas. -/
def canvasHeight : Float := 600.0

/-- The number of ticks that an animation is spread over. -/
def frameRate : Float := 30.0

/-- The number of frames that may be shown in a second. -/
def rateLimit : Float := 30.0

/-- The anchor of an object along either axis: the middle of the canvas. -/
def center : Float := 0.5

/-- The sides of a box. -/
def boxSide : Float := 10.0

/-- The radii of an ellipse. -/
def ellipseRadius : Float := 10.0

/-- The start of a line along either axis. -/
def lineStart : Float := 0.25

/-- The end of a line along either axis. -/
def lineEnd : Float := 0.75

/-- The control point of a spline along either axis. -/
def splineControl : Float := 0.5

/-- The width of a stroke. -/
def strokeWidth : Float := 1.0

/-- The number of sides of a polygon. -/
def polygonSides : Float := 3.0

/-- The radius of a polygon. -/
def polygonRadius : Float := 10.0

/-- The size of a text. -/
def textSize : Float := 16.0

/-- The colour of an object. -/
def color : String := "white"

/-- The priority of links, which are drawn first. -/
def linkPriority : Float := -20.0

/-- The priority of lines, wires and splines. -/
def linePriority : Float := -10.0

/-- The priority of texts, which are drawn last. -/
def textPriority : Float := 10.0

/-- The margin that an automatic layout leaves, as a fraction of the canvas. -/
def springMargin : Float := 0.05

/-- The tool that lays out graphs. -/
def layoutTool : String := "neato"

/-- The radius of an arrowhead as a multiple of its stroke width. -/
def arrowheadScale : Float := 2.0

/-- The name of the status overlay. -/
def statusName : String := "_status"

/-- The size of the status text. -/
def statusTextSize : Float := 10.0

/-- The distance of the status text from the left edge. -/
def statusOffsetX : Float := 96.0

/-- The distance of the status text from the bottom edge. -/
def statusOffsetY : Float := -10.0

end Storyboard.Defaults
