import Storyboard.Grammar.Expr

/-!
# The strict grammar

In strict mode every line is matched against this grammar before anything is executed. Verbs
and type words have to be spelled out, in any letter case, and the operands of every
statement have fixed kinds. A line that begins with `#` is a comment; later in a line a
comment runs to the next semicolon outside quotes.

Sections follow the grammar from its leaves up: operands, options and keywords, objects,
commands, lines.
-/

namespace Storyboard.Grammar

open Storyboard.Grammar.Expr

/-! ## Characters -/

/-- A literal text. -/
def lit (s : String) : Expr := text s.toList

/-- A line separator. -/
def newline : Expr := first [lit "\n", lit "\r\n", lit "\r"]

/-- A blank between operands. -/
def blank : Expr := first [lit " ", lit "\t"]

/-- The end of the text, as a rule of its own. -/
def endOfInput : Expr := rule .endOfInput .inherited finish

/-- Any one character that does not begin one of the given expressions. -/
def anyBut (e : Expr) : Expr := seq (absent e) (one .any)

/-- The characters that make up keywords and names. -/
def wordChar : Expr := first [one .alphanumeric, lit "_", lit "."]

/-- The end of an operand. -/
def boundary : Expr :=
  absent (first [wordChar, lit "+", lit "-", lit "/", lit ",", lit "#"])

/-! ## Operands -/

/-- A name. -/
def identifier : Expr :=
  rule .identifier .atomic
    (seq (first [one .letter, lit "_"]) (star (first [one .alphanumeric, lit "_"])))

/-- One of the patterns that are not names: a sentinel or a regular expression. -/
def sentinel : Expr :=
  first [lit "--", lit "-",
    all [lit "/", plus (anyBut (first [lit "/", blank, lit ";"])), lit "/"]]

/-- A name pattern. -/
def pattern : Expr :=
  rule .pattern .atomic
    (first [
      seq sentinel (ahead (first [blank, lit ";", endOfInput, newline])),
      seq identifier boundary])

/-- An optional sign. -/
def sign : Expr := opt (first [lit "-", lit "+"])

/-- The exponent of a decimal number. -/
def exponent : Expr :=
  all [first [lit "e", lit "E"], opt (first [lit "+", lit "-"]), plus (one .digit)]

/-- A hexadecimal number. -/
def hex : Expr := all [lit "0", first [lit "x", lit "X"], plus (one .hexDigit)]

/-- A decimal number. -/
def decimal : Expr :=
  seq
    (first [
      seq (plus (one .digit)) (opt (seq (lit ".") (star (one .digit)))),
      seq (lit ".") (plus (one .digit))])
    (opt exponent)

/-- A decimal number without exponent. -/
def unsigned : Expr := seq (plus (one .digit)) (opt (seq (lit ".") (star (one .digit))))

/-- A number. -/
def number : Expr := rule .number .atomic (all [sign, first [hex, decimal], boundary])

/-- A name with an optional offset. -/
def reference : Expr :=
  rule .reference .atomic
    (all [identifier,
      opt (all [first [lit "+", lit "-"], unsigned, first [lit "+", lit "-"], unsigned]),
      boundary])

/-- A position: two numbers or a reference. -/
def position : Expr := first [seq number number, reference]

/-- A colour. -/
def color : Expr :=
  rule .color .atomic
    (seq
      (first [
        all [lit "#", times 6 (one .hexDigit), opt (times 2 (one .hexDigit))],
        all [decimal, lit ",", decimal, lit ",", decimal, opt (seq (lit ",") decimal)],
        seq sign (first [hex, decimal]),
        identifier])
      boundary)

/-- A text between quotes. -/
def string : Expr :=
  rule .string .compound
    (first [
      all [lit "\x22", rule .doubleQuoted .atomic (star (anyBut (lit "\x22"))), lit "\x22"],
      all [lit "\x27", rule .singleQuoted .atomic (star (anyBut (lit "\x27"))), lit "\x27"]])

/-- A text without quotes. -/
def word : Expr :=
  rule .word .atomic
    (seq (absent (first [lit "\x22", lit "\x27"]))
      (plus (anyBut (first [blank, newline, lit ";"]))))

/-- A text operand. -/
def textOperand : Expr := first [string, word]

/-! ## Options and keywords -/

/-- The option that names a frame colour or a layout tool. -/
def fillOption : Expr := rule .fillOption .atomic (seq (lit "-f") (absent wordChar))

/-- The option that gives an angle. -/
def turnOption : Expr := rule .turnOption .atomic (seq (lit "-r") (absent wordChar))

/-- The option that asks for arrowheads. -/
def arrowOption : Expr :=
  rule .arrowOption .atomic
    (all [lit "-", plus (first [lit "h", lit "t"]), absent wordChar])

/-- The option that aligns a text. -/
def alignOption : Expr :=
  rule .alignOption .atomic
    (all [lit "-", plus (first [lit "l", lit "c", lit "r"]), absent wordChar])

/-- The keyword of a verb. -/
def keyword (v : Verb) : Expr :=
  rule (.keyword v) .atomic (seq (folded v.name.toList) (absent wordChar))

/-- The type word of a shape kind. -/
def shapeWord (k : ShapeKind) : Expr :=
  rule (.shapeWord k) .atomic (seq (folded k.name.toList) (absent wordChar))

/-! ## Objects -/

/-- A colour with an optional position. -/
def placed : Expr := seq color (opt position)

/-- Optional width, height, colour and position. -/
def sized : Expr := opt (seq number (opt (seq number (opt placed))))

/-- Optional start, end, width and colour. -/
def stroked : Expr :=
  opt (seq position (opt (seq position (opt (seq number (opt color))))))

/-- The type word, options and operands of an object. -/
def shape : Expr :=
  first [
    all [shapeWord .bitmap, textOperand, opt position],
    all [shapeWord .box, opt (seq fillOption color), sized],
    all [shapeWord .ellipse, opt (seq fillOption color), sized],
    all [shapeWord .line, opt arrowOption, stroked],
    all [shapeWord .link, pattern, pattern, opt (seq number (opt color))],
    all [shapeWord .polygon,
      star (first [seq fillOption color, seq turnOption number]), sized],
    all [shapeWord .spline, opt arrowOption, opt (seq position stroked)],
    all [shapeWord .text, opt alignOption,
      opt (seq textOperand (opt (seq number (opt placed))))],
    all [shapeWord .wire, opt arrowOption, stroked]]

/-! ## Commands -/

/-- Four numbers that give two corners. -/
def region : Expr := all [number, number, number, number]

/-- The operands of a verb. -/
def operands : Verb → List Expr
  | .alpha => [pattern, number]
  | .animate => [pattern, position]
  | .attach => [pattern, pattern, opt (seq number (opt number))]
  | .color => [pattern, color]
  | .define => [pattern, shape]
  | .display => []
  | .fade => [plus pattern]
  | .fix => [plus pattern]
  | .hide => [plus pattern]
  | .kill => [plus pattern]
  | .move => [pattern, position]
  | .palette => [identifier, number, opt (all [number, number, opt number])]
  | .play => [textOperand]
  | .priority => [pattern, number]
  | .resize => [pattern, position]
  | .scale => [pattern, number]
  | .shift => [pattern, number, number]
  | .sleep => [number]
  | .spring =>
      [star (first [seq fillOption textOperand, seq turnOption number]),
       plus pattern, opt region]
  | .unhide => [plus pattern]
  | .wait => []

/-- A statement of a given verb. -/
def command (v : Verb) : Expr := rule (.command v) .inherited (all (keyword v :: operands v))

/-! ## Lines -/

/-- A comment that takes a whole line. -/
def commentLine : Expr :=
  rule .commentLine .atomic (seq (lit "#") (star (anyBut newline)))

/-- A text between quotes inside a comment. -/
def quotation : Expr :=
  first [
    all [lit "\x22", star (anyBut (lit "\x22")), lit "\x22"],
    all [lit "\x27", star (anyBut (lit "\x27")), lit "\x27"]]

/-- A comment that ends before a semicolon. -/
def comment : Expr :=
  rule .comment .atomic
    (seq (lit "#") (star (first [quotation, anyBut (first [lit ";", newline])])))

/-- A comment or a command. -/
def statement : Expr := first (comment :: Verb.all.map command)

/-- The content of a line. -/
def lineBody : Expr :=
  first [commentLine, seq (opt statement) (star (seq (lit ";") (opt statement)))]

/-- The start of the text, which blanks may follow. -/
def startOfInput : Expr := text []

/-- A whole line. -/
def line : Expr := rule .line .inherited (all [startOfInput, lineBody, endOfInput])

/-- A whole script. -/
def script : Expr :=
  rule .script .inherited
    (all [startOfInput, lineBody, star (seq newline lineBody), endOfInput])

end Storyboard.Grammar
